import Pipework.Network.Error
import Pipework.Text.Words

namespace Pipework

/-- An inport of a process. Its frames come from inside the network or from a network inport. -/
structure Inport where
  port : String
  boundary : Option String := none
deriving DecidableEq, Repr

inductive Target where
  | port (process port : String)
  | boundary (name : String)
deriving DecidableEq, Repr

structure Outport where
  port : String
  target : Target
deriving DecidableEq, Repr

structure Packet where
  port : String
  data : String
deriving DecidableEq, Repr

structure Node where
  name : String
  component : String
  metadata : NameMap String := ∅
  inports : List Inport := []
  outports : List Outport := []
  packets : List Packet := []
deriving DecidableEq

structure BoundaryPort where
  name : String
  process : String
  port : String
deriving DecidableEq, Repr

/-- A network in which every name refers to something. -/
structure Network where
  processes : NameMap Node := ∅
  inports : NameMap BoundaryPort := ∅
  outports : NameMap BoundaryPort := ∅
deriving DecidableEq

def argumentsPort : String := "ARGS"

namespace Node

def hasInport (n : Node) (port : String) : Bool := n.inports.any (·.port == port)

def hasOutport (n : Node) (port : String) : Bool := n.outports.any (·.port == port)

/-- The arguments that the initial packets of a process hold, in order. -/
def freeArguments (n : Node) : Except NetworkError (List String) := do
  let packets := n.packets.filter (·.port == argumentsPort)
  let groups ← packets.mapM fun p => match Text.words? p.data with
    | some words => .ok words
    | none => .error (.unsplittableArguments n.name)
  return groups.flatten

end Node

namespace Network

def process? (n : Network) (name : String) : Option Node := n.processes.get? name

def size (n : Network) : Nat := n.processes.size

def isEmpty (n : Network) : Bool := n.processes.isEmpty

def edgeCount (n : Network) : Nat :=
  (n.processes.values.flatMap (·.inports)).countP (·.boundary.isNone)

end Network

end Pipework
