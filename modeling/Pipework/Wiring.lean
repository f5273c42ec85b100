import Pipework.Network.Basic
import Pipework.ComponentArgs

namespace Pipework

/-- Whose pipe a port is bound to: the network's own, or one supplied for a port of the network. -/
inductive PipeOwner where
  | network
  | supplied (name : String)
deriving DecidableEq, Repr

structure BoundPort where
  port : String
  path : Path
  owner : PipeOwner
deriving DecidableEq, Repr

structure NodePipes where
  inports : List BoundPort := []
  outports : List BoundPort := []
deriving DecidableEq, Repr

/-- The bound ports of a network. -/
structure Wiring where
  dir : Path
  processes : NameMap NodePipes
deriving DecidableEq

namespace NodePipes

/-- The inports whose named pipes have to be made. -/
def ownedPipes (p : NodePipes) : List BoundPort := p.inports.filter (·.owner == .network)

def componentArgs (p : NodePipes) (free : List String) : ComponentArgs where
  inports := p.inports.map fun b => ⟨b.port, b.path⟩
  outports := p.outports.map fun b => ⟨b.port, b.path⟩
  free := free

end NodePipes

namespace Wiring

/-- The pipes that have been given away, with the inports that have them. -/
abbrev Taken := List (Path × String)

def inportLabel (process port : String) : String :=
  s!"{Text.quoted process} port {Text.quoted port}"

def supplied (path : Option Path) (d : Direction) (name : String) : Except NetworkError Path :=
  match path with
  | some path => .ok path
  | none => .error (.missingBoundaryPath d.portWord name)

/-- Binds an inport. No two inports may have one named pipe. -/
def bindInport (dir : Path) (boundary : ComponentArgs) (process : String) (taken : Taken)
    (p : Inport) : Except NetworkError (Taken × BoundPort) :=
  match p.boundary with
  | some name => do
    return (taken, ⟨p.port, ← supplied (boundary.inport? name) .inward name, .supplied name⟩)
  | none =>
    let path := ComponentArgs.pipePath dir process p.port
    -- names with dots in them can lead to one path from two inports
    match taken.lookup path with
    | some first => .error (.pathCollision path first (inportLabel process p.port))
    | none => .ok ((path, inportLabel process p.port) :: taken, ⟨p.port, path, .network⟩)

def bindInports (dir : Path) (boundary : ComponentArgs) (process : String) (taken : Taken) :
    List Inport → Except NetworkError (Taken × List BoundPort)
  | [] => .ok (taken, [])
  | p :: ps => do
    let (taken, b) ← bindInport dir boundary process taken p
    let (taken, bs) ← bindInports dir boundary process taken ps
    return (taken, b :: bs)

def bindOutport (dir : Path) (boundary : ComponentArgs) (p : Outport) :
    Except NetworkError BoundPort :=
  match p.target with
  | .port process port => .ok ⟨p.port, ComponentArgs.pipePath dir process port, .network⟩
  | .boundary name => do
    return ⟨p.port, ← supplied (boundary.outport? name) .outward name, .supplied name⟩

def bindNodes (dir : Path) (boundary : ComponentArgs) (taken : Taken) :
    List Node → Except NetworkError (List (String × NodePipes))
  | [] => .ok []
  | n :: ns => do
    let (taken, inports) ← bindInports dir boundary n.name taken n.inports
    let outports ← n.outports.mapM (bindOutport dir boundary)
    return (n.name, ⟨inports, outports⟩) :: (← bindNodes dir boundary taken ns)

/-- Binds all ports of a network. The named pipes lie in `dir`. -/
def plan (network : Network) (dir : Path) (boundary : ComponentArgs) :
    Except NetworkError Wiring := do
  let bound ← bindNodes dir boundary [] network.processes.values
  return ⟨dir, NameMap.ofList bound⟩

def process? (t : Wiring) (name : String) : Option NodePipes := t.processes.get? name

def pipeCount (t : Wiring) : Nat := (t.processes.values.flatMap (·.ownedPipes)).length

end Wiring

end Pipework
