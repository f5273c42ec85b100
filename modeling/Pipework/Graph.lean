import Pipework.Json.Read
import Pipework.Json.Write

namespace Pipework

structure Endpoint where
  process : String
  port : String
deriving DecidableEq, Repr

structure ProcessDeclaration where
  component : String
  metadata : NameMap Json := ∅
deriving DecidableEq

/-- An edge, which has a source, or an initial packet, which has data. -/
structure Connection where
  source : Option Endpoint := none
  data : Option Json := none
  target : Endpoint
deriving DecidableEq

/-- A graph as it is declared. -/
structure Graph where
  processes : NameMap ProcessDeclaration := ∅
  connections : List Connection := []
  inports : NameMap Endpoint := ∅
  outports : NameMap Endpoint := ∅
deriving DecidableEq

def Connection.dataText? (c : Connection) : Option String :=
  c.data.map Json.plainText

namespace Graph

def empty : Graph := {}

/-- Declares a process; an earlier one of the name gives way. -/
def addProcess (g : Graph) (name component : String) : Graph :=
  { g with processes := g.processes.insert name { component := component } }

def addMetadata (g : Graph) (process key value : String) : Graph :=
  match g.processes.get? process with
  | none => g
  | some p =>
    let p := { p with metadata := p.metadata.insert key (.string value) }
    { g with processes := g.processes.insert process p }

def connect (g : Graph) (source target : Endpoint) : Graph :=
  { g with connections := g.connections ++ [{ source := some source, target := target }] }

def addPacket (g : Graph) (data : String) (target : Endpoint) : Graph :=
  { g with connections := g.connections ++ [{ data := some (.string data), target := target }] }

def addInport (g : Graph) (name : String) (port : Endpoint) : Graph :=
  { g with inports := g.inports.insert name port }

def addOutport (g : Graph) (name : String) (port : Endpoint) : Graph :=
  { g with outports := g.outports.insert name port }

end Graph

end Pipework
