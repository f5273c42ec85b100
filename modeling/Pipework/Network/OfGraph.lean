import Pipework.Graph
import Pipework.Network.Basic
import Pipework.Text.Blank

/-!
From a graph to a network. The processes are looked at first, then the connections in order, then
the inports and outports of the network by name; the first thing that is wrong is the answer.
-/

namespace Pipework

namespace Network

/-- Can the text be part of the name of a file? Named pipes are called after processes and ports. -/
def isFileName (name : String) : Bool :=
  !name.isEmpty && name != "." && name != ".." && !name.toList.contains '/' &&
    !name.toList.any Text.isControl

def checkName (kind name : String) : Except NetworkError Unit :=
  if isFileName name then .ok () else .error (.invalidName kind name)

def checkDeclared (nodes : NameMap Node) (process context : String) : Except NetworkError Unit :=
  if nodes.contains process then .ok () else .error (.unknownProcess process context)

def updateNode (nodes : NameMap Node) (process : String) (f : Node → Node) : NameMap Node :=
  match nodes.get? process with
  | some n => nodes.insert process (f n)
  | none => nodes

def nodeOf (name : String) (d : ProcessDeclaration) : Node :=
  { name := name, component := d.component
    metadata := d.metadata.mapValues fun _ x => x.plainText }

def checkProcess (name : String) (d : ProcessDeclaration) : Except NetworkError Unit := do
  checkName "process" name
  if (Text.trimBlanks d.component.toList).isEmpty then
    throw (.missingComponent name)

def declareProcesses (g : Graph) : Except NetworkError (NameMap Node) := do
  g.processes.entries.forM fun e => checkProcess e.1 e.2
  return g.processes.mapValues nodeOf

/-- Adds an edge between ports of declared processes. An inport takes one edge. -/
def addEdge (nodes : NameMap Node) (source target : Endpoint) :
    Except NetworkError (NameMap Node) :=
  let fed := (nodes.get? target.process).any (·.hasInport target.port)
  if fed then .error (.duplicateConnection target.process target.port)
  else
    let nodes := updateNode nodes target.process fun n =>
      { n with inports := n.inports ++ [{ port := target.port }] }
    -- the sender may be the receiver, so it is taken from the changed table
    .ok (updateNode nodes source.process fun n =>
      { n with outports := n.outports ++ [⟨source.port, .port target.process target.port⟩] })

def addPacket (nodes : NameMap Node) (data : String) (target : Endpoint) :
    Except NetworkError (NameMap Node) :=
  if target.port ≠ argumentsPort then .error (.unsupportedPacket target.process target.port)
  else match Text.words? data with
    | none => .error (.unsplittableArguments target.process)
    | some _ => .ok (updateNode nodes target.process fun n =>
        { n with packets := n.packets ++ [⟨target.port, data⟩] })

def connectionContext (index : Nat) : String := s!"connection #{index}"

def addConnection (nodes : NameMap Node) (index : Nat) (c : Connection) :
    Except NetworkError (NameMap Node) := do
  checkDeclared nodes c.target.process (connectionContext index)
  checkName "port" c.target.port
  -- the receiver has been looked at, whatever is sent to it
  match c.source, c.dataText? with
  | some source, none =>
    checkDeclared nodes source.process (connectionContext index)
    checkName "port" source.port
    addEdge nodes source c.target
  | none, some data => addPacket nodes data c.target
  | some _, some _ => throw (.malformedConnection index "has both src and data")
  | none, none => throw (.malformedConnection index "has neither src nor data")

def addConnections (nodes : NameMap Node) (index : Nat) :
    List Connection → Except NetworkError (NameMap Node)
  | [] => .ok nodes
  | c :: cs => do addConnections (← addConnection nodes index c) (index + 1) cs

def boundaryContext (d : Direction) (name : String) : String :=
  s!"network {d.portWord} {Text.quoted name}"

def inUse (nodes : NameMap Node) (d : Direction) (p : Endpoint) : Bool :=
  (nodes.get? p.process).any fun n => match d with
    | .inward => n.hasInport p.port
    | .outward => n.hasOutport p.port

def withBoundary (d : Direction) (name port : String) (n : Node) : Node :=
  match d with
  | .inward => { n with inports := n.inports ++ [⟨port, some name⟩] }
  | .outward => { n with outports := n.outports ++ [⟨port, .boundary name⟩] }

/-- Makes a port of a process a port of the network. Nothing else may use it. -/
def addBoundary (d : Direction) (nodes : NameMap Node) (e : String × Endpoint) :
    Except NetworkError (NameMap Node) := do
  let (name, p) := e
  checkName ("network " ++ d.portWord) name
  checkDeclared nodes p.process (boundaryContext d name)
  checkName "port" p.port
  if inUse nodes d p then
    throw (.boundaryConflict name p.process p.port)
  return updateNode nodes p.process (withBoundary d name p.port)

def boundaryPorts (ports : NameMap Endpoint) : NameMap BoundaryPort :=
  ports.mapValues fun name p => ⟨name, p.process, p.port⟩

def ofGraph (g : Graph) : Except NetworkError Network := do
  let nodes ← declareProcesses g
  let nodes ← addConnections nodes 0 g.connections
  let nodes ← g.inports.entries.foldlM (addBoundary .inward) nodes
  let nodes ← g.outports.entries.foldlM (addBoundary .outward) nodes
  return ⟨nodes, boundaryPorts g.inports, boundaryPorts g.outports⟩

end Network

end Pipework
