import Pipework.Graph

/-!
The JSON document of a graph. Members stand in the order in which they are declared; metadata that
is empty and sources and data that are absent are left out.
-/

namespace Pipework

open Json (writeObject writeArray writeString)

def Endpoint.write (p : Endpoint) : String :=
  writeObject [("process", writeString p.process), ("port", writeString p.port)]

def Endpoint.writeTable (ports : NameMap Endpoint) : String :=
  writeObject (ports.entries.map fun e => (e.1, e.2.write))

def ProcessDeclaration.write (p : ProcessDeclaration) : String :=
  writeObject ([("component", writeString p.component)] ++
    if p.metadata.isEmpty then []
    else [("metadata", writeObject (p.metadata.entries.map fun e => (e.1, e.2.write)))])

def Connection.write (c : Connection) : String :=
  writeObject ((c.source.map fun p => ("src", p.write)).toList ++
    (c.data.map fun x => ("data", x.write)).toList ++ [("tgt", c.target.write)])

def Graph.write (g : Graph) : String :=
  writeObject [
    ("processes", writeObject (g.processes.entries.map fun e => (e.1, e.2.write))),
    ("connections", writeArray (g.connections.map Connection.write)),
    ("inports", Endpoint.writeTable g.inports),
    ("outports", Endpoint.writeTable g.outports)]

end Pipework
