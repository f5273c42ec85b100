import Pipework.Duration
import Pipework.Json.Write
import Pipework.Run.Plan
import Pipework.Text.Table

namespace Pipework.Display

inductive Format where
  | plain
  | table
  | json
deriving DecidableEq, Repr

structure Row where
  name : String
  component : String
  inports : List String
  outports : List String
  packets : List String
  argv : List String

def showInport (p : Inport) : String :=
  match p.boundary with
  | some name => s!"{p.port} <- INPORT.{name}"
  | none => p.port

def showOutport (p : Outport) : String :=
  match p.target with
  | .port process port => s!"{p.port} -> {process}.{port}"
  | .boundary name => s!"{p.port} -> OUTPORT.{name}"

def showPacket (p : Packet) : String := s!"{p.port}: {p.data}"

/-- A process as it is shown, with the arguments of the launch that has its name. -/
def rowOf (specs : List PlannedProcess) (n : Node) : Row where
  name := n.name
  component := n.component
  inports := n.inports.map showInport
  outports := n.outports.map showOutport
  packets := n.packets.map showPacket
  argv := ((specs.find? (·.name == n.name)).map fun s => s.argv.map Text.lossy).getD []

def unlines (lines : List String) : String := String.join (lines.map (· ++ "\n"))

def jsonTexts (texts : List String) : String := Json.writeArray (texts.map Json.writeString)

namespace Row

def plainLines (r : Row) : List String :=
  [s!"{r.name} ({r.component})"] ++ r.inports.map ("  in   " ++ ·) ++
    r.outports.map ("  out  " ++ ·) ++ r.packets.map ("  iip  " ++ ·) ++
    ["  argv " ++ " ".intercalate r.argv]

def toJson (r : Row) : String :=
  Json.writeObject [("name", Json.writeString r.name), ("component", Json.writeString r.component),
    ("inports", jsonTexts r.inports), ("outports", jsonTexts r.outports),
    ("iips", jsonTexts r.packets), ("argv", jsonTexts r.argv)]

def cells (r : Row) : List String :=
  [r.name, r.component, "\n".intercalate r.inports, "\n".intercalate r.outports,
    "\n".intercalate r.packets, " ".intercalate r.argv]

end Row

def network (n : Network) (specs : List PlannedProcess) (format : Format) : String :=
  let rows := n.processes.values.map (rowOf specs)
  match format with
  | .plain => unlines (rows.flatMap Row.plainLines)
  | .json => Json.writeArray (rows.map Row.toJson) ++ "\n"
  | .table => Text.Table.render ["PROCESS", "COMPONENT", "INPORTS", "OUTPORTS", "IIPS", "ARGV"]
      (rows.map Row.cells) ++ "\n"

def dependencies (deps : List String) (format : Format) : String :=
  match format with
  | .plain => unlines deps
  | .json => jsonTexts deps ++ "\n"
  | .table => Text.Table.render ["DEPENDENCY"] (deps.map fun d => [d]) ++ "\n"

def elapsed (d : Duration) (launched failed : Nat) (format : Format) : String :=
  match format with
  | .json => Json.writeObject [("elapsed_ms", toString d.toMilliseconds),
      ("launched", toString launched), ("failed", toString failed)] ++ "\n"
  | .plain | .table => s!"time: {d.toText}\n"

end Pipework.Display
