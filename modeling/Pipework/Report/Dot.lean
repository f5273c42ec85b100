import Pipework.Network.Basic

namespace Pipework.Dot

inductive Shape where
  | boundary
  | packet
deriving DecidableEq, Repr

inductive Statement where
  | process (name label : String)
  | node (name : String) (shape : Shape) (label : String)
  | edge (source target label : String) (dashed : Bool)
deriving DecidableEq, Repr

def inportNode (name : String) : String := "INPORT." ++ name

def outportNode (name : String) : String := "OUTPORT." ++ name

/-- The node of an initial packet, by its index among those of the process. -/
def packetNode (process : String) (index : Nat) : String := s!"IIP.{process}.{index}"

def ofNode (n : Node) : Statement := .process n.name (n.name ++ "\n" ++ n.component)

def ofInport (name : String) (p : BoundaryPort) : List Statement :=
  [.node (inportNode name) .boundary name, .edge (inportNode name) p.process p.port false]

def ofOutport (process : String) (p : Outport) : List Statement :=
  match p.target with
  | .port remote port => [.edge process remote (p.port ++ " -> " ++ port) false]
  | .boundary name =>
    [.node (outportNode name) .boundary name, .edge process (outportNode name) p.port false]

def ofPacket (process : String) (index : Nat) (p : Packet) : List Statement :=
  [.node (packetNode process index) .packet ("'" ++ p.data ++ "'"),
    .edge (packetNode process index) process p.port true]

def statements (n : Network) : List Statement :=
  n.processes.values.map ofNode ++
    n.inports.entries.flatMap (fun e => ofInport e.1 e.2) ++
    n.processes.values.flatMap (fun p => p.outports.flatMap (ofOutport p.name)) ++
    n.processes.values.flatMap (fun p => (p.packets.mapIdx (ofPacket p.name)).flatten)

def escapeChar (c : Char) : List Char :=
  if c = '"' then ['\\', '"']
  else if c = '\\' then ['\\', '\\']
  else if c = '\n' then ['\\', 'n']
  else [c]

def quote (s : String) : String := "\"" ++ String.ofList (s.toList.flatMap escapeChar) ++ "\""

def Shape.word : Shape → String
  | boundary => "cds"
  | packet => "plaintext"

def Statement.pieces : Statement → List String
  | process name label => ["    ", quote name, " [label=", quote label, "];\n"]
  | node name shape label =>
    ["    ", quote name, " [shape=" ++ shape.word ++ ", label=", quote label, "];\n"]
  | edge source target label dashed =>
    ["    ", quote source, " -> ", quote target, " [label=", quote label,
      if dashed then ", style=dashed];\n" else "];\n"]

def opening : String := "digraph network \x7b\n    rankdir=LR;\n    node [shape=box];\n"

def closing : String := "\x7d\n"

def pieces (n : Network) : List String :=
  opening :: (statements n).flatMap Statement.pieces ++ [closing]

section

variable {m : Type → Type} [Monad m] (out : String → m Unit)

def Statement.write (s : Statement) : m Unit := s.pieces.forM out

def write (n : Network) : m Unit := do
  out opening
  n.processes.values.forM fun p => (ofNode p).write out
  n.inports.entries.forM fun e => (ofInport e.1 e.2).forM (Statement.write out)
  n.processes.values.forM fun p =>
    p.outports.forM fun o => (ofOutport p.name o).forM (Statement.write out)
  n.processes.values.forM fun p =>
    (p.packets.mapIdx (ofPacket p.name)).forM fun ss => ss.forM (Statement.write out)
  out closing

end

def render (n : Network) : String :=
  ((write (fun piece => modify (· ++ piece)) n : StateM String Unit).run "").2

/-- A sink for text that refuses every piece longer than the room that is left. It remembers what it
was offered, and whether it took it. -/
structure TextSink where
  room : Nat
  taken : String := ""
  offers : List (String × Bool) := []

/-- Offers a piece to a sink, which takes all of it or refuses it. -/
def TextSink.answer (s : TextSink) (piece : String) : Except Unit Unit × TextSink :=
  if piece.utf8ByteSize ≤ s.room then
    (.ok (), ⟨s.room - piece.utf8ByteSize, s.taken ++ piece, s.offers ++ [(piece, true)]⟩)
  else (.error (), { s with offers := s.offers ++ [(piece, false)] })

/-- Offers a piece to the sink at hand. A refusal is an error. -/
def offer (piece : String) : ExceptT Unit (StateM TextSink) Unit :=
  .mk fun s => s.answer piece

/-- Writes the graph of a network into a sink with some room. Has all of it been taken? -/
def writeInto (n : Network) (room : Nat) : Bool × TextSink :=
  let (result, s) := (write offer n).run.run { room := room }
  (result.isOk, s)

end Pipework.Dot
