import Pipework.Graph

/-!
Reading graphs from JSON documents. Members of other names are passed over, whatever they hold; a
member that is declared twice, is missing or has another shape is a mismatch. A record may also be
written as an array of its members in the order of declaration.
-/

namespace Pipework

open Json

structure RecordPlace (cs : List Char) where
  /-- Has the closing bracket been read? -/
  closed : Bool
  first : Bool
  rest : List Char
  notLonger : rest.length ≤ cs.length

namespace RecordPlace

theorem notLonger_start (cs : List Char) : cs.length ≤ cs.length := Nat.le_refl _

def start (cs : List Char) : RecordPlace cs := ⟨false, true, cs, notLonger_start cs⟩

def next {α : Type} {cs : List Char} (item : Reader α) (p : RecordPlace cs) :
    Except Fault (Option α × RecordPlace cs) :=
  if p.closed then .ok (none, p)
  else match nextItem p.first p.rest with
    | .error e => .error e
    | .ok (.finished rest h) =>
      .ok (none, ⟨true, false, rest, Nat.le_trans (Nat.le_of_lt h) p.notLonger⟩)
    | .ok (.more rest h) => match item rest with
      | .error e => .error e
      | .ok ⟨x, rest', h'⟩ => .ok (some x, ⟨false, false, rest',
          Nat.le_trans (Nat.le_of_lt h') (Nat.le_trans h p.notLonger)⟩)

def require {α : Type} {cs : List Char} (item : Reader α) (p : RecordPlace cs) :
    Except Fault (α × RecordPlace cs) := do
  match ← p.next item with
  | (some x, p) => return (x, p)
  | (none, _) => throw .mismatched

def close {cs : List Char} (p : RecordPlace cs) :
    Except Fault { rest : List Char // rest.length ≤ cs.length } :=
  if p.closed then .ok ⟨p.rest, p.notLonger⟩
  else match h : skipBlanks p.rest with
    | [] => .error .cutShort
    | c :: rest =>
      if c = ']' then
        .ok ⟨rest, Nat.le_trans (Nat.le_of_lt (length_lt_of_skipBlanks h)) p.notLonger⟩
      else .error .malformed

end RecordPlace

theorem length_lt_of_members {cs inner rest : List Char} (h : rest.length < inner.length)
    (hc : inner.length < cs.length) : rest.length < cs.length :=
  Nat.lt_trans h hc

theorem length_lt_of_place {cs inner rest : List Char} (h : rest.length ≤ inner.length)
    (hc : inner.length < cs.length) : rest.length < cs.length :=
  Nat.lt_of_le_of_lt h hc

def readRecord {α σ : Type} (start : σ) (member : σ → String → Reader σ)
    (finish : σ → Except Fault α)
    (positional : (cs : List Char) → Except Fault (α × RecordPlace cs)) : Reader α := fun cs =>
  match h : skipBlanks cs with
  | c :: inner => do
    have hc := length_lt_of_skipBlanks h
    if c = '\x7b' then
      let ⟨s, rest, h'⟩ ← readMembers member start inner
      return ⟨← finish s, rest, length_lt_of_members h' hc⟩
    else if c = '[' then
      let (x, place) ← positional inner
      let ⟨rest, h'⟩ ← place.close
      return ⟨x, rest, length_lt_of_place h' hc⟩
    else throw (mismatch cs)
  | [] => .error .cutShort

def readFresh {α : Type} (earlier : Option α) (item : Reader α) : Reader α := fun cs =>
  if earlier.isSome then .error .mismatched else readMember item cs

def skipMember {α : Type} (x : α) : Reader α := fun cs =>
  (readMember skipValue cs).map fun ⟨_, rest, h⟩ => ⟨x, rest, h⟩

def present {α : Type} : Option α → Except Fault α
  | some x => .ok x
  | none => .error .mismatched

namespace Endpoint

structure Draft where
  process : Option String := none
  port : Option String := none

def Draft.member (d : Draft) (name : String) : Reader Draft := fun cs =>
  if name = "process" then
    (readFresh d.process readString cs).map fun ⟨x, rest, h⟩ =>
      ⟨{ d with process := some x }, rest, h⟩
  else if name = "port" then
    (readFresh d.port readString cs).map fun ⟨x, rest, h⟩ => ⟨{ d with port := some x }, rest, h⟩
  else skipMember d cs

def read : Reader Endpoint :=
  readRecord {} Draft.member
    (fun d => do return ⟨← present d.process, ← present d.port⟩)
    fun cs => do
      let (process, p) ← (RecordPlace.start cs).require readString
      let (port, p) ← p.require readString
      return (⟨process, port⟩, p)

end Endpoint

namespace ProcessDeclaration

/-- The levels of nesting that are left for a value in the metadata of a process. -/
def metadataLevels : Nat := maxLevels - 4

def readMetadata : Reader (NameMap Json) := readTable (readValue metadataLevels)

structure Draft where
  component : Option String := none
  metadata : Option (NameMap Json) := none

def Draft.member (d : Draft) (name : String) : Reader Draft := fun cs =>
  if name = "component" then
    (readFresh d.component readString cs).map fun ⟨x, rest, h⟩ =>
      ⟨{ d with component := some x }, rest, h⟩
  else if name = "metadata" then
    (readFresh d.metadata readMetadata cs).map fun ⟨x, rest, h⟩ =>
      ⟨{ d with metadata := some x }, rest, h⟩
  else skipMember d cs

def read : Reader ProcessDeclaration :=
  readRecord {} Draft.member
    (fun d => do return ⟨← present d.component, d.metadata.getD ∅⟩)
    fun cs => do
      let (component, p) ← (RecordPlace.start cs).require readString
      let (metadata, p) ← p.next readMetadata
      return (⟨component, metadata.getD ∅⟩, p)

end ProcessDeclaration

namespace Connection

def dataLevels : Nat := maxLevels - 3

def readSource : Reader (Option Endpoint) := readOptional Endpoint.read

def readData : Reader (Option Json) := readOptional (readValue dataLevels)

structure Draft where
  source : Option (Option Endpoint) := none
  data : Option (Option Json) := none
  target : Option Endpoint := none

def Draft.member (d : Draft) (name : String) : Reader Draft := fun cs =>
  if name = "src" then
    (readFresh d.source readSource cs).map fun ⟨x, rest, h⟩ =>
      ⟨{ d with source := some x }, rest, h⟩
  else if name = "data" then
    (readFresh d.data readData cs).map fun ⟨x, rest, h⟩ => ⟨{ d with data := some x }, rest, h⟩
  else if name = "tgt" then
    (readFresh d.target Endpoint.read cs).map fun ⟨x, rest, h⟩ =>
      ⟨{ d with target := some x }, rest, h⟩
  else skipMember d cs

def read : Reader Connection :=
  readRecord {} Draft.member
    (fun d => do return ⟨d.source.join, d.data.join, ← present d.target⟩)
    fun cs => do
      let (source, p) ← (RecordPlace.start cs).next readSource
      let (data, p) ← p.next readData
      let (target, p) ← p.require Endpoint.read
      return (⟨source.join, data.join, target⟩, p)

end Connection

namespace Graph

structure Draft where
  processes : Option (NameMap ProcessDeclaration) := none
  connections : Option (List Connection) := none
  inports : Option (NameMap Endpoint) := none
  outports : Option (NameMap Endpoint) := none

def Draft.member (d : Draft) (name : String) : Reader Draft := fun cs =>
  if name = "processes" then
    (readFresh d.processes (readTable ProcessDeclaration.read) cs).map fun ⟨x, rest, h⟩ =>
      ⟨{ d with processes := some x }, rest, h⟩
  else if name = "connections" then
    (readFresh d.connections (readArray Connection.read) cs).map fun ⟨x, rest, h⟩ =>
      ⟨{ d with connections := some x }, rest, h⟩
  else if name = "inports" then
    (readFresh d.inports (readTable Endpoint.read) cs).map fun ⟨x, rest, h⟩ =>
      ⟨{ d with inports := some x }, rest, h⟩
  else if name = "outports" then
    (readFresh d.outports (readTable Endpoint.read) cs).map fun ⟨x, rest, h⟩ =>
      ⟨{ d with outports := some x }, rest, h⟩
  else skipMember d cs

def read : Reader Graph :=
  readRecord {} Draft.member
    (fun d => .ok ⟨d.processes.getD ∅, d.connections.getD [], d.inports.getD ∅, d.outports.getD ∅⟩)
    fun cs => do
      let (processes, p) ← (RecordPlace.start cs).next (readTable ProcessDeclaration.read)
      let (connections, p) ← p.next (readArray Connection.read)
      let (inports, p) ← p.next (readTable Endpoint.read)
      let (outports, p) ← p.next (readTable Endpoint.read)
      return (⟨processes.getD ∅, connections.getD [], inports.getD ∅, outports.getD ∅⟩, p)

def ofText (text : String) : Except Fault Graph := readDocument read text

end Graph

end Pipework
