import Pipework.Frame.Basic
import Pipework.Frame.Error
import Pipework.Text.Decimal
import Pipework.Text.Edge

namespace Pipework

open Text

namespace Frame

def lineFeed : UInt8 := 10

def carriageReturn : UInt8 := 13

def splitLine? (bs : Bytes) : Option (Bytes × Bytes) :=
  match bs.dropWhile (· != lineFeed) with
  | [] => none
  | _ :: rest => some (bs.takeWhile (· != lineFeed), rest)

theorem length_lt_of_splitLine? {bs line rest : Bytes} (h : splitLine? bs = some (line, rest)) :
    rest.length < bs.length := by
  unfold splitLine? at h
  split at h
  · cases h
  · rename_i b r hd
    obtain ⟨-, rfl⟩ := Prod.mk.inj (Option.some.inj h)
    have := (List.dropWhile_sublist (· != lineFeed) (l := bs)).length_le
    rw [hd] at this
    simp at this
    omega

def dropReturn (line : Bytes) : Bytes :=
  if line.getLast? = some carriageReturn then line.dropLast else line

/-- The lines before the first blank one, and the octets after that. -/
def splitHead? (bs : Bytes) : Option (List Bytes × Bytes) :=
  match h : splitLine? bs with
  | none => none
  | some (line, rest) =>
    have := length_lt_of_splitLine? h
    -- the first line that is blank ends the block
    if dropReturn line = [] then some ([], rest)
    else (splitHead? rest).map fun (lines, body) => (dropReturn line :: lines, body)
termination_by bs.length

end Frame

structure FieldTable where
  fields : NameMap String := ∅
  last : Option String := none

structure FrameHead where
  category : String
  subtype : String
  port : String
  contentType : String
  extensions : NameMap String
  contentLength : Nat

namespace FieldTable

/-- The value with a continuation behind it: one space joins the two, unless one is empty. -/
def extend (value more : String) : String :=
  if more.isEmpty then value else if value.isEmpty then more else value ++ " " ++ more

def addContinuation (t : FieldTable) (line : String) : Except FrameError FieldTable :=
  match t.last with
  | none => .error (.malformedHeader line)
  | some name =>
    let value := (t.fields.get? name).getD ""
    let more := String.ofList (trimGaps line.toList)
    .ok { t with fields := t.fields.insert name (extend value more) }

/-- Adds a field; a later field of one name takes the place of an earlier one. -/
def addField (t : FieldTable) (line : String) : Except FrameError FieldTable :=
  match line.toList.dropWhile (· != ':') with
  | [] => .error (.malformedHeader line)
  | _ :: value =>
    -- only the first colon divides; others belong to the value
    let name := String.ofList (line.toList.takeWhile (· != ':'))
    if FieldName.isToken name then
      let canonical := FieldName.canonicalName name
      .ok { fields := t.fields.insert canonical (String.ofList (trimGaps value))
            last := some canonical }
    else .error (.malformedHeader line)

def addLine (t : FieldTable) (line : Bytes) : Except FrameError FieldTable :=
  match ofBytes? line with
  | none => .error (.malformedHeader (lossy line))
  | some line => if line.toList.head?.any isGap then t.addContinuation line else t.addField line

def ofLines (lines : List Bytes) : Except FrameError FieldTable := lines.foldlM addLine {}

end FieldTable

namespace FrameHead

/-- The parts of a type field, before and after its first dot. -/
def splitType (value : String) : Except FrameError (String × String) :=
  match value.toList.dropWhile (· != '.') with
  | [] => .error (.missingTypeSeparator value)
  | _ :: subtype =>
    let category := value.toList.takeWhile (· != '.')
    if category.isEmpty || subtype.isEmpty then .error (.emptyTypePart value)
    else .ok (String.ofList category, String.ofList subtype)

/-- The length of a body, which has to be a numeral that fits a machine word. -/
def parseLength (value : String) : Except FrameError Nat :=
  match parseWord? value.toList with
  | some n => .ok n
  | none => .error (.invalidContentLength value)

def required (fields : NameMap String) (name : String) : Except FrameError String :=
  match fields.get? name with
  | some value => .ok value
  | none => .error (.missingHeader name)

/-- What the fields say. The type is looked at first, then the length. -/
def ofFields (limits : Limits) (fields : NameMap String) : Except FrameError FrameHead := do
  let (category, subtype) ← splitType (← required fields FieldName.typeName)
  let length ← parseLength (← required fields FieldName.contentLengthName)
  if length > limits.maxBody then
    throw (.bodyTooLarge length limits.maxBody)
  return {
    category := category
    subtype := subtype
    port := (fields.get? FieldName.portName).getD ""
    contentType := (fields.get? FieldName.contentTypeName).getD ""
    -- names are canonical by now, so no spelling of a reserved one gets through
    extensions := fields.eraseAll (FieldName.reservedNames.contains ·)
    contentLength := length }

def ofLines (limits : Limits) (lines : List Bytes) : Except FrameError FrameHead := do
  ofFields limits (← FieldTable.ofLines lines).fields

def toFrame (h : FrameHead) (body : Bytes) : Frame where
  category := h.category
  subtype := h.subtype
  port := h.port
  contentType := h.contentType
  extensions := h.extensions
  body := body

end FrameHead

end Pipework
