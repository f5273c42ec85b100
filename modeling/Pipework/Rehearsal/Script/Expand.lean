import Pipework.Rehearsal.Script.Arithmetic
import Pipework.Rehearsal.Script.Pattern

namespace Pipework.Script

inductive Origin where
  /-- It stands in quotes, so it means itself. -/
  | quoted
  /-- It is written as it is. -/
  | written
  /-- It belongs to a value that is put in and may be split. -/
  | value
deriving DecidableEq, Repr

inductive Piece where
  | char (c : Char) (origin : Origin)
  /-- Something in quotes, which makes a field even if it is empty. -/
  | mark
  /-- The end of an argument, where a field ends as well. -/
  | gap
deriving DecidableEq, Repr

namespace Piece

def ofText (s : String) (origin : Origin) : List Piece := s.toList.map (char · origin)

def ofValue (s : String) (quoted : Bool) : List Piece :=
  if quoted then mark :: ofText s .quoted else ofText s .value

def marked? : Piece → Option (Char × Bool)
  | char c o => some (c, o == .quoted)
  | gap => some (' ', true)
  | mark => none

def text (ps : List Piece) : String := String.ofList ((ps.filterMap marked?).map (·.1))

def pattern (ps : List Piece) : List PatternItem := patternOf (ps.filterMap marked?)

def joined (between : List Piece) : List (List Piece) → List Piece
  | [] => []
  | [p] => p
  | p :: ps => p ++ between ++ joined between ps

end Piece

namespace Scope

/-- The arguments as pieces. In quotes, a star joins them with the first separator. -/
def argumentPieces (s : Scope) (star quoted : Bool) : List Piece :=
  if star && quoted then
    Piece.ofValue ((s.separators.take 1 |> String.ofList).intercalate s.arguments) true
  else Piece.joined [.gap] (s.arguments.map (Piece.ofValue · quoted))

def missingMessage (name : String) (alsoEmpty : Bool) (reason : String) : String :=
  let usual := if alsoEmpty then "parameter not set or null" else "parameter not set"
  s!"{name}: {if reason.isEmpty then usual else reason}"

def valuePieces (s : Scope) (name : String) (quoted : Bool) : List Piece :=
  if name = "@" ∨ name = "*" then s.argumentPieces (name == "*") quoted
  else Piece.ofValue ((s.get? name).getD "") quoted

def isMissing (s : Scope) (name : String) (alsoEmpty : Bool) : Bool :=
  match s.get? name with
  | none => true
  | some v => alsoEmpty && v.isEmpty

def needsOperand (s : Scope) (name : String) : Edit → Bool
  | .keep | .size | .unknown => false
  | .dropFront _ | .dropBack _ => true
  | .orElse alsoEmpty | .assign alsoEmpty | .require alsoEmpty => s.isMissing name alsoEmpty
  | .andThen alsoEmpty => !s.isMissing name alsoEmpty

end Scope

def edited (name : String) (edit : Edit) (operand : List Piece) (quoted : Bool) :
    Evaluation (List Piece) := do
  let s ← get
  let checkValue : Evaluation Unit := do
    if s.isMissing name false && s.options.requireValues then
      throw (Scope.missingMessage name false "")
  let value := (s.get? name).getD ""
  match edit with
  | .unknown => throw "Bad substitution"
  | .keep =>
    checkValue
    return s.valuePieces name quoted
  | .size =>
    checkValue
    return Piece.ofValue (toString value.length) quoted
  | .dropFront longest =>
    checkValue
    return Piece.ofValue (dropFront longest (Piece.pattern operand) value) quoted
  | .dropBack longest =>
    checkValue
    return Piece.ofValue (dropBack longest (Piece.pattern operand) value) quoted
  | .orElse alsoEmpty =>
    return if s.isMissing name alsoEmpty then operand else s.valuePieces name quoted
  | .andThen alsoEmpty => return if s.isMissing name alsoEmpty then [] else operand
  | .require alsoEmpty =>
    if s.isMissing name alsoEmpty then
      throw (Scope.missingMessage name alsoEmpty (Piece.text operand))
    return s.valuePieces name quoted
  | .assign alsoEmpty =>
    if !s.isMissing name alsoEmpty then return s.valuePieces name quoted
    if !isName name then throw s!"{name}: bad variable name"
    set (← s.assign name (Piece.text operand))
    return Piece.ofValue (Piece.text operand) quoted

mutual

/-- What a part of a word becomes. Inside an operand, what is written may be split like a value. -/
def partPieces (inOperand : Bool) : Part → Evaluation (List Piece)
  | .text t true => return Piece.ofValue t true
  | .text t false => return Piece.ofText t (if inOperand then .value else .written)
  | .value t quoted => return Piece.ofValue t quoted
  | .parameter name edit operand quoted => do
    let operand ← if (← get).needsOperand name edit then wordPieces true operand else pure []
    let pieces ← edited name edit operand quoted
    -- in quotes everything makes a field, except for the arguments as they are
    return if quoted && !(name == "@" && edit matches .keep) then .mark :: pieces else pieces
  | .arithmetic operand quoted => do
    let n ← Arithmetic.evaluate (Piece.text (← wordPieces true operand))
    return Piece.ofValue (toString n) quoted
  | .output _ quoted => return Piece.ofValue "" quoted

def wordPieces (inOperand : Bool) : List Part → Evaluation (List Piece)
  | [] => return []
  | p :: ps => do return (← partPieces inOperand p) ++ (← wordPieces inOperand ps)

end

def text (w : Word) : Evaluation String := return Piece.text (← wordPieces false w)

def pattern (w : Word) : Evaluation (List PatternItem) :=
  return Piece.pattern (← wordPieces false w)

/-! ## Fields -/

/-- A field: its characters, and which of them mean themselves in a pattern. -/
abbrev Field := List (Char × Bool)

def Field.text (f : Field) : String := String.ofList (f.map (·.1))

def Field.isPattern (f : Field) : Bool := f.any fun c => !c.2 && "*?[".toList.contains c.1

/-- Fields in the making: those that are done, and the open one; both come last one first. -/
structure FieldBuilder where
  done : List Field := []
  current : Option Field := none
  /-- Has a blank ended a field, so that another separator would belong to the same end? -/
  behindBlank : Bool := false

namespace FieldBuilder

def add (b : FieldBuilder) (f : Field) : FieldBuilder :=
  { b with current := some (f ++ b.current.getD []), behindBlank := false }

def close (b : FieldBuilder) : FieldBuilder :=
  match b.current with
  | some f => { b with done := f.reverse :: b.done, current := none }
  | none => b

/-- Adds a piece. A blank separator ends a field; any other ends one even if there is none. -/
def addPiece (separators : List Char) (b : FieldBuilder) : Piece → FieldBuilder
  | .mark => b.add []
  | .gap => b.close
  | .char c o =>
    if o != .value || !separators.contains c then b.add [(c, o == .quoted)]
    else if c.isWhitespace then
      { b.close with behindBlank := b.behindBlank || b.current.isSome }
    else if b.behindBlank then { b with behindBlank := false }
    else (b.add []).close

def toList (b : FieldBuilder) : List Field := b.close.done.reverse

end FieldBuilder

def fields (ws : List Word) : Evaluation (List Field) := do
  match ws with
  | [] => return []
  | w :: ws =>
    let pieces ← wordPieces false w
    let separators := (← get).separators
    let here := (pieces.foldl (FieldBuilder.addPiece separators) {}).toList
    return here ++ (← fields ws)

/-! ## Outputs of scripts -/

mutual

def Part.firstOutput? (s : Scope) : Part → Option String
  | .output source _ => some source
  | .parameter name edit operand _ =>
    if s.needsOperand name edit then Word.firstOutput? s operand else none
  | .arithmetic operand _ => Word.firstOutput? s operand
  | _ => none

def Word.firstOutput? (s : Scope) : List Part → Option String
  | [] => none
  | p :: ps => (Part.firstOutput? s p).or (Word.firstOutput? s ps)

end

mutual

def Part.fill (s : Scope) (t : String) : Part → Part
  | .output _ quoted => .value t quoted
  | .parameter name edit operand quoted =>
    let operand := if s.needsOperand name edit then Word.fill s t operand else operand
    .parameter name edit operand quoted
  | .arithmetic operand quoted => .arithmetic (Word.fill s t operand) quoted
  | p => p

def Word.fill (s : Scope) (t : String) : List Part → List Part
  | [] => []
  | p :: ps =>
    if (Part.firstOutput? s p).isSome then Part.fill s t p :: ps else p :: Word.fill s t ps

end

def fillFirst (s : Scope) (t : String) : List Word → List Word
  | [] => []
  | w :: ws =>
    if (Word.firstOutput? s w).isSome then Word.fill s t w :: ws else w :: fillFirst s t ws

end Pipework.Script
