import Pipework.Rehearsal.Script.Scope
import Pipework.Rehearsal.Script.Token

/-!
The value of an arithmetic expression in a script: numbers of 64 bits, variables, and the usual
operators. Variables can be set on the way.
-/

namespace Pipework.Script

/-- What is worked out in a scope, which it may change; it may also fail, which ends the script. -/
abbrev Evaluation (α : Type) : Type := StateT Scope (Except String) α

namespace Arithmetic

inductive Symbol where
  | number (n : Int64)
  | name (s : String)
  | operator (s : String)
  | other
deriving DecidableEq

def largest : Nat := 9223372036854775807

/-- The number that digits of a base spell; numbers that are too large become the largest one. -/
def ofDigits (base : Nat) (cs : List Char) : Int64 :=
  Int64.ofNat (min largest ((cs.filterMap (digit? base)).foldl (fun n d => n * base + d) 0))
where
  /-- The value of a digit. -/
  digit? (base : Nat) (c : Char) : Option Nat :=
    let d := if c.isDigit then c.toNat - 48 else c.toLower.toNat - 87
    if (c.isDigit || c.isAlpha) && d < base then some d else none

/-- The number at the start of a text, and the text behind it. A zero starts an octal number, and
with an `x` a hexadecimal one. -/
def readNumber (cs : List Char) : Int64 × List Char :=
  let take (base : Nat) (cs : List Char) : Int64 × List Char :=
    let digits := cs.takeWhile fun c => (ofDigits.digit? base c).isSome
    (ofDigits base digits, cs.drop digits.length)
  match cs with
  | '0' :: x :: c :: rest =>
    if (x = 'x' ∨ x = 'X') ∧ (ofDigits.digit? 16 c).isSome then take 16 (c :: rest)
    else take 8 cs
  | '0' :: _ => take 8 cs
  | cs => take 10 cs

def assignments : List String :=
  ["=", "+=", "-=", "*=", "/=", "%=", "<<=", ">>=", "&=", "^=", "|="]

def spellings : List String :=
  ["<<=", ">>=", "+=", "-=", "*=", "/=", "%=", "&=", "^=", "|=", "||", "&&", "==", "!=", "<=",
    ">=", "<<", ">>", "=", "<", ">", "+", "-", "*", "/", "%", "!", "~", "&", "^", "|", "?", ":",
    "(", ")"]

def symbols : (fuel : Nat) → List Char → List Symbol
  | 0, _ => []
  | _ + 1, [] => []
  | fuel + 1, c :: cs =>
    if c.isWhitespace then symbols fuel cs
    else if c.isDigit then
      let (n, rest) := readNumber (c :: cs)
      .number n :: symbols fuel rest
    else if isNameChar c then
      let name := (c :: cs).takeWhile isNameChar
      .name (String.ofList name) :: symbols fuel ((c :: cs).drop name.length)
    else match spellings.find? fun s => s.toList.isPrefixOf (c :: cs) with
      | some s => .operator s :: symbols fuel ((c :: cs).drop s.length)
      | none => .other :: symbols fuel cs

def numberOf? (s : String) : Option Int64 :=
  let cs := s.toList.dropWhile Char.isWhitespace
  let (negative, digits) := match cs with
    | '-' :: cs => (true, cs)
    | '+' :: cs => (false, cs)
    | cs => (false, cs)
  let (n, rest) := readNumber digits
  if cs.isEmpty then some 0
  else if digits.head?.any Char.isDigit && rest.all Char.isWhitespace then
    some (if negative then -n else n)
  else none

def lookup (name : String) : Evaluation Int64 := do
  let s := ((← get).get? name).getD ""
  match numberOf? s with
  | some n => return n
  | none => throw s!"Illegal number: {s}"

def ofBool (b : Bool) : Int64 := if b then 1 else 0

def tightness? : String → Option Nat
  | "||" => some 1
  | "&&" => some 2
  | "|" => some 3
  | "^" => some 4
  | "&" => some 5
  | "==" | "!=" => some 6
  | "<" | ">" | "<=" | ">=" => some 7
  | "<<" | ">>" => some 8
  | "+" | "-" => some 9
  | "*" | "/" | "%" => some 10
  | _ => none

/-- The value of an operator. A division by zero has none. -/
def combine (operator : String) (a b : Int64) : Option Int64 :=
  match operator with
  | "||" => some (ofBool (a != 0 || b != 0))
  | "&&" => some (ofBool (a != 0 && b != 0))
  | "|" => some (a ||| b)
  | "^" => some (a ^^^ b)
  | "&" => some (a &&& b)
  | "==" => some (ofBool (a == b))
  | "!=" => some (ofBool (a != b))
  | "<" => some (ofBool (a < b))
  | ">" => some (ofBool (b < a))
  | "<=" => some (ofBool (a ≤ b))
  | ">=" => some (ofBool (b ≤ a))
  | "<<" => some (a <<< b)
  | ">>" => some (a >>> b)
  | "+" => some (a + b)
  | "-" => some (a - b)
  | "*" => some (a * b)
  | "/" => if b = 0 then none else some (a / b)
  | "%" => if b = 0 then none else some (a % b)
  | _ => none

def fail {α : Type} (source what : String) : Evaluation α :=
  throw s!"arithmetic expression: {what}: \"{source}\""

def apply (source operator : String) (a b : Int64) : Evaluation Int64 :=
  match combine operator a b with
  | some n => return n
  | none => fail source "division by zero"

mutual

/-- The value of an expression that may set a variable. What is not `live` has no effects, and its
value does not matter. -/
def value (source : String) : (fuel : Nat) → (live : Bool) → List Symbol →
    Evaluation (Int64 × List Symbol)
  | 0, _, _ => fail source "expecting primary"
  | fuel + 1, live, ts => do
    match ts with
    | .name name :: .operator op :: rest =>
      if !assignments.contains op then choice source fuel live ts
      else
        let (b, rest) ← value source fuel live rest
        if !live then return (b, rest)
        let b ← if op = "=" then pure b
          else apply source (op.dropEnd 1).toString (← lookup name) b
        set (← (← get).assign name (toString b))
        return (b, rest)
    | ts => choice source fuel live ts

def choice (source : String) : (fuel : Nat) → (live : Bool) → List Symbol →
    Evaluation (Int64 × List Symbol)
  | 0, _, _ => fail source "expecting primary"
  | fuel + 1, live, ts => do
    let (a, rest) ← binary source fuel live 0 ts
    match rest with
    | .operator "?" :: rest =>
      let (b, rest) ← value source fuel (live && a != 0) rest
      match rest with
      | .operator ":" :: rest =>
        let (c, rest) ← choice source fuel (live && a == 0) rest
        return (if a = 0 then c else b, rest)
      | _ => fail source "expecting ':'"
    | rest => return (a, rest)

/-- The value of an expression whose operators bind at least as tightly as `level`. -/
def binary (source : String) : (fuel : Nat) → (live : Bool) → (level : Nat) → List Symbol →
    Evaluation (Int64 × List Symbol)
  | 0, _, _, _ => fail source "expecting primary"
  | fuel + 1, live, level, ts => do
    let (a, rest) ← operand source fuel live ts
    continued source fuel live level a rest

def continued (source : String) : (fuel : Nat) → (live : Bool) → (level : Nat) → Int64 →
    List Symbol → Evaluation (Int64 × List Symbol)
  | 0, _, _, _, _ => fail source "expecting primary"
  | fuel + 1, live, level, a, ts => do
    match ts with
    | .operator op :: rest =>
      match (tightness? op).filter (level ≤ ·) with
      | none => return (a, ts)
      | some tightness =>
        let isDecided := (op == "&&" && a == 0) || (op == "||" && a != 0)
        let (b, rest) ← binary source fuel (live && !isDecided) (tightness + 1) rest
        let c ← if live || op == "&&" || op == "||" then apply source op a b else pure 0
        continued source fuel live level c rest
    | ts => return (a, ts)

def operand (source : String) : (fuel : Nat) → (live : Bool) → List Symbol →
    Evaluation (Int64 × List Symbol)
  | 0, _, _ => fail source "expecting primary"
  | fuel + 1, live, ts => do
    match ts with
    | .number n :: rest => return (n, rest)
    | .name name :: rest => return (← if live then lookup name else pure 0, rest)
    | .operator "(" :: rest =>
      let (a, rest) ← value source fuel live rest
      match rest with
      | .operator ")" :: rest => return (a, rest)
      | _ => fail source "expecting ')'"
    | .operator "+" :: rest => operand source fuel live rest
    | .operator "-" :: rest =>
      let (a, rest) ← operand source fuel live rest
      return (-a, rest)
    | .operator "!" :: rest =>
      let (a, rest) ← operand source fuel live rest
      return (ofBool (a == 0), rest)
    | .operator "~" :: rest =>
      let (a, rest) ← operand source fuel live rest
      return (~~~a, rest)
    | _ => fail source "expecting primary"

end

def evaluate (source : String) : Evaluation Int64 := do
  let ts := symbols (source.length + 1) source.toList
  let (a, rest) ← value source (8 * ts.length + 16) true ts
  if rest.isEmpty then return a else fail source "expecting EOF"

end Arithmetic

end Pipework.Script
