import Pipework.Text.Blank
import Pipework.Text.Decimal

namespace Pipework

structure Duration where
  seconds : Nat
  /-- Less than a second. -/
  nanoseconds : Nat := 0
deriving DecidableEq, Repr

namespace Duration

def ofMilliseconds (n : Nat) : Duration := ⟨n / 1000, n % 1000 * 1000000⟩

def toMilliseconds (d : Duration) : Nat := d.seconds * 1000 + d.nanoseconds / 1000000

inductive Fault where
  | empty
  | notANumber (text : String)
  | zero
deriving DecidableEq, Repr

def Fault.message : Fault → String
  | empty => "duration must not be empty"
  | notANumber text => s!"invalid duration value: {text}"
  | zero => "duration must be greater than zero"

inductive TimeUnit where
  | milliseconds
  | seconds
  | minutes
deriving DecidableEq, Repr

/-- So many of a unit. Minutes stop at the last number of seconds that fits a word. -/
def TimeUnit.times : TimeUnit → Nat → Duration
  | milliseconds, n => ofMilliseconds n
  | seconds, n => ⟨n, 0⟩
  | minutes, n => ⟨min (n * 60) (Text.wordBound - 1), 0⟩

/-- The unit at the end of a text, and the text before it. Without a unit there are seconds. -/
def splitUnit (cs : List Char) : TimeUnit × List Char :=
  -- the letter for seconds also ends the sign for milliseconds, which is tried first
  match cs.reverse with
  | 's' :: 'm' :: rest => (.milliseconds, rest.reverse)
  | 's' :: rest => (.seconds, rest.reverse)
  | 'm' :: rest => (.minutes, rest.reverse)
  | _ => (.seconds, cs)

def dropPlus : List Char → List Char
  | '+' :: cs => cs
  | cs => cs

/-- Reads a duration: digits, perhaps behind a plus sign, and perhaps a unit. White space around it
does not count. -/
def parse (s : String) : Except Fault Duration :=
  let cs := Text.trimBlanks s.toList
  if cs.isEmpty then .error .empty
  else
    let (unit, digits) := splitUnit cs
    match Text.parseWord? (dropPlus digits) with
    | none => .error (.notANumber (String.ofList cs))
    | some 0 => .error .zero
    | some n => .ok (unit.times n)

/-- `n / d` rounded to the nearest whole number, a half to the even one. -/
def roundHalfEven (n d : Nat) : Nat :=
  let q := n / d
  let r := n % d
  if 2 * r < d ∨ (2 * r = d ∧ q % 2 = 0) then q else q + 1

def threeDigits (n : Nat) : String :=
  String.ofList ((toString n).toList.leftpad 3 '0')

def showIn (nanoseconds parts : Nat) (suffix : String) : String :=
  -- a count that is rounded up to the next unit stays in its own
  let thousandths := roundHalfEven (nanoseconds * 1000) parts
  s!"{thousandths / 1000}.{threeDigits (thousandths % 1000)}{suffix}"

/-- A span in the largest unit of which it has at least one. -/
def toText (d : Duration) : String :=
  if d.seconds > 0 then showIn (d.seconds * 1000000000 + d.nanoseconds) 1000000000 "s"
  else if d.nanoseconds ≥ 1000000 then showIn d.nanoseconds 1000000 "ms"
  else if d.nanoseconds ≥ 1000 then showIn d.nanoseconds 1000 "µs"
  else showIn d.nanoseconds 1 "ns"

end Duration

end Pipework
