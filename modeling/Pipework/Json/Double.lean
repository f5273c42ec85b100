/-!
Doubles as exact values, and their shortest decimal text. A positive double stands for all reals
that round to it; its text is the shortest decimal among them, and of the shortest ones the nearest.
-/

namespace Pipework

/-- A finite double by its bits. -/
structure Double where
  bits : UInt64
deriving DecidableEq, Repr

namespace Double

def twoTo (k : Nat) : Nat := Nat.pow 2 k

def tenTo (k : Nat) : Nat := Nat.pow 10 k

def ofFloat (x : Float) : Double := ⟨x.toBits⟩

def isNegative (x : Double) : Bool := x.bits.toNat ≥ twoTo 63

def exponentField (x : Double) : Nat := x.bits.toNat / twoTo 52 % twoTo 11

def fraction (x : Double) : Nat := x.bits.toNat % twoTo 52

/-- The whole number `m` of the magnitude `m · 2 ^ (e - 1075)`, where `e` is `scale`. -/
def significand (x : Double) : Nat :=
  if x.exponentField = 0 then x.fraction else twoTo 52 + x.fraction

/-- The exponent of two, raised by 1075. -/
def scale (x : Double) : Nat := max x.exponentField 1

/-- A range of positive rationals with a common denominator, around a value in it. -/
structure Range where
  low : Nat
  value : Nat
  high : Nat
  denominator : Nat
  /-- Do the ends belong to the range? -/
  closed : Bool

/-- The reals that round to the magnitude of a double. Below a power of two the next double is half
as far away. -/
def range (x : Double) : Range :=
  let m := x.significand
  let below := if x.fraction = 0 ∧ x.exponentField > 1 then 1 else 2
  -- in units of a quarter of the last place
  let up := if x.scale ≥ 1077 then twoTo (x.scale - 1077) else 1
  let down := if x.scale ≥ 1077 then 1 else twoTo (1077 - x.scale)
  { low := (4 * m - below) * up
    value := 4 * m * up
    high := (4 * m + 2) * up
    denominator := down
    closed := m % 2 == 0 }

def decimal (n : Nat) (e : Int) : Nat × Nat :=
  if e ≥ 0 then (n * tenTo e.toNat, 1) else (n, tenTo (-e).toNat)

def Range.contains (r : Range) (n : Nat) (e : Int) : Bool :=
  let (num, den) := decimal n e
  let x := num * r.denominator
  if r.closed then decide (r.low * den ≤ x) && decide (x ≤ r.high * den)
  else decide (r.low * den < x) && decide (x < r.high * den)

/-- How far `n · 10 ^ e` is from the value, in units that depend on `e` alone. -/
def Range.distance (r : Range) (n : Nat) (e : Int) : Nat :=
  let (num, den) := decimal n e
  let x := num * r.denominator
  let v := r.value * den
  if x ≤ v then v - x else x - v

def Range.leading (r : Range) : Int :=
  if r.value ≥ r.denominator then
    ((Nat.toDigits 10 (r.value / r.denominator)).length : Int) - 1
  else
    let k := (Nat.toDigits 10 (r.denominator / r.value)).length
    if r.value * tenTo (k - 1) = r.denominator then -((k : Int) - 1) else -(k : Int)

def Range.floor (r : Range) (e : Int) : Nat :=
  if e ≥ 0 then r.value / (r.denominator * tenTo e.toNat)
  else r.value * tenTo (-e).toNat / r.denominator

/-- The nearer of the two neighbours of the value on the grid of `10 ^ e`, if it is in the range. -/
def Range.onGrid? (r : Range) (e : Int) : Option Nat :=
  let n := r.floor e
  match r.contains n e, r.contains (n + 1) e with
  -- both round to the double: the nearer one, or the even one of two that are as near
  | true, true =>
    let a := r.distance n e
    let b := r.distance (n + 1) e
    some (if a < b then n else if b < a then n + 1 else if n % 2 = 0 then n else n + 1)
  | true, false => some n
  | false, true => some (n + 1)
  | false, false => none

/-- The digits and the exponent of the shortest decimal, tried with `count` digits and more, but
with no more than `count + more`. -/
def Range.shortestFrom (r : Range) (count : Nat) : (more : Nat) → Nat × Int
  -- seventeen digits tell all doubles apart, so the trials do not run out
  | 0 => (r.floor (r.leading - count + 1), r.leading - count + 1)
  | more + 1 =>
    let e := r.leading - count + 1
    match r.onGrid? e with
    | some n => (n, e)
    | none => r.shortestFrom (count + 1) more

/-- The number without zeros at its end, which go into the exponent. -/
def stripZeros (fuel n : Nat) (e : Int) : Nat × Int :=
  match fuel with
  | 0 => (n, e)
  | fuel + 1 => if n ≠ 0 ∧ n % 10 = 0 then stripZeros fuel (n / 10) (e + 1) else (n, e)

def shortest (x : Double) : List Char × Int :=
  let (n, e) := x.range.shortestFrom 1 17
  let (n, e) := stripZeros 20 n e
  (Nat.toDigits 10 n, e)

/-- The exponents of the first digit for which a number is written without an exponent. -/
def isPlainExponent (first : Int) : Bool := -5 ≤ first && first ≤ 15

def writeMagnitude (digits : List Char) (e : Int) : String :=
  let first := e + digits.length - 1
  if isPlainExponent first then
    if e ≥ 0 then String.ofList (digits ++ List.replicate e.toNat '0' ++ ['.', '0'])
    else if first ≥ 0 then
      let whole := digits.take (first.toNat + 1)
      String.ofList (whole ++ '.' :: digits.drop whole.length)
    else String.ofList ('0' :: '.' :: List.replicate ((-first).toNat - 1) '0' ++ digits)
  else
    let mantissa := match digits with
      | [d] => [d]
      | d :: ds => d :: '.' :: ds
      | [] => ['0']
    String.ofList mantissa ++ (if first < 0 then "e-" else "e+") ++ toString first.natAbs

def toText (x : Double) : String :=
  let magnitude := if x.significand = 0 then "0.0" else
    let (digits, e) := x.shortest
    writeMagnitude digits e
  if x.isNegative then "-" ++ magnitude else magnitude

def maxStep : Nat := 308

def floatTenTo (k : Nat) : Float := Float.ofScientific 1 false k

/-- Multiplies by a power of ten in hardware steps, or gives up when the result is too large. Each
step is one rounded multiplication or division. A large negative exponent takes several, but after
three of them nothing is left of a number below `2 ^ 64`. -/
def scaleTen : (steps : Nat) → Float → Int → Option Float
  | 0, x, _ => some x
  | steps + 1, x, e =>
    if e.natAbs ≤ maxStep then
      if e < 0 then some (x / floatTenTo e.natAbs)
      else if (x * floatTenTo e.natAbs).isInf then none
      else some (x * floatTenTo e.natAbs)
    -- a zero stays what it is, however large the exponent
    else if x == 0 then some x
    else if e < 0 then scaleTen steps (x / floatTenTo maxStep) (e + maxStep)
    else none

/-- The double read from a sign, a whole number below `2 ^ 64` and an exponent of ten, if it is not
too large. -/
def ofParts? (negative : Bool) (n : Nat) (e : Int) : Option Double :=
  (scaleTen 4 (UInt64.ofNat n).toFloat e).map fun x => ofFloat (if negative then -x else x)

end Double

end Pipework
