namespace Pipework.Script

inductive PatternItem where
  | char (c : Char)
  | any
  | many
  | oneOf (negated : Bool) (ranges : List (Char × Char))
deriving DecidableEq, Repr

namespace PatternItem

def admits (p : PatternItem) (c : Char) : Bool :=
  match p with
  | char d => c == d
  | any | many => true
  | oneOf negated ranges => (ranges.any fun r => r.1 ≤ c && c ≤ r.2) != negated

def rangesOf : List Char → List (Char × Char)
  | a :: '-' :: b :: cs => (a, b) :: rangesOf cs
  | a :: cs => (a, a) :: rangesOf cs
  | [] => []

/-- Reads a pattern. A character that is marked stands for itself. -/
def ofMarked : (fuel : Nat) → List (Char × Bool) → List PatternItem
  | 0, _ => []
  | _ + 1, [] => []
  | fuel + 1, (c, true) :: cs => char c :: ofMarked fuel cs
  | fuel + 1, ('*', _) :: cs => many :: ofMarked fuel cs
  | fuel + 1, ('?', _) :: cs => any :: ofMarked fuel cs
  | fuel + 1, ('\\', _) :: (c, _) :: cs => char c :: ofMarked fuel cs
  | fuel + 1, ('[', _) :: cs =>
    let (negated, cs') := match cs with
      | ('!', false) :: cs => (true, cs)
      | cs => (false, cs)
    -- a bracket right at the start stands for itself
    let inner := cs'.take 1 ++ (cs'.drop 1).takeWhile (· != (']', false))
    match cs'.drop inner.length with
    | _ :: rest => oneOf negated (rangesOf (inner.map (·.1))) :: ofMarked fuel rest
    | [] => char '[' :: ofMarked fuel cs
  | fuel + 1, (c, _) :: cs => char c :: ofMarked fuel cs

end PatternItem

def fits : List PatternItem → List Char → Bool
  | [], [] => true
  | [], _ :: _ => false
  | .many :: ps, [] => fits ps []
  | .many :: ps, c :: cs => fits ps (c :: cs) || fits (.many :: ps) cs
  | _ :: _, [] => false
  | p :: ps, c :: cs => p.admits c && fits ps cs
termination_by ps cs => (ps.length + cs.length)

/-- The pattern that characters spell, some of which are marked and stand for themselves. -/
def patternOf (cs : List (Char × Bool)) : List PatternItem :=
  PatternItem.ofMarked (cs.length + 1) cs

/-- The text without the shortest or longest start for which the pattern stands. -/
def dropFront (longest : Bool) (pattern : List PatternItem) (s : String) : String :=
  let cs := s.toList
  let lengths := (List.range (cs.length + 1)).filter fun n => fits pattern (cs.take n)
  match if longest then lengths.getLast? else lengths.head? with
  | some n => String.ofList (cs.drop n)
  | none => s

def dropBack (longest : Bool) (pattern : List PatternItem) (s : String) : String :=
  let cs := s.toList
  let lengths := (List.range (cs.length + 1)).filter fun n => fits pattern (cs.drop n)
  match if longest then lengths.head? else lengths.getLast? with
  | some n => String.ofList (cs.take n)
  | none => s

end Pipework.Script
