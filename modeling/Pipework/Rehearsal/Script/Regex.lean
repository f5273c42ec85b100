namespace Pipework.Script

inductive Regex where
  | empty
  | char (c : Char)
  | any
  | oneOf (negated : Bool) (ranges : List (Char × Char))
  /-- The start of a line. -/
  | lineStart
  | lineEnd
  | seq (a b : Regex)
  | either (a b : Regex)
  | many (a : Regex)
deriving DecidableEq, Repr

namespace Regex

/-- All positions that can be reached from some by a step, in at most so many steps. -/
def reach (step : Nat → List Nat) : (count : Nat) → List Nat → List Nat
  | 0, ps => ps
  | count + 1, ps =>
    let more := (ps.flatMap step).filter (!ps.contains ·)
    if more.isEmpty then ps else reach step count (ps ++ more.eraseDups)

/-- The positions in a line at which a match can end that starts at a position. -/
def ends (cs : List Char) : Regex → Nat → List Nat
  | empty, p => [p]
  | char c, p => if cs[p]? = some c then [p + 1] else []
  | any, p => if p < cs.length then [p + 1] else []
  | oneOf negated ranges, p => match cs[p]? with
    | some c => if (ranges.any fun r => r.1 ≤ c && c ≤ r.2) != negated then [p + 1] else []
    | none => []
  | lineStart, p => if p = 0 then [p] else []
  | lineEnd, p => if p = cs.length then [p] else []
  | seq a b, p => ((ends cs a p).flatMap (ends cs b)).eraseDups
  | either a b, p => ends cs a p ++ ends cs b p
  | many a, p => reach (ends cs a) (cs.length + 1) [p]

def longest? (r : Regex) (cs : List Char) (p : Nat) : Option Nat := (r.ends cs p).max?

/-- The first match that starts at a position or behind it: where it starts and ends. -/
def find? (r : Regex) (cs : List Char) (start : Nat) : Option (Nat × Nat) :=
  (List.range (cs.length + 1 - start)).findSome? fun n =>
    (r.longest? cs (start + n)).map fun e => (start + n, e)

/-! ## Reading -/

inductive Symbol where
  | atom (r : Regex)
  | many
  | atLeastOne
  | maybe
  | opening
  | closing
  | bar
deriving DecidableEq, Repr

def classRanges : String → List (Char × Char)
  | "upper" => [('A', 'Z')]
  | "lower" => [('a', 'z')]
  | "digit" => [('0', '9')]
  | "alpha" => [('A', 'Z'), ('a', 'z')]
  | "alnum" => [('0', '9'), ('A', 'Z'), ('a', 'z')]
  | "space" => [('\t', '\r'), (' ', ' ')]
  | "blank" => [('\t', '\t'), (' ', ' ')]
  | "punct" => [('!', '/'), (':', '@'), ('[', '\x60'), ('\x7b', '~')]
  | _ => []

/-- The ranges between brackets, and the text behind the closing one, which does not count where the
first range is expected. -/
def readRanges : (fuel : Nat) → (isFirst : Bool) → List Char → List (Char × Char) × List Char
  | 0, _, cs => ([], cs)
  | _ + 1, false, ']' :: cs => ([], cs)
  | fuel + 1, _, '[' :: ':' :: cs =>
    let name := cs.takeWhile (· != ':')
    let (later, rest) := readRanges fuel false (cs.drop (name.length + 2))
    (classRanges (String.ofList name) ++ later, rest)
  | fuel + 1, _, a :: '-' :: b :: cs =>
    if b = ']' then
      let (later, rest) := readRanges fuel false ('-' :: b :: cs)
      ((a, a) :: later, rest)
    else
      let (later, rest) := readRanges fuel false cs
      ((a, b) :: later, rest)
  | fuel + 1, _, a :: cs =>
    let (later, rest) := readRanges fuel false cs
    ((a, a) :: later, rest)
  | _ + 1, _, [] => ([], [])

/-- The symbol of a character that is special in extended patterns, and behind a backslash in
others. -/
def special? : Char → Option Symbol
  | '(' => some .opening
  | ')' => some .closing
  | '|' => some .bar
  | '+' => some .atLeastOne
  | '?' => some .maybe
  | _ => none

/-- The symbols of a pattern; `isFirst` says whether an expression starts here. -/
def symbols (extended : Bool) : (fuel : Nat) → (isFirst : Bool) → List Char → List Symbol
  | 0, _, _ => []
  | _ + 1, _, [] => []
  | fuel + 1, _, '\\' :: c :: cs =>
    let s := if extended then Symbol.atom (.char c) else (special? c).getD (.atom (.char c))
    s :: symbols extended fuel (s == .opening || s == .bar) cs
  | fuel + 1, _, '[' :: '^' :: cs =>
    let (ranges, rest) := readRanges (cs.length + 1) true cs
    .atom (.oneOf true ranges) :: symbols extended fuel false rest
  | fuel + 1, _, '[' :: cs =>
    let (ranges, rest) := readRanges (cs.length + 1) true cs
    .atom (.oneOf false ranges) :: symbols extended fuel false rest
  | fuel + 1, _, '.' :: cs => .atom .any :: symbols extended fuel false cs
  | fuel + 1, isFirst, '*' :: cs =>
    (if isFirst then .atom (.char '*') else .many) :: symbols extended fuel false cs
  | fuel + 1, isFirst, '^' :: cs =>
    if isFirst || extended then .atom .lineStart :: symbols extended fuel true cs
    else .atom (.char '^') :: symbols extended fuel false cs
  | fuel + 1, _, '$' :: cs =>
    let isLast := extended || cs.isEmpty || cs.take 2 == ['\\', ')'] || cs.take 2 == ['\\', '|']
    .atom (if isLast then .lineEnd else .char '$') :: symbols extended fuel false cs
  | fuel + 1, _, c :: cs =>
    let s := if extended then (special? c).getD (.atom (.char c)) else .atom (.char c)
    s :: symbols extended fuel (s == .opening || s == .bar) cs

mutual

def readEither : (fuel : Nat) → List Symbol → Regex × List Symbol
  | 0, ts => (empty, ts)
  | fuel + 1, ts =>
    let (a, rest) := readSeq fuel empty ts
    match rest with
    | .bar :: rest =>
      let (b, rest) := readEither fuel rest
      (either a b, rest)
    | rest => (a, rest)

def readSeq : (fuel : Nat) → Regex → List Symbol → Regex × List Symbol
  | 0, done, ts => (done, ts)
  | fuel + 1, done, ts => match ts with
    | .atom r :: rest =>
      let (r, rest) := readSuffix r rest
      readSeq fuel (seq done r) rest
    | .opening :: rest =>
      let (r, rest) := readEither fuel rest
      let rest := match rest with
        | .closing :: rest => rest
        | rest => rest
      let (r, rest) := readSuffix r rest
      readSeq fuel (seq done r) rest
    | .many :: rest | .atLeastOne :: rest | .maybe :: rest => readSeq fuel done rest
    | ts => (done, ts)

def readSuffix (r : Regex) : List Symbol → Regex × List Symbol
  | .many :: rest => readSuffix (many r) rest
  | .atLeastOne :: rest => readSuffix (seq r (many r)) rest
  | .maybe :: rest => readSuffix (either r empty) rest
  | rest => (r, rest)

end

def read (extended : Bool) (s : String) : Regex :=
  let ts := symbols extended (s.length + 1) true s.toList
  (readEither (4 * ts.length + 4) ts).1

end Regex

end Pipework.Script
