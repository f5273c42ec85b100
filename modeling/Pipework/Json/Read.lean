import Pipework.Json.Basic
import Pipework.Text.Decimal

/-!
Reading JSON from the front of a text, into whatever the caller wants. Errors come in reading order,
and there are three kinds of them: the text breaks the grammar, it ends too early, or it is JSON of
another shape than asked for. Every reader leaves less text than it was given.
-/

namespace Pipework.Json

open Text

inductive Fault where
  /-- The text breaks the grammar, or a number or the nesting in it is too large. -/
  | malformed
  /-- The text is JSON, but not of the shape asked for. -/
  | mismatched
  /-- The text ends too early. -/
  | cutShort
deriving DecidableEq, Repr

/-- What a reader found in the text `cs`, and the text behind it. -/
structure Found (α : Type) (cs : List Char) where
  value : α
  rest : List Char
  shorter : rest.length < cs.length

/-- A reader of values that take at least one character. -/
abbrev Reader (α : Type) := (cs : List Char) → Except Fault (Found α cs)

/-- The blanks that may stand between the parts of a document. -/
def isBlank (c : Char) : Bool := c == ' ' || c == '\n' || c == '\t' || c == '\r'

def skipBlanks (cs : List Char) : List Char := cs.dropWhile isBlank

theorem length_dropWhile_le (p : Char → Bool) (cs : List Char) :
    (cs.dropWhile p).length ≤ cs.length :=
  (List.dropWhile_sublist p).length_le

theorem length_skipBlanks_le (cs : List Char) : (skipBlanks cs).length ≤ cs.length :=
  length_dropWhile_le _ _

theorem length_lt_of_skipBlanks {cs rest : List Char} {c : Char} (h : skipBlanks cs = c :: rest) :
    rest.length < cs.length := by
  have := length_skipBlanks_le cs
  rw [h] at this
  exact this

/-! ### Words, strings and numbers -/

def readWord : (word : List Char) → (cs : List Char) →
    Except Fault { rest : List Char // rest.length ≤ cs.length }
  | [], cs => .ok ⟨cs, Nat.le_refl _⟩
  | _ :: _, [] => .error .cutShort
  | w :: word, c :: cs =>
    if w = c then (readWord word cs).map fun ⟨rest, h⟩ => ⟨rest, Nat.le_succ_of_le h⟩
    else .error .malformed

def hexValue? (c : Char) : Option Nat :=
  if '0' ≤ c ∧ c ≤ '9' then some (c.toNat - '0'.toNat)
  else if 'a' ≤ c ∧ c ≤ 'f' then some (c.toNat - 'a'.toNat + 10)
  else if 'A' ≤ c ∧ c ≤ 'F' then some (c.toNat - 'A'.toNat + 10)
  else none

def hexValues? (a b c d : Char) : Option Nat := do
  return (((← hexValue? a) * 16 + (← hexValue? b)) * 16 + (← hexValue? c)) * 16 + (← hexValue? d)

/-- Reads four hexadecimal digits. The text has ended too early if fewer than four octets are left
in it. -/
def readHex : Reader Nat
  | cs@(a :: b :: c :: d :: rest) =>
    match hexValues? a b c d with
    | some n => .ok ⟨n, rest, by simp; omega⟩
    | none => .error .malformed
  | cs => .error (if (String.ofList cs).utf8ByteSize < 4 then .cutShort else .malformed)

/-- Reads what follows `\u`: a code unit, or two that make one character. -/
def readUnicode (cs : List Char) : Except Fault (Found Char cs) := do
  let ⟨n, rest, h⟩ ← readHex cs
  -- the second half of a pair cannot stand first
  if 0xDC00 ≤ n ∧ n ≤ 0xDFFF then throw .malformed
  if n < 0xD800 ∨ 0xDBFF < n then return ⟨Char.ofNat n, rest, h⟩
  match rest, h with
  | [], _ => throw .cutShort
  | ['\\'], _ => throw .cutShort
  | '\\' :: 'u' :: rest, h =>
    let ⟨m, rest', h'⟩ ← readHex rest
    if m < 0xDC00 ∨ 0xDFFF < m then throw .malformed
    return ⟨Char.ofNat (0x10000 + (n - 0xD800) * 0x400 + (m - 0xDC00)), rest', by
      simp only [List.length_cons] at h; omega⟩
  | _, _ => throw .malformed

def shortEscape? : Char → Option Char
  | '"' => some '"'
  | '\\' => some '\\'
  | '/' => some '/'
  | 'b' => some '\x08'
  | 'f' => some '\x0c'
  | 'n' => some '\n'
  | 'r' => some '\r'
  | 't' => some '\t'
  | _ => none

def readEscape : Reader Char
  | [] => .error .cutShort
  | c :: cs =>
    if c = 'u' then (readUnicode cs).map fun ⟨d, rest, h⟩ => ⟨d, rest, Nat.lt_succ_of_lt h⟩
    else match shortEscape? c with
      | some d => .ok ⟨d, cs, Nat.lt_succ_self _⟩
      | none => .error .malformed

/-- Reads a string up to its closing quote. `done` holds what was read before, last one first. -/
def readStringFrom (done : List Char) : List Char → Except Fault (String × List Char)
  | [] => .error .cutShort
  | c :: cs =>
    if c = '"' then .ok (String.ofList done.reverse, cs)
    else if c = '\\' then
      match readEscape cs with
      | .error e => .error e
      | .ok ⟨d, rest, _⟩ => readStringFrom (d :: done) rest
    else if c.toNat < 0x20 then .error .malformed
    else readStringFrom (c :: done) cs
termination_by cs => cs.length

theorem length_lt_of_readStringFrom {done cs rest : List Char} {s : String}
    (h : readStringFrom done cs = .ok (s, rest)) : rest.length < cs.length := by
  fun_induction readStringFrom done cs with
  | case1 => cases h
  | case2 =>
    obtain ⟨-, rfl⟩ := Prod.mk.inj (Except.ok.inj h)
    exact Nat.lt_succ_self _
  | case3 => cases h
  | case4 _ _ _ _ hlt _ _ ih => exact Nat.lt_trans (ih h) (Nat.lt_succ_of_lt hlt)
  | case5 => cases h
  | case6 _ _ _ _ _ _ ih => exact Nat.lt_succ_of_lt (ih h)

def readStringBody (cs : List Char) : Except Fault (Found String cs) :=
  match h : readStringFrom [] cs with
  | .error e => .error e
  | .ok (s, rest) => .ok ⟨s, rest, length_lt_of_readStringFrom h⟩

structure Numeral where
  negative : Bool
  whole : List Char
  /-- The digits behind the point; without a point there are none. -/
  fraction : List Char
  /-- The sign and the digits of the exponent. -/
  exponent : Option (Bool × List Char)
deriving DecidableEq, Repr

namespace Numeral

/-- Puts the digits of `cs` behind the number `n` for as long as the result is below `2 ^ 64`. Also
gives the digits that are left. -/
def absorb (n : Nat) : (digits : List Char) → Nat × List Char
  | [] => (n, [])
  | c :: cs =>
    let m := n * 10 + (c.toNat - '0'.toNat)
    if m < wordBound then absorb m cs else (n, c :: cs)

def maxExponent : Nat := 2147483647

/-- The number that a numeral stands for, if it is not too large. Without a point and an exponent
it is a whole number, if that fits a signed or unsigned machine word and is not a negative zero.
All else is a double, found from the leading digits that fit a word. -/
def value? (x : Numeral) : Option JsonNumber :=
  let (n, dropped) := absorb 0 x.whole
  let (m, ignored) := absorb n x.fraction
  let base : Int := (dropped.length : Int) - (x.fraction.length - ignored.length : Nat)
  match x.exponent with
  | none =>
    -- without a point or an exponent, and within a word
    if dropped.isEmpty && x.fraction.isEmpty && !x.negative then some (.whole n)
    else if dropped.isEmpty && x.fraction.isEmpty && n ≠ 0 && n ≤ wordBound / 2 then
      some (.whole (-n))
    else (Double.ofParts? x.negative m base).map .double
  | some (down, digits) =>
    let e := digitsValue digits
    if e > maxExponent then
      -- a zero stays zero, and all else vanishes or is too large
      if m ≠ 0 && !down then none else (Double.ofParts? x.negative 0 0).map .double
    else (Double.ofParts? x.negative m (if down then base - e else base + e)).map .double

def readDigits (cs : List Char) : List Char × { rest : List Char // rest.length ≤ cs.length } :=
  (cs.takeWhile Char.isDigit, ⟨cs.dropWhile Char.isDigit, length_dropWhile_le _ _⟩)

/-- Reads the whole digits: a zero alone, or digits that do not start with zero. -/
def readWhole (atEnd : Fault) : Reader (List Char)
  | [] => .error atEnd
  | c :: cs =>
    if c = '0' then
      if cs.head?.any Char.isDigit then .error .malformed else .ok ⟨['0'], cs, Nat.lt_succ_self _⟩
    else if c.isDigit then
      let (digits, ⟨rest, h⟩) := readDigits cs
      .ok ⟨c :: digits, rest, Nat.lt_succ_of_le h⟩
    else .error .malformed

def readFraction (atEnd : Fault) (cs : List Char) :
    Except Fault (List Char × { rest : List Char // rest.length ≤ cs.length }) :=
  match cs with
  | '.' :: cs =>
    match readDigits cs with
    | ([], ⟨rest, _⟩) => .error (if rest.isEmpty then atEnd else .malformed)
    | (digits, ⟨rest, h⟩) => .ok (digits, ⟨rest, Nat.le_succ_of_le h⟩)
  | cs => .ok ([], ⟨cs, Nat.le_refl _⟩)

def readSign (cs : List Char) : Bool × { rest : List Char // rest.length ≤ cs.length } :=
  match cs with
  | '+' :: cs => (false, ⟨cs, Nat.le_succ _⟩)
  | '-' :: cs => (true, ⟨cs, Nat.le_succ _⟩)
  | cs => (false, ⟨cs, Nat.le_refl _⟩)

def readExponent (atEnd : Fault) (cs : List Char) :
    Except Fault (Option (Bool × List Char) × { rest : List Char // rest.length ≤ cs.length }) :=
  match cs with
  | [] => .ok (none, ⟨[], Nat.le_refl _⟩)
  | c :: cs =>
    if c = 'e' ∨ c = 'E' then
      let (down, ⟨rest, h⟩) := readSign cs
      match readDigits rest with
      | ([], ⟨rest, _⟩) => .error (if rest.isEmpty then atEnd else .malformed)
      | (digits, ⟨rest', h'⟩) =>
        .ok (some (down, digits), ⟨rest', Nat.le_succ_of_le (Nat.le_trans h' h)⟩)
    else .ok (none, ⟨c :: cs, Nat.le_refl _⟩)

/-- Reads a numeral behind its sign. `atEnd` is the fault if the text ends within it. -/
def readUnsigned (atEnd : Fault) (negative : Bool) : Reader Numeral := fun cs => do
  let ⟨whole, rest, h⟩ ← readWhole atEnd cs
  let (fraction, ⟨rest, h'⟩) ← readFraction atEnd rest
  let (exponent, ⟨rest, h''⟩) ← readExponent atEnd rest
  return ⟨⟨negative, whole, fraction, exponent⟩, rest,
    Nat.lt_of_le_of_lt (Nat.le_trans h'' h') h⟩

def read (atEnd : Fault) : Reader Numeral
  | '-' :: cs => (readUnsigned atEnd true cs).map fun ⟨x, rest, h⟩ => ⟨x, rest, Nat.lt_succ_of_lt h⟩
  | cs => readUnsigned atEnd false cs

end Numeral

def readScalar (cs : List Char) : Except Fault (Found Json cs) :=
  match h : skipBlanks cs with
  | [] => .error .cutShort
  | c :: rest =>
    have hc := length_lt_of_skipBlanks h
    let word (letters : List Char) (value : Json) : Except Fault (Found Json cs) :=
      (readWord letters rest).map fun ⟨rest', h'⟩ => ⟨value, rest', Nat.lt_of_le_of_lt h' hc⟩
    if c = 'n' then word ['u', 'l', 'l'] .null
    else if c = 't' then word ['r', 'u', 'e'] (.bool true)
    else if c = 'f' then word ['a', 'l', 's', 'e'] (.bool false)
    else if c = '"' then
      (readStringBody rest).map fun ⟨s, rest', h'⟩ => ⟨.string s, rest', Nat.lt_trans h' hc⟩
    else if c = '-' ∨ c.isDigit then
      match Numeral.read .cutShort (c :: rest) with
      | .error e => .error e
      | .ok ⟨x, rest', h'⟩ => match x.value? with
        | none => .error .malformed
        | some n => .ok ⟨.number n, rest', by simp only [List.length_cons] at h'; omega⟩
    else .error .malformed

/-- The fault of a text that starts with a value of an unwanted type: that of the value itself, if
it cannot be read. -/
def mismatch (cs : List Char) : Fault :=
  match skipBlanks cs with
  | '[' :: _ | '{' :: _ => .mismatched
  | _ => match readScalar cs with
    | .error e => e
    | .ok _ => .mismatched

def readString (cs : List Char) : Except Fault (Found String cs) :=
  match h : skipBlanks cs with
  | '"' :: rest => (readStringBody rest).map fun ⟨s, rest', h'⟩ =>
      ⟨s, rest', Nat.lt_trans h' (length_lt_of_skipBlanks h)⟩
  | _ => .error (mismatch cs)

/-! ### Arrays and objects -/

/-- Where a text stands between the items of an array or the members of an object: at the end,
with the text behind the closing bracket, or before one more. -/
inductive Place (cs : List Char) where
  | finished (rest : List Char) (shorter : rest.length < cs.length)
  | more (rest : List Char) (notLonger : rest.length ≤ cs.length)

def nextItem (first : Bool) (cs : List Char) : Except Fault (Place cs) :=
  match h : skipBlanks cs with
  | [] => .error .cutShort
  | c :: rest =>
    have hc := length_lt_of_skipBlanks h
    if c = ']' then .ok (.finished rest hc)
    else if first then .ok (.more (c :: rest) hc)
    else if c = ',' then
      match h' : skipBlanks rest with
      | [] => .error .cutShort
      | d :: rest' =>
        -- a comma has to have an item behind it
        if d = ']' then .error .malformed
        else .ok (.more (d :: rest') (by have := length_lt_of_skipBlanks h'; simp; omega))
    else .error .malformed

/-- Looks for the next member of an object; there is one only if a quote comes next. -/
def nextMember (first : Bool) (cs : List Char) : Except Fault (Place cs) :=
  match h : skipBlanks cs with
  | [] => .error .cutShort
  | c :: rest =>
    have hc := length_lt_of_skipBlanks h
    if c = '\x7d' then .ok (.finished rest hc)
    else if first then
      if c = '"' then .ok (.more rest (Nat.le_of_lt hc)) else .error .malformed
    else if c = ',' then
      match h' : skipBlanks rest with
      | [] => .error .cutShort
      | d :: rest' =>
        if d = '"' then
          .ok (.more rest' (by have := length_lt_of_skipBlanks h'; omega))
        else .error .malformed
    else .error .malformed

def readColon (cs : List Char) : Except Fault (Found Unit cs) :=
  match h : skipBlanks cs with
  | [] => .error .cutShort
  | c :: rest =>
    if c = ':' then .ok ⟨(), rest, length_lt_of_skipBlanks h⟩ else .error .malformed

/-- Reads the items of an array behind its opening bracket. `done` has the last one first. -/
def readItemsFrom {α : Type} (item : Reader α) (first : Bool) (done : List α) (cs : List Char) :
    Except Fault (List α × List Char) :=
  match nextItem first cs with
  | .error e => .error e
  | .ok (.finished rest _) => .ok (done.reverse, rest)
  | .ok (.more rest h) =>
    match item rest with
    | .error e => .error e
    | .ok ⟨x, rest', h'⟩ =>
      have := Nat.lt_of_lt_of_le h' h
      readItemsFrom item false (x :: done) rest'
termination_by cs.length

theorem length_lt_of_readItemsFrom {α : Type} {item : Reader α} {first : Bool} {done xs : List α}
    {cs rest : List Char} (h : readItemsFrom item first done cs = .ok (xs, rest)) :
    rest.length < cs.length := by
  fun_induction readItemsFrom item first done cs with
  | case1 => cases h
  | case2 _ _ _ _ hlt =>
    obtain ⟨-, rfl⟩ := Prod.mk.inj (Except.ok.inj h)
    exact hlt
  | case3 => cases h
  | case4 _ _ _ _ hle _ _ _ _ _ hlt ih => exact Nat.lt_trans (ih h) hlt

/-- Reads the members of an object behind its opening bracket. `step` takes what was found so far
and the name of a member, and reads the rest of the member. -/
def readMembersFrom {α : Type} (step : α → String → Reader α) (first : Bool) (soFar : α)
    (cs : List Char) : Except Fault (α × List Char) :=
  match nextMember first cs with
  | .error e => .error e
  | .ok (.finished rest _) => .ok (soFar, rest)
  | .ok (.more rest h) =>
    match readStringBody rest with
    | .error e => .error e
    | .ok ⟨name, rest', h'⟩ =>
      match step soFar name rest' with
      | .error e => .error e
      | .ok ⟨x, rest'', h''⟩ =>
        have := Nat.lt_trans h'' (Nat.lt_of_lt_of_le h' h)
        readMembersFrom step false x rest''
termination_by cs.length

theorem length_lt_of_readMembersFrom {α : Type} {step : α → String → Reader α} {first : Bool}
    {soFar x : α} {cs rest : List Char} (h : readMembersFrom step first soFar cs = .ok (x, rest)) :
    rest.length < cs.length := by
  fun_induction readMembersFrom step first soFar cs with
  | case1 => cases h
  | case2 _ _ _ _ hlt =>
    obtain ⟨-, rfl⟩ := Prod.mk.inj (Except.ok.inj h)
    exact hlt
  | case3 => cases h
  | case4 => cases h
  | case5 _ _ _ _ _ _ _ _ _ _ _ _ _ _ hlt ih => exact Nat.lt_trans (ih h) hlt

def readItems {α : Type} (item : Reader α) (cs : List Char) : Except Fault (Found (List α) cs) :=
  match h : readItemsFrom item true [] cs with
  | .error e => .error e
  | .ok (xs, rest) => .ok ⟨xs, rest, length_lt_of_readItemsFrom h⟩

def readMembers {α : Type} (step : α → String → Reader α) (start : α) (cs : List Char) :
    Except Fault (Found α cs) :=
  match h : readMembersFrom step true start cs with
  | .error e => .error e
  | .ok (x, rest) => .ok ⟨x, rest, length_lt_of_readMembersFrom h⟩

def readMember {α : Type} (item : Reader α) : Reader α := fun cs => do
  let ⟨_, rest, h⟩ ← readColon cs
  let ⟨x, rest', h'⟩ ← item rest
  return ⟨x, rest', Nat.lt_trans h' h⟩

def tableStep {α : Type} (item : Reader α) (table : NameMap α) (name : String) :
    Reader (NameMap α) := fun cs =>
  (readMember item cs).map fun ⟨x, rest, h⟩ => ⟨table.insert name x, rest, h⟩

def readTable {α : Type} (item : Reader α) (cs : List Char) : Except Fault (Found (NameMap α) cs) :=
  match h : skipBlanks cs with
  | '\x7b' :: rest => (readMembers (tableStep item) ∅ rest).map fun ⟨t, rest', h'⟩ =>
      ⟨t, rest', Nat.lt_trans h' (length_lt_of_skipBlanks h)⟩
  | _ => .error (mismatch cs)

def readArray {α : Type} (item : Reader α) (cs : List Char) : Except Fault (Found (List α) cs) :=
  match h : skipBlanks cs with
  | '[' :: rest => (readItems item rest).map fun ⟨xs, rest', h'⟩ =>
      ⟨xs, rest', Nat.lt_trans h' (length_lt_of_skipBlanks h)⟩
  | _ => .error (mismatch cs)

/-- Reads any value in which arrays and objects are nested no deeper than `levels`. -/
def readValue : (levels : Nat) → Reader Json
  | levels, cs =>
    match h : skipBlanks cs with
    | '[' :: rest => match levels with
      | 0 => .error .malformed
      | levels + 1 => (readItems (readValue levels) rest).map fun ⟨xs, rest', h'⟩ =>
          ⟨.array xs, rest', Nat.lt_trans h' (length_lt_of_skipBlanks h)⟩
    | '\x7b' :: rest => match levels with
      | 0 => .error .malformed
      | levels + 1 => (readMembers (tableStep (readValue levels)) ∅ rest).map fun ⟨t, rest', h'⟩ =>
          ⟨.object t.entries, rest', Nat.lt_trans h' (length_lt_of_skipBlanks h)⟩
    | _ => readScalar cs

/-- Reads a value that may be null, which counts as no value. -/
def readOptional {α : Type} (item : Reader α) (cs : List Char) :
    Except Fault (Found (Option α) cs) :=
  match h : skipBlanks cs with
  | 'n' :: rest => (readWord ['u', 'l', 'l'] rest).map fun ⟨rest', h'⟩ =>
      ⟨none, rest', Nat.lt_of_le_of_lt h' (length_lt_of_skipBlanks h)⟩
  | _ => (item cs).map fun ⟨x, rest, h⟩ => ⟨some x, rest, h⟩

/-! ### Passing over a value -/

inductive Bracket where
  | square
  | curly
deriving DecidableEq, Repr

def Bracket.closing : Bracket → Char
  | square => ']'
  | curly => '\x7d'

/-- Passes over the rest of a string; its escapes need not make characters. -/
def skipString : List Char → Except Fault (List Char)
  | [] => .error .cutShort
  | c :: cs =>
    if c = '"' then .ok cs
    else if c = '\\' then
      match cs with
      | [] => .error .cutShort
      | d :: cs =>
        if d = 'u' then
          match readHex cs with
          | .error e => .error e
          | .ok ⟨_, rest, _⟩ => skipString rest
        else if (shortEscape? d).isSome then skipString cs
        else .error .malformed
    else if c.toNat < 0x20 then .error .malformed
    else skipString cs
termination_by cs => cs.length
decreasing_by all_goals simp_all; try omega

theorem length_lt_of_skipString {cs rest : List Char} (h : skipString cs = .ok rest) :
    rest.length < cs.length := by
  fun_induction skipString cs with
  | case2 =>
    obtain rfl := Except.ok.inj h
    exact Nat.lt_succ_self _
  | _ => grind

def skipName (cs : List Char) : Except Fault { rest : List Char // rest.length < cs.length } :=
  match h : skipBlanks cs with
  | [] => .error .cutShort
  | c :: rest =>
    if c = '"' then
      match h' : skipString rest with
      | .error e => .error e
      | .ok rest' => (readColon rest').map fun ⟨_, rest'', h''⟩ => ⟨rest'', by
          have := length_lt_of_skipBlanks h
          have := length_lt_of_skipString h'
          omega⟩
    else .error .malformed

def skipScalar (c : Char) (cs : List Char) :
    Except Fault { rest : List Char // rest.length < (c :: cs).length } :=
  let word (letters : List Char) :
      Except Fault { rest : List Char // rest.length < (c :: cs).length } :=
    (readWord letters cs).map fun ⟨rest, h⟩ => ⟨rest, Nat.lt_succ_of_le h⟩
  if c = 'n' then word ['u', 'l', 'l']
  else if c = 't' then word ['r', 'u', 'e']
  else if c = 'f' then word ['a', 'l', 's', 'e']
  else if c = '"' then
    match h : skipString cs with
    | .error e => .error e
    | .ok rest => .ok ⟨rest, Nat.lt_succ_of_lt (length_lt_of_skipString h)⟩
  else if c = '-' ∨ c.isDigit then
    (Numeral.read .malformed (c :: cs)).map fun ⟨_, rest, h⟩ => ⟨rest, h⟩
  else .error .malformed

mutual

/-- Passes over a value inside open brackets, innermost first, and over what follows up to the last
of their closings. -/
def skipFrom (brackets : List Bracket) (cs : List Char) : Except Fault (List Char) :=
  match h : skipBlanks cs with
  | [] => .error .cutShort
  | c :: rest =>
    have hc := length_lt_of_skipBlanks h
    if c = '[' then skipBehind .square brackets false rest
    else if c = '\x7b' then skipBehind .curly brackets false rest
    else match skipScalar c rest with
      | .error e => .error e
      | .ok ⟨rest', h'⟩ =>
        have : rest'.length < cs.length := by simp only [List.length_cons] at h'; omega
        match brackets with
        | [] => .ok rest'
        | b :: outer => skipBehind b outer true rest'
termination_by 3 * cs.length

/-- Passes over what follows behind an opening bracket or, if `comma`, behind a value in it. -/
def skipBehind (b : Bracket) (outer : List Bracket) (comma : Bool) (cs : List Char) :
    Except Fault (List Char) :=
  match h : skipBlanks cs with
  | [] => .error .cutShort
  | c :: rest =>
    have := length_lt_of_skipBlanks h
    if c = b.closing then
      match outer with
      | [] => .ok rest
      | b' :: outer' => skipBehind b' outer' true rest
    else if !comma then skipInside b outer cs
    else if c = ',' then skipInside b outer rest
    else .error .malformed
termination_by 3 * cs.length + 2

def skipInside (b : Bracket) (outer : List Bracket) (cs : List Char) : Except Fault (List Char) :=
  match b with
  | .square => skipFrom (.square :: outer) cs
  | .curly => match skipName cs with
    | .error e => .error e
    | .ok ⟨rest, _⟩ => skipFrom (.curly :: outer) rest
termination_by 3 * cs.length + 1

end

theorem length_lt_of_skipFrom {brackets : List Bracket} {cs rest : List Char}
    (h : skipFrom brackets cs = .ok rest) : rest.length < cs.length := by
  revert rest
  apply skipFrom.induct
    (fun brackets cs => ∀ {rest}, skipFrom brackets cs = .ok rest → rest.length < cs.length)
    (fun b outer comma cs => ∀ {rest},
      skipBehind b outer comma cs = .ok rest → rest.length < cs.length)
    (fun b outer cs => ∀ {rest}, skipInside b outer cs = .ok rest → rest.length < cs.length) <;>
    grind [skipFrom, skipBehind, skipInside]

def skipValue (cs : List Char) : Except Fault (Found Unit cs) :=
  match h : skipFrom [] cs with
  | .error e => .error e
  | .ok rest => .ok ⟨(), rest, length_lt_of_skipFrom h⟩

def readDocument {α : Type} (reader : Reader α) (text : String) : Except Fault α := do
  let ⟨x, rest, _⟩ ← reader text.toList
  if (skipBlanks rest).isEmpty then return x else throw .malformed

/-- The levels of nesting that a document may have where its values are kept. -/
def maxLevels : Nat := 127

def parse (text : String) : Except Fault Json := readDocument (readValue maxLevels) text

end Pipework.Json
