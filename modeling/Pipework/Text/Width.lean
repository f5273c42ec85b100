import Pipework.Text.Width.Emoji

/-!
How many columns of a terminal a text takes. Some characters take more or fewer columns next to
others: emoji are joined into one, selectors change how a character is shown, and letters of some
scripts make ligatures. A text is therefore read from its end, and of what stands behind a character
only so much is kept as can change the columns of those before it.
-/

namespace Pipework.Text

inductive Selector where
  | emoji
  | text
  /-- Quotation marks with the width of an ideograph. -/
  | wide
deriving DecidableEq, Repr

/-- The end of a ligature. -/
inductive LigatureEnd where
  /-- A Hebrew lamed. -/
  | lamed
  /-- A Buginese ya, and one with the vowel before it. -/
  | ya
  | yaWithVowel
  /-- A Tifinagh consonant, and one with the joining sign before it. -/
  | consonant
  | joinedConsonant
  /-- A Lisu tone letter that can be the second of two. -/
  | tone
  /-- An Old Turkic vowel. -/
  | orkhonI
  /-- A Khmer letter that can stand below another one. -/
  | subscript
deriving DecidableEq, Repr

/-- What stands behind a character, as far as it can join with it. -/
inductive Follower where
  | plain
  | lineFeed
  | tone
  /-- One regional indicator, or more. -/
  | indicator
  | indicators
  | emoji
  /-- An emoji with a joiner before it, perhaps with a keycap before that. -/
  | joinedEmoji
  | joinedKeycap
  /-- A joined emoji with one regional indicator before it, an even or a larger odd number. -/
  | joinedIndicator
  | joinedPairs
  | joinedOdd
  /-- A joined emoji with tags before it: the last one, letters and then digits. -/
  | joinedTag
  | joinedLetters (count : Nat)
  | joinedDigits (count : Nat)
  /-- Kirat Rai vowels. -/
  | vowelE
  | vowelAI
  /-- An Arabic alef. -/
  | alef
  /-- The end of a ligature, perhaps with a joiner before it. -/
  | ligature (last : LigatureEnd) (joined : Bool)
deriving DecidableEq, Repr

namespace Follower

def isLigature : Follower → Bool
  | alef | ligature _ _ => true
  | _ => false

def isTied : Follower → Bool
  | joinedEmoji | joinedKeycap => true
  | _ => false

def takesJoiner : Follower → Bool
  | emoji | indicators | joinedPairs | joinedOdd | tone => true
  | _ => false

end Follower

/-- All that matters of what stands behind a character. -/
structure Behind where
  follower : Follower := .plain
  selector : Option Selector := none
deriving DecidableEq, Repr

namespace Behind

def select (b : Behind) (s : Selector) : Behind :=
  if b.follower.isLigature || (b.follower.isTied && s = .emoji && b.selector.isNone) then
    ⟨b.follower, some s⟩
  else ⟨.plain, some s⟩

/-- Drops a selector that does not fit the character before it. -/
def unselect (b : Behind) : Behind :=
  if b.selector.isNone then b
  else if b.follower.isLigature then ⟨b.follower, none⟩
  else {}

end Behind

def joiner : Char := '\u200D'

def selector? (c : Char) : Option Selector :=
  if c = '\uFE0F' then some .emoji
  else if c = '\uFE0E' then some .text
  else if c = '\uFE01' then some .wide
  else none

def isQuote (c : Char) : Bool := c == '\u2018' || c == '\u2019' || c == '\u201C' || c == '\u201D'

/-- Does the character leave a ligature as it is? These are the marks that may be ignored. -/
def isIgnoredMark (c : Char) : Bool :=
  inRanges #[(0x34F, 0x34F), (0x17B4, 0x17B5), (0x180B, 0x180D), (0x180F, 0x180F),
    (0xFE00, 0xFE0F), (0xE0100, 0xE01EF)] c

def isAlef (c : Char) : Bool :=
  inRanges #[(0x622, 0x623), (0x625, 0x625), (0x627, 0x627), (0x671, 0x673), (0x675, 0x675),
    (0x773, 0x774), (0x870, 0x882)] c

def isLam (c : Char) : Bool :=
  inRanges #[(0x644, 0x644), (0x6B5, 0x6B8), (0x76A, 0x76A), (0x8A6, 0x8A6), (0x8C7, 0x8C7)] c

def isTransparent (c : Char) : Bool := inRanges flatRanges c && !inRanges opaqueRanges c

def isSubscript (c : Char) : Bool :=
  inRanges #[(0x1780, 0x1782), (0x1784, 0x1787), (0x1789, 0x178C), (0x178E, 0x1793),
    (0x1795, 0x1798), (0x179B, 0x179D), (0x17A0, 0x17A0), (0x17A2, 0x17A2), (0x17A7, 0x17A7),
    (0x17AB, 0x17AC), (0x17AF, 0x17AF)] c

def isTifinagh (c : Char) : Bool := inRanges #[(0x2D31, 0x2D65), (0x2D6F, 0x2D6F)] c

def isTagLetter (c : Char) : Bool := inRanges #[(0xE0061, 0xE007A)] c

def isTagDigit (c : Char) : Bool := inRanges #[(0xE0030, 0xE0039)] c

def ligatureEnd? (c : Char) : Option LigatureEnd :=
  if c = '\u05DC' then some .lamed
  else if c = '\u1A10' then some .ya
  else if isTifinagh c then some .consonant
  else if c = '\uA4FC' ∨ c = '\uA4FD' then some .tone
  else if c.toNat = 0x10C03 then some .orkhonI
  else if isSubscript c then some .subscript
  else none

def followerOf (c : Char) : Follower :=
  if isEmoji c then .emoji
  else if isTone c then .tone
  else if isIndicator c then .indicator
  else if isAlef c then .alef
  else if c.toNat = 0x16D67 then .vowelE
  else if c.toNat = 0x16D68 then .vowelAI
  else match ligatureEnd? c with
    | some last => .ligature last false
    | none => .plain

/-- The columns of a character by itself. The Khmer sign beyyal is an abbreviation of three. -/
def columns (c : Char) : Int :=
  if c.toNat ≤ 0xA0 then 1
  else if c = '\u17D8' then 3
  else if c = '\u17A4' then 2
  else if inRanges flatRanges c then 0
  else if inRanges wideRanges c then 2
  else 1

/-- The columns that a character adds before a ligature's end, if it belongs to the ligature. -/
def ligatureStep? (c : Char) : LigatureEnd → (joined : Bool) → Option (Int × Behind)
  | .lamed, true => if c = '\u05D0' then some (0, {}) else none
  | .ya, true => if c = '\u1A17' then some (0, ⟨.ligature .yaWithVowel true, none⟩) else none
  | .yaWithVowel, _ => if c = '\u1A15' then some (0, {}) else none
  | .consonant, joined =>
    if c = '\u2D7F' then some (1, ⟨.ligature .joinedConsonant true, none⟩)
    else if joined && isTifinagh c then some (0, {})
    else none
  -- the joining sign has been counted, and is not seen
  | .joinedConsonant, _ => if isTifinagh c then some (-1, {}) else none
  | .tone, _ => if '\uA4F8' ≤ c ∧ c ≤ '\uA4FB' then some (0, {}) else none
  | .orkhonI, true => if c.toNat = 0x10C32 then some (0, {}) else none
  -- the letter has been counted, and stands below another one
  | .subscript, _ => if c = '\u17D2' then some (-1, {}) else none
  | _, _ => none

def joinStep? (c : Char) : Follower → Option (Int × Behind)
  | .alef =>
    if isLam c then some (0, {})
    else if isTransparent c then some (0, ⟨.alef, none⟩)
    else none
  | .ligature last joined =>
    if c = joiner then some (0, ⟨.ligature last true, none⟩)
    else if isIgnoredMark c then some (0, ⟨.ligature last joined, none⟩)
    else ligatureStep? c last joined
  | .vowelE =>
    if c.toNat = 0x16D63 ∨ c.toNat = 0x16D69 then some (0, {})
    else if c.toNat = 0x16D67 then some (0, ⟨.vowelAI, none⟩)
    else if c.toNat = 0x16D68 then some (1, ⟨.vowelE, none⟩)
    else none
  | .vowelAI => if c.toNat = 0x16D63 then some (0, {}) else none
  | .indicator => if isIndicator c then some (1, ⟨.indicators, none⟩) else none
  | .joinedEmoji =>
    if c = '\u20E3' then some (0, ⟨.joinedKeycap, none⟩)
    else if isIndicator c then some (1, ⟨.joinedIndicator, none⟩)
    else if isTone c then some (0, ⟨.tone, none⟩)
    else if c.toNat = 0xE007F then some (0, ⟨.joinedTag, none⟩)
    else if isEmoji c then some (0, ⟨.emoji, none⟩)
    else none
  -- two indicators make one flag, and an odd one stands alone
  | .joinedIndicator => if isIndicator c then some (-1, ⟨.joinedPairs, none⟩) else none
  | .joinedTag =>
    if isTagLetter c then some (0, ⟨.joinedLetters 1, none⟩)
    else if isTagDigit c then some (0, ⟨.joinedDigits 1, none⟩)
    else none
  | .joinedLetters n =>
    if isTagLetter c && n < 6 then some (0, ⟨.joinedLetters (n + 1), none⟩)
    else if isTagDigit c && n < 5 then some (0, ⟨.joinedDigits 1, none⟩)
    else if c.toNat = 0x1F3F4 && 3 ≤ n then some (0, ⟨.emoji, none⟩)
    else none
  | .joinedDigits n =>
    if isTagDigit c && n < 3 then some (0, ⟨.joinedDigits (n + 1), none⟩)
    else if c.toNat = 0x1F3F4 && n = 3 then some (0, ⟨.emoji, none⟩)
    else none
  | follower =>
    if c = joiner && follower.takesJoiner then some (0, ⟨.joinedEmoji, none⟩)
    else match follower with
      | .tone => if isToneBase c then some (0, ⟨.emoji, none⟩) else none
      | .indicators => if isIndicator c then some (1, ⟨.indicators, none⟩) else none
      | .joinedPairs => if isIndicator c then some (3, ⟨.joinedOdd, none⟩) else none
      | .joinedOdd => if isIndicator c then some (-1, ⟨.joinedPairs, none⟩) else none
      | _ => none

/-- The columns that a character adds before what stands behind it, and what stands behind the
character before it then. -/
def widthStep (c : Char) (b : Behind) : Int × Behind :=
  if b.selector = some .emoji && hasTwoStyles c then
    (if b.follower.isTied then 0 else 2, ⟨.emoji, none⟩)
  else if c.toNat ≤ 0xA0 then
    if c = '\n' then (1, ⟨.lineFeed, none⟩)
    else (if c = '\r' && b = ⟨.lineFeed, none⟩ then 0 else 1, {})
  else
    -- an emoji selector that does not fit is gone, even before another selector
    let b := if b.selector = some .emoji then b.unselect else b
    match selector? c with
    | some s => (0, b.select s)
    | none =>
      if b.selector = some .text && isNarrowAsText c then (1, {})
      else if b.selector = some .wide && isQuote c then (2, {})
      else (joinStep? c b.unselect.follower).getD (columns c, ⟨followerOf c, none⟩)

def width (s : String) : Nat :=
  (s.toList.foldr (fun c r => let (n, b) := widthStep c r.2; (r.1 + n, b)) ((0 : Int), {})).1.toNat

end Pipework.Text
