/-!
Octets and the text they hold. `toBytes` writes a text as UTF-8 and `ofBytes?` reads it back: it
accepts exactly what `toBytes` produces. `lossy` reads any octets, with one replacement character
for each part that is not UTF-8.
-/

namespace Pipework

/-- A sequence of octets: what files, pipes, paths and arguments are made of. -/
abbrev Bytes := List UInt8

namespace Text

def toBytes (s : String) : Bytes := s.toByteArray.data.toList

def ofBytes? (bs : Bytes) : Option String := String.fromUTF8? bs.toByteArray

@[simp] theorem toByteArray_toBytes (s : String) : (toBytes s).toByteArray = s.toByteArray := by
  apply ByteArray.ext
  simp [toBytes, List.data_toByteArray]

@[simp] theorem ofBytes?_toBytes (s : String) : ofBytes? (toBytes s) = some s := by
  simp [ofBytes?, String.fromUTF8?, s.isValidUTF8, String.fromUTF8]

theorem eq_toBytes_of_ofBytes? {bs : Bytes} {s : String} (h : ofBytes? bs = some s) :
    bs = toBytes s := by
  unfold ofBytes? String.fromUTF8? at h
  split at h
  · obtain rfl := Option.some.inj h
    simp [toBytes, String.fromUTF8, List.data_toByteArray]
  · cases h

/-- A piece of a sequence of octets: a character, or octets that belong to none. -/
inductive Part where
  | char (c : Char)
  | broken (bs : Bytes)
deriving DecidableEq, Repr

/-- What a leading octet asks for: how many octets follow, and the bounds of the first of them. -/
structure Lead where
  more : Nat
  low : UInt8
  high : UInt8
  bits : Nat

/-- The leading octets of the sequences of two to four octets. The bounds keep out long forms,
surrogates and everything past the last code point. -/
def Lead.of? (b : UInt8) : Option Lead :=
  if 0xC2 ≤ b ∧ b ≤ 0xDF then some ⟨1, 0x80, 0xBF, b.toNat - 0xC0⟩
  else if b = 0xE0 then some ⟨2, 0xA0, 0xBF, 0⟩
  else if b = 0xED then some ⟨2, 0x80, 0x9F, 0xD⟩
  else if 0xE1 ≤ b ∧ b ≤ 0xEF then some ⟨2, 0x80, 0xBF, b.toNat - 0xE0⟩
  else if b = 0xF0 then some ⟨3, 0x90, 0xBF, 0⟩
  else if 0xF1 ≤ b ∧ b ≤ 0xF3 then some ⟨3, 0x80, 0xBF, b.toNat - 0xF0⟩
  else if b = 0xF4 then some ⟨3, 0x80, 0x8F, 4⟩
  else none

/-- Reads `more` continuation octets, the first of them between `low` and `high`. `value` is the
code point so far and `taken` the octets so far, last one first. -/
def readTail : (more : Nat) → (low high : UInt8) → (value : Nat) → (taken : Bytes) → Bytes →
    Part × Bytes
  | 0, _, _, value, _, bs => (.char (Char.ofNat value), bs)
  | _ + 1, _, _, _, taken, [] => (.broken taken.reverse, [])
  | more + 1, low, high, value, taken, b :: bs =>
    if low ≤ b ∧ b ≤ high then
      readTail more 0x80 0xBF (value * 64 + (b.toNat - 0x80)) (b :: taken) bs
    -- the octet that does not fit may start a piece of its own
    else (.broken taken.reverse, b :: bs)

/-- The first piece of `b :: bs`: a character, or the longest start that could have become one. -/
def firstPart (b : UInt8) (bs : Bytes) : Part × Bytes :=
  if b < 0x80 then (.char (Char.ofNat b.toNat), bs)
  else match Lead.of? b with
    | some lead => readTail lead.more lead.low lead.high lead.bits [b] bs
    | none => (.broken [b], bs)

theorem length_readTail_le (more : Nat) (low high : UInt8) (value : Nat) (taken bs : Bytes) :
    (readTail more low high value taken bs).2.length ≤ bs.length := by
  fun_induction readTail more low high value taken bs with
  | case1 => exact Nat.le_refl _
  | case2 => exact Nat.le_refl _
  | case3 _ _ _ _ _ _ _ _ ih => exact Nat.le_succ_of_le ih
  | case4 => exact Nat.le_refl _

theorem length_firstPart_le (b : UInt8) (bs : Bytes) : (firstPart b bs).2.length ≤ bs.length := by
  unfold firstPart
  split
  · exact Nat.le_refl _
  · split
    · exact length_readTail_le ..
    · exact Nat.le_refl _

/-- All pieces of `bs`, behind those of `done`, which has its last piece first. -/
def partsAfter (done : List Part) : Bytes → List Part
  | [] => done.reverse
  | b :: bs => partsAfter ((firstPart b bs).1 :: done) (firstPart b bs).2
termination_by bs => bs.length
decreasing_by exact Nat.lt_succ_of_le (length_firstPart_le b bs)

def parts (bs : Bytes) : List Part := partsAfter [] bs

def replacement : Char := '\uFFFD'

def Part.toChar : Part → Char
  | .char c => c
  | .broken _ => replacement

/-- The octets as text. Text stays as it is; elsewhere each broken piece becomes one replacement
character. -/
def lossy (bs : Bytes) : String :=
  match ofBytes? bs with
  | some s => s
  | none => String.ofList ((parts bs).map Part.toChar)

@[simp] theorem lossy_toBytes (s : String) : lossy (toBytes s) = s := by simp [lossy]

end Text

end Pipework
