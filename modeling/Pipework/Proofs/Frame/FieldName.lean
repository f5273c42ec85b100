import Mathlib
import Pipework.Frame.FieldName

/-! Names of fields up to the case of their letters. The canonical spelling is the same for two
tokens exactly if they differ in case only, so it stands for all spellings of a name. Texts that are
no tokens, which hold a blank, a control, a delimiter or a character outside ASCII, keep theirs.
What is known of `Char.toLower` and `Char.toUpper` comes with the whole library only. -/

namespace Pipework.FieldName

theorem toLower_of_not_isAlpha {c : Char} (h : c.isAlpha = false) : c.toLower = c := by
  rw [Char.isAlpha, Bool.or_eq_false_iff] at h
  exact Char.toLower_eq_of_not_isUpper (by simp [h.1])

theorem isAlpha_eq_of_toLower {c d : Char} (h : c.toLower = d.toLower) :
    c.isAlpha = d.isAlpha := by
  rw [← Char.isAlpha_toLower_eq_isAlpha, h, Char.isAlpha_toLower_eq_isAlpha]

theorem isAlpha_or_eq_of_toLower {c d : Char} (h : c.toLower = d.toLower) :
    (c.isAlpha = true ∧ d.isAlpha = true) ∨ c = d := by
  have ha := isAlpha_eq_of_toLower h
  cases hd : d.isAlpha with
  | true => exact Or.inl ⟨ha.trans hd, rfl⟩
  | false =>
    rw [toLower_of_not_isAlpha hd, toLower_of_not_isAlpha (ha.trans hd)] at h
    exact Or.inr h

theorem isTokenChar_eq_of_toLower {c d : Char} (h : c.toLower = d.toLower) :
    isTokenChar c = isTokenChar d := by
  rcases isAlpha_or_eq_of_toLower h with ⟨hc, hd⟩ | rfl
  · simp [isTokenChar, Char.isAlphanum, hc, hd]
  · rfl

theorem beq_dash_of_toLower {c d : Char} (h : c.toLower = d.toLower) :
    (c == '-') = (d == '-') := by
  -- a dash is no letter, so it is equal to whatever differs from it in case only
  rcases isAlpha_or_eq_of_toLower h with ⟨hc, hd⟩ | rfl
  · have hne {x : Char} (hx : x.isAlpha = true) : (x == '-') = false := by
      rw [beq_eq_false_iff_ne]
      rintro rfl
      exact absurd hx (by decide)
    rw [hne hc, hne hd]
  · rfl

theorem map_toLower_titleCase (start : Bool) (cs : List Char) :
    (titleCase start cs).map Char.toLower = cs.map Char.toLower := by
  induction cs generalizing start with
  | nil => rfl
  | cons c cs ih =>
    rw [titleCase, List.map_cons, List.map_cons, ih]
    cases start <;> simp

theorem titleCase_congr {start : Bool} {cs ds : List Char}
    (h : cs.map Char.toLower = ds.map Char.toLower) : titleCase start cs = titleCase start ds := by
  induction cs generalizing start ds with
  | nil => rw [List.map_eq_nil_iff.1 h.symm]
  | cons c cs ih =>
    obtain ⟨d, ds, rfl, hd, hds⟩ := List.map_eq_cons_iff.1 h.symm
    have hupper : c.toUpper = d.toUpper := by
      rw [← Char.toUpper_toLower_eq_toUpper, ← hd, Char.toUpper_toLower_eq_toUpper]
    rw [titleCase, titleCase, beq_dash_of_toLower hd, ih hds.symm, hd, hupper]

theorem sameName_iff {a b : String} :
    sameName a b = true ↔ a.toList.map Char.toLower = b.toList.map Char.toLower := by
  rw [sameName, beq_iff_eq]

/-- Names that differ in case only are the same names as others are. -/
theorem sameName_congr {a b : String} (h : sameName a b = true) (c : String) :
    sameName c a = sameName c b := by
  unfold sameName
  rw [sameName_iff.1 h]

theorem isReserved_congr {a b : String} (h : sameName a b = true) :
    isReserved a = isReserved b := by
  unfold isReserved
  simp only [sameName_congr h]

theorem all_isTokenChar_of_toLower {cs ds : List Char}
    (h : cs.map Char.toLower = ds.map Char.toLower) :
    cs.all isTokenChar = ds.all isTokenChar := by
  induction cs generalizing ds with
  | nil => rw [List.map_eq_nil_iff.1 h.symm]
  | cons c cs ih =>
    obtain ⟨d, ds, rfl, hd, hds⟩ := List.map_eq_cons_iff.1 h.symm
    rw [List.all_cons, List.all_cons, isTokenChar_eq_of_toLower hd, ih hds.symm]

theorem isToken_of_sameName {a b : String} (h : sameName a b = true) (hb : isToken b = true) :
    isToken a = true := by
  rw [sameName_iff] at h
  have hlen : a.toList.length = b.toList.length := by simpa using congrArg List.length h
  unfold isToken at hb ⊢
  rw [Bool.and_eq_true, Bool.not_eq_true', String.isEmpty_eq_false_iff] at hb ⊢
  refine ⟨?_, (all_isTokenChar_of_toLower h).trans hb.2⟩
  rintro rfl
  exact hb.1 (String.toList_eq_nil_iff.1 (List.length_eq_zero_iff.1 hlen.symm))

theorem toList_canonicalName {a : String} (ha : isToken a = true) :
    (canonicalName a).toList = titleCase true a.toList := by
  rw [canonicalName, if_pos ha, String.toList_ofList]

theorem sameName_canonicalName {a : String} (ha : isToken a = true) :
    sameName (canonicalName a) a = true := by
  rw [sameName_iff, toList_canonicalName ha, map_toLower_titleCase]

theorem isToken_canonicalName {a : String} (ha : isToken a = true) :
    isToken (canonicalName a) = true :=
  isToken_of_sameName (sameName_canonicalName ha) ha

/-- Two tokens have one canonical spelling exactly if they differ in case only. -/
theorem canonicalName_eq_iff {a b : String} (ha : isToken a = true) (hb : isToken b = true) :
    canonicalName a = canonicalName b ↔ sameName a b = true := by
  rw [sameName_iff, ← String.toList_inj, toList_canonicalName ha, toList_canonicalName hb]
  constructor
  · intro h
    rw [← map_toLower_titleCase true, h, map_toLower_titleCase]
  · exact titleCase_congr

theorem canonicalName_of_not_isToken {a : String} (ha : isToken a = false) :
    canonicalName a = a := by
  rw [canonicalName, ha]
  rfl

theorem isToken_canonicalName_eq (a : String) : isToken (canonicalName a) = isToken a := by
  cases ha : isToken a with
  | true => exact isToken_canonicalName ha
  | false => rw [canonicalName_of_not_isToken ha, ha]

theorem canonicalName_canonicalName (a : String) :
    canonicalName (canonicalName a) = canonicalName a := by
  cases ha : isToken a with
  | true => exact (canonicalName_eq_iff (isToken_canonicalName ha) ha).2 (sameName_canonicalName ha)
  | false => rw [canonicalName_of_not_isToken ha, canonicalName_of_not_isToken ha]

theorem canonicalName_of_reserved {a : String} (h : a ∈ reservedNames) :
    isToken a = true ∧ canonicalName a = a := by
  have hall : ∀ n ∈ reservedNames, isToken n = true ∧ canonicalName n = n := by decide
  exact hall a h

/-- A name is reserved exactly if its canonical spelling is one of the reserved names. -/
theorem isReserved_iff {a : String} : isReserved a = true ↔ canonicalName a ∈ reservedNames := by
  rw [isReserved, List.any_eq_true]
  constructor
  · rintro ⟨n, hn, hs⟩
    obtain ⟨ht, hc⟩ := canonicalName_of_reserved hn
    have hsame : sameName a n = true := sameName_iff.2 (sameName_iff.1 hs).symm
    have ha : isToken a = true := isToken_of_sameName hsame ht
    rwa [(canonicalName_eq_iff ha ht).2 hsame, hc]
  · intro h
    have ha : isToken a = true := by
      rw [← isToken_canonicalName_eq]
      exact (canonicalName_of_reserved h).1
    exact ⟨_, h, sameName_canonicalName ha⟩

/-- The visible ASCII characters that may not stand in a token. -/
def delimiters : List Char :=
  ['"', '(', ')', ',', '/', ':', ';', '<', '=', '>', '?', '@', '[', '\\', ']', '\x7b', '\x7d']

/-- A token has at least one character, and all of them are visible ASCII characters other than
delimiters. -/
structure Token (name : String) : Prop where
  nonempty : name ≠ ""
  visible : ∀ c ∈ name.toList, (0x21 ≤ c.toNat ∧ c.toNat ≤ 0x7E) ∧ c ∉ delimiters

theorem toNat_lt_of_isAlphanum {c : Char} (h : c.isAlphanum = true) : c.toNat < 128 := by
  simp only [Char.isAlphanum, Char.isAlpha, Char.isUpper, Char.isLower, Char.isDigit,
    Bool.or_eq_true, Bool.and_eq_true, decide_eq_true_eq, ge_iff_le, UInt32.le_iff_toNat_le] at h
  change c.val.toNat < 128
  rcases h with (⟨-, h⟩ | ⟨-, h⟩) | ⟨-, h⟩ <;> exact lt_of_le_of_lt h (by decide)

theorem isTokenChar_iff {c : Char} :
    isTokenChar c = true ↔ (0x21 ≤ c.toNat ∧ c.toNat ≤ 0x7E) ∧ c ∉ delimiters := by
  by_cases hc : c.toNat < 128
  · -- the marks are what the delimiters leave over, which is tried for each character of ASCII
    have hascii : ∀ k < 128, isTokenChar (Char.ofNat k) = true ↔
        (0x21 ≤ (Char.ofNat k).toNat ∧ (Char.ofNat k).toNat ≤ 0x7E) ∧
          Char.ofNat k ∉ delimiters := by decide +kernel
    have hk := hascii c.toNat hc
    rwa [Char.ofNat_toNat] at hk
  · have hmarks : ∀ m ∈ tokenMarks, m.toNat < 128 := by simp [tokenMarks]
    constructor
    · intro h
      rw [isTokenChar, Bool.or_eq_true, List.contains_iff_mem] at h
      exact absurd (h.elim toNat_lt_of_isAlphanum (hmarks c)) hc
    · rintro ⟨⟨-, hhigh⟩, -⟩
      omega

theorem isToken_iff {name : String} : isToken name = true ↔ Token name := by
  rw [isToken, Bool.and_eq_true, Bool.not_eq_true', String.isEmpty_eq_false_iff,
    List.all_eq_true]
  simp only [isTokenChar_iff]
  exact ⟨fun h => ⟨h.1, h.2⟩, fun h => ⟨h.nonempty, h.visible⟩⟩

end Pipework.FieldName
