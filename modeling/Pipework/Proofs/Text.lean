import Mathlib.Data.List.Basic
import Mathlib.Data.List.TakeWhile
import Pipework.Text.Blank
import Pipework.Text.Decimal
import Pipework.Text.Edge
import Pipework.Text.Utf8

/-! Facts about text that readers of octets rely on: a text is split at its first separator, an
ASCII octet in the UTF-8 form of a text is a character of that text, and a numeral reads back as
the number it was made from. -/

namespace Pipework.Text

section

variable {α : Type} [BEq α] [LawfulBEq α] {l : List α} {sep : α}

theorem takeWhile_append_cons (h : sep ∉ l) (rest : List α) :
    (l ++ sep :: rest).takeWhile (· != sep) = l := by
  have hall : ∀ x ∈ l, (x != sep) = true := by
    intro x hx
    exact bne_iff_ne.2 fun he => h (he ▸ hx)
  rw [List.takeWhile_append_of_pos hall, List.takeWhile_cons_of_neg (by simp), List.append_nil]

theorem dropWhile_append_cons (h : sep ∉ l) (rest : List α) :
    (l ++ sep :: rest).dropWhile (· != sep) = sep :: rest := by
  have hall : ∀ x ∈ l, (x != sep) = true := by
    intro x hx
    exact bne_iff_ne.2 fun he => h (he ▸ hx)
  rw [List.dropWhile_append_of_pos hall, List.dropWhile_cons_of_neg (by simp)]

/-- What the search for a separator stops at, and what is before it. -/
theorem split_of_dropWhile {x : α} {rest : List α} (h : l.dropWhile (· != sep) = x :: rest) :
    x = sep ∧ sep ∉ l.takeWhile (· != sep) ∧ l = l.takeWhile (· != sep) ++ sep :: rest := by
  have hx : x = sep := by
    have hh := List.head?_dropWhile_not (· != sep) l
    rw [h] at hh
    simpa using hh
  refine ⟨hx, ?_, ?_⟩
  · intro hm
    simpa using List.mem_takeWhile_imp hm
  · calc l = l.takeWhile (· != sep) ++ l.dropWhile (· != sep) :=
          List.takeWhile_append_dropWhile.symm
      _ = l.takeWhile (· != sep) ++ sep :: rest := by rw [h, hx]

/-- Two lists that are alike are alike on both sides of their last separator. -/
theorem append_cons_inj {a b d e : List α} (hd : sep ∉ d) (he : sep ∉ e)
    (h : a ++ sep :: d = b ++ sep :: e) : a = b ∧ d = e := by
  have hrev : d.reverse ++ sep :: a.reverse = e.reverse ++ sep :: b.reverse := by
    simpa using congrArg List.reverse h
  have hd' : sep ∉ d.reverse := by rwa [List.mem_reverse]
  have he' : sep ∉ e.reverse := by rwa [List.mem_reverse]
  have hfront : d.reverse = e.reverse := by
    rw [← takeWhile_append_cons hd' a.reverse, hrev, takeWhile_append_cons he']
  have hback : sep :: a.reverse = sep :: b.reverse := by
    rw [← dropWhile_append_cons hd' a.reverse, hrev, dropWhile_append_cons he']
  exact ⟨List.reverse_injective (List.cons.inj hback).2, List.reverse_injective hfront⟩

end

theorem toBytes_injective {s t : String} (h : toBytes s = toBytes t) : s = t := by
  have hs := ofBytes?_toBytes s
  rw [h, ofBytes?_toBytes] at hs
  exact (Option.some.inj hs).symm

theorem toBytes_append (s t : String) : toBytes (s ++ t) = toBytes s ++ toBytes t := by
  simp [toBytes]

theorem toBytes_eq_flatMap (s : String) :
    toBytes s = s.toList.flatMap String.utf8EncodeChar := by
  rw [toBytes, ← String.utf8Encode_toList, List.utf8Encode]
  simp

/-- All octets of a character outside ASCII have their highest bit set. -/
theorem toNat_eq_of_mem_utf8EncodeChar {c : Char} {b : UInt8}
    (hm : b ∈ String.utf8EncodeChar c) (hb : b.toNat < 128) : c.toNat = b.toNat := by
  unfold String.utf8EncodeChar at hm
  simp only [] at hm
  split at hm
  · rename_i hv
    rw [List.mem_singleton] at hm
    rw [hm, UInt8.toNat_ofNat']
    change c.val.toNat = c.val.toNat % 256
    omega
  · split at hm
    · simp only [List.mem_cons, List.not_mem_nil, or_false] at hm
      rcases hm with rfl | rfl <;> rw [UInt8.toNat_ofNat'] at hb <;> omega
    · split at hm <;> simp only [List.mem_cons, List.not_mem_nil, or_false] at hm
      · rcases hm with rfl | rfl | rfl <;> rw [UInt8.toNat_ofNat'] at hb <;> omega
      · rcases hm with rfl | rfl | rfl | rfl <;> rw [UInt8.toNat_ofNat'] at hb <;> omega

theorem mem_toList_of_mem_toBytes {s : String} {b : UInt8} (hm : b ∈ toBytes s)
    (hb : b.toNat < 128) : Char.ofNat b.toNat ∈ s.toList := by
  rw [toBytes_eq_flatMap, List.mem_flatMap] at hm
  obtain ⟨c, hc, hm⟩ := hm
  rw [← toNat_eq_of_mem_utf8EncodeChar hm hb, Char.ofNat_toNat]
  exact hc

/-- An ASCII octet in the UTF-8 form of a text is a character of its own, so both sides of it are
text. -/
theorem exists_split_of_toBytes {s : String} {a c : Bytes} {b : UInt8} (hb : b.toNat < 128)
    (h : toBytes s = a ++ b :: c) : ∃ front back, a = toBytes front ∧ c = toBytes back := by
  have htext (cs : List Char) : cs.flatMap String.utf8EncodeChar = toBytes (String.ofList cs) := by
    rw [toBytes_eq_flatMap, String.toList_ofList]
  rw [toBytes_eq_flatMap] at h
  generalize s.toList = cs at h
  induction cs generalizing a with
  | nil => simp at h
  | cons x cs ih =>
    rw [List.flatMap_cons, List.append_eq_append_iff] at h
    -- the first character ends before the octet, or the octet is part of it
    rcases h with ⟨l, rfl, hl⟩ | ⟨l, hx, hl⟩
    · obtain ⟨front, back, rfl, rfl⟩ := ih hl
      refine ⟨String.ofList [x] ++ front, back, ?_, rfl⟩
      rw [toBytes_append, ← htext]
      simp
    · cases l with
      | nil =>
        obtain ⟨front, back, -, rfl⟩ := ih (a := []) hl.symm
        refine ⟨String.ofList [x], back, ?_, rfl⟩
        rw [List.append_nil] at hx
        rw [← htext, ← hx]
        simp
      | cons y l =>
        obtain ⟨rfl, hc⟩ := List.cons.inj hl
        have hm : b ∈ String.utf8EncodeChar x := by
          rw [hx]
          simp
        have hsmall : x.val ≤ 127 := by
          have hn := toNat_eq_of_mem_utf8EncodeChar hm hb
          rw [UInt32.le_iff_toNat_le]
          change x.toNat ≤ 127
          omega
        have hone := Char.utf8Size_eq_one_iff.2 hsmall
        rw [← String.length_utf8EncodeChar, hx, List.length_append, List.length_cons] at hone
        have ha : a = [] := List.eq_nil_of_length_eq_zero (by omega)
        have hl' : l = [] := List.eq_nil_of_length_eq_zero (by omega)
        refine ⟨"", String.ofList cs, ha, ?_⟩
        rw [hc, hl', ← htext]
        rfl

theorem isDigit_of_mem_toString {n : ℕ} {c : Char} (h : c ∈ (toString n).toList) :
    c.isDigit = true := by
  rw [Nat.toString_eq_ofList_toDigits, String.toList_ofList] at h
  exact Nat.isDigit_of_mem_toDigits (by decide) (by decide) h

theorem toString_injective {i j : ℕ} (h : (toString i).toList = (toString j).toList) : i = j := by
  have hdigits : Nat.toDigits 10 i = Nat.toDigits 10 j := by
    simpa [Nat.toString_eq_ofList_toDigits] using h
  calc
    i = Nat.ofDigitChars 10 (Nat.toDigits 10 i) 0 := Nat.ofDigitChars_ten_toDigits.symm
    _ = Nat.ofDigitChars 10 (Nat.toDigits 10 j) 0 := by rw [hdigits]
    _ = j := Nat.ofDigitChars_ten_toDigits

/-- A numeral is read as the number that its digits stand for, if that fits a machine word. -/
theorem parseWord?_eq_some_iff {cs : List Char} {n : ℕ} : parseWord? cs = some n ↔
    cs ≠ [] ∧ (∀ c ∈ cs, c.isDigit = true) ∧ Nat.ofDigitChars 10 cs 0 = n ∧ n < wordBound := by
  have hvalue : digitsValue cs = Nat.ofDigitChars 10 cs 0 := Nat.ofDigitChars_eq_foldl.symm
  rw [parseWord?, hvalue]
  constructor
  · intro h
    split at h
    · cases h
    · rename_i hd
      rw [Bool.or_eq_true, not_or, List.isEmpty_iff] at hd
      have hall : cs.all Char.isDigit = true := by simpa using hd.2
      split at h
      · rename_i hlt
        obtain rfl := Option.some.inj h
        exact ⟨hd.1, List.all_eq_true.1 hall, rfl, hlt⟩
      · cases h
  · rintro ⟨hne, hall, rfl, hlt⟩
    rw [List.isEmpty_eq_false_iff.2 hne, List.all_eq_true.2 hall, if_neg (by decide), if_pos hlt]

theorem parseWord?_toString {n : ℕ} (h : n < wordBound) :
    parseWord? (toString n).toList = some n := by
  have hl : (toString n).toList = Nat.toDigits 10 n := by
    rw [Nat.toString_eq_ofList_toDigits, String.toList_ofList]
  refine parseWord?_eq_some_iff.2 ⟨?_, fun c => isDigit_of_mem_toString, ?_, h⟩
  · rw [hl]
    exact Nat.toDigits_ne_nil
  · rw [hl, Nat.ofDigitChars_ten_toDigits]

theorem isBlank_of_isDigit {c : Char} (h : c.isDigit = true) : isBlank c = false := by
  have hlow : 48 ≤ c.toNat := (Char.isDigit_iff_toNat.1 h).1
  have hhigh : c.toNat ≤ 57 := (Char.isDigit_iff_toNat.1 h).2
  rw [Bool.eq_false_iff]
  intro hblank
  simp only [isBlank, Bool.or_eq_true, Bool.and_eq_true, decide_eq_true_eq, beq_iff_eq] at hblank
  omega

/-- What is trimmed away is white space on either side. -/
theorem exists_trimBlanks_eq (cs : List Char) : ∃ before after,
    (∀ c ∈ before, isBlank c = true) ∧ (∀ c ∈ after, isBlank c = true) ∧
    cs = before ++ (trimBlanks cs ++ after) := by
  let inner := cs.dropWhile isBlank
  refine ⟨cs.takeWhile isBlank, (inner.reverse.takeWhile isBlank).reverse, ?_, ?_, ?_⟩
  · intro c hc
    exact List.mem_takeWhile_imp hc
  · intro c hc
    exact List.mem_takeWhile_imp (List.mem_reverse.1 hc)
  · calc
      cs = cs.takeWhile isBlank ++ inner := List.takeWhile_append_dropWhile.symm
      _ = cs.takeWhile isBlank ++ inner.reverse.reverse := by rw [List.reverse_reverse]
      _ = cs.takeWhile isBlank ++ (inner.reverse.takeWhile isBlank ++
          inner.reverse.dropWhile isBlank).reverse := by rw [List.takeWhile_append_dropWhile]
      _ = _ := by rw [List.reverse_append, trimBlanks]

theorem trimBlanks_eq_nil_iff {cs : List Char} :
    trimBlanks cs = [] ↔ ∀ c ∈ cs, isBlank c = true := by
  constructor
  · intro h c hc
    obtain ⟨before, after, hbefore, hafter, hcs⟩ := exists_trimBlanks_eq cs
    rw [h, List.nil_append] at hcs
    rw [hcs, List.mem_append] at hc
    exact hc.elim (hbefore c) (hafter c)
  · intro h
    rw [trimBlanks, List.reverse_eq_nil_iff, List.dropWhile_eq_nil_iff]
    intro c hc
    exact h c ((List.dropWhile_sublist isBlank).mem (List.mem_reverse.1 hc))

theorem dropWhile_of_head {p : Char → Bool} {cs : List Char} (h : cs.head?.any p = false) :
    cs.dropWhile p = cs := by
  cases cs with
  | nil => rfl
  | cons c cs => exact List.dropWhile_cons_of_neg (by simpa using h)

/-- White space is trimmed away from both sides of a text that has none in it. -/
theorem trimBlanks_append {before cs after : List Char}
    (hbefore : ∀ c ∈ before, isBlank c = true) (hafter : ∀ c ∈ after, isBlank c = true)
    (hne : cs ≠ []) (h : ∀ c ∈ cs, isBlank c = false) :
    trimBlanks (before ++ (cs ++ after)) = cs := by
  have hstays {l : List Char} (hl : l ≠ []) (hall : ∀ c ∈ l, isBlank c = false)
      (rest : List Char) : (l ++ rest).dropWhile isBlank = l ++ rest := by
    apply dropWhile_of_head
    rw [List.head?_append_of_ne_nil _ hl, List.head?_eq_some_head hl]
    exact hall _ (List.head_mem hl)
  have hrev : ∀ c ∈ after.reverse, isBlank c = true := by
    intro c hc
    exact hafter c (List.mem_reverse.1 hc)
  have hback : cs.reverse.dropWhile isBlank = cs.reverse := by
    have hall : ∀ c ∈ cs.reverse, isBlank c = false := by
      intro c hc
      exact h c (List.mem_reverse.1 hc)
    simpa using hstays (List.reverse_ne_nil_iff.2 hne) hall []
  rw [trimBlanks, List.dropWhile_append_of_pos hbefore, hstays hne h, List.reverse_append,
    List.dropWhile_append_of_pos hrev, hback, List.reverse_reverse]

theorem trimGaps_of_not_hasEdgeGap {cs : List Char} (h : hasEdgeGap cs = false) :
    trimGaps cs = cs := by
  rw [hasEdgeGap, Bool.or_eq_false_iff] at h
  have hr : cs.reverse.head?.any isGap = false := by
    rw [List.head?_reverse]
    exact h.2
  rw [trimGaps, dropWhile_of_head h.1, dropWhile_of_head hr, List.reverse_reverse]

theorem trimGaps_cons_gap {c : Char} (hc : isGap c = true) (cs : List Char) :
    trimGaps (c :: cs) = trimGaps cs := by
  simp only [trimGaps, List.dropWhile_cons, hc, if_true]

theorem trimGaps_sublist (cs : List Char) : (trimGaps cs).Sublist cs := by
  have hinner := (List.dropWhile_sublist isGap (l := cs)).reverse
  have houter := List.dropWhile_sublist isGap (l := (cs.dropWhile isGap).reverse)
  have hboth := (houter.trans hinner).reverse
  rwa [List.reverse_reverse] at hboth

theorem head?_dropWhile_isGap (cs : List Char) : (cs.dropWhile isGap).head?.any isGap = false := by
  have hhead := List.head?_dropWhile_not isGap cs
  cases hc : (cs.dropWhile isGap).head? with
  | none => rfl
  | some c =>
    rw [hc] at hhead
    simpa using hhead

theorem hasEdgeGap_trimGaps (cs : List Char) : hasEdgeGap (trimGaps cs) = false := by
  rw [hasEdgeGap, Bool.or_eq_false_iff, trimGaps, List.head?_reverse, List.getLast?_reverse]
  refine ⟨?_, head?_dropWhile_isGap _⟩
  -- what is dropped from the end leaves the front as it is
  cases hr : ((cs.dropWhile isGap).reverse.dropWhile isGap).getLast? with
  | none => rfl
  | some c =>
    obtain ⟨dropped, hd⟩ := List.dropWhile_suffix isGap (l := (cs.dropWhile isGap).reverse)
    have hlast : (cs.dropWhile isGap).reverse.getLast? = some c := by
      rw [← hd, List.getLast?_append, hr, Option.some_or]
    rw [List.getLast?_reverse] at hlast
    rw [← hlast]
    exact head?_dropWhile_isGap cs

/-- A text within one line, without spaces and tabs at its edges. -/
structure IsTrimmed (text : String) : Prop where
  line : '\n' ∉ text.toList
  edge : hasEdgeGap text.toList = false

namespace IsTrimmed

theorem empty : IsTrimmed "" := ⟨by decide, by decide⟩

theorem head {text : String} (h : IsTrimmed text) : text.toList.head?.any isGap = false :=
  (Bool.or_eq_false_iff.1 h.edge).1

theorem last {text : String} (h : IsTrimmed text) : text.toList.getLast?.any isGap = false :=
  (Bool.or_eq_false_iff.1 h.edge).2

/-- Of two texts with a separator between them only the outer edges are looked at. -/
theorem append_iff {a sep b : String} (ha : a ≠ "") (hb : b ≠ "") :
    IsTrimmed (a ++ sep ++ b) ↔
      ('\n' ∉ a.toList ∧ '\n' ∉ sep.toList ∧ '\n' ∉ b.toList) ∧
      a.toList.head?.any isGap = false ∧ b.toList.getLast?.any isGap = false := by
  have hl : (a ++ sep ++ b).toList = a.toList ++ (sep.toList ++ b.toList) := by simp
  have ha' : a.toList ≠ [] := fun he => ha (String.toList_eq_nil_iff.1 he)
  have hb' : b.toList ≠ [] := fun he => hb (String.toList_eq_nil_iff.1 he)
  have hedge : hasEdgeGap (a.toList ++ (sep.toList ++ b.toList)) =
      (a.toList.head?.any isGap || b.toList.getLast?.any isGap) := by
    rw [hasEdgeGap, List.head?_append_of_ne_nil _ ha',
      List.getLast?_append_of_ne_nil _ (List.append_ne_nil_of_right_ne_nil _ hb'),
      List.getLast?_append_of_ne_nil _ hb']
  have hline : '\n' ∉ a.toList ++ (sep.toList ++ b.toList) ↔
      '\n' ∉ a.toList ∧ '\n' ∉ sep.toList ∧ '\n' ∉ b.toList := by
    rw [List.mem_append, List.mem_append, not_or, not_or]
  constructor
  · rintro ⟨h, hg⟩
    rw [hl] at h hg
    exact ⟨hline.1 h, Bool.or_eq_false_iff.1 (hedge ▸ hg)⟩
  · rintro ⟨h, hg⟩
    constructor
    · rw [hl]
      exact hline.2 h
    · rw [hl, hedge]
      exact Bool.or_eq_false_iff.2 hg

end IsTrimmed

end Pipework.Text
