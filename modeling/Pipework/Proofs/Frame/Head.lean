import Pipework.Frame.Head
import Pipework.Proofs.Except
import Pipework.Proofs.Text

/-! What a table of fields has to hold so that it is the head of a frame, and what the head is
then. -/

namespace Pipework.FrameHead

open Text

/-- A numeral of ASCII digits, and the number it stands for. -/
structure IsNumeral (text : String) (n : ℕ) : Prop where
  nonempty : text ≠ ""
  digit : ∀ c ∈ text.toList, c.isDigit = true
  value : Nat.ofDigitChars 10 text.toList 0 = n

/-- A text that the first of its dots divides into two texts that are not empty. -/
structure IsTypePair (text category subtype : String) : Prop where
  text_eq : text = category ++ "." ++ subtype
  first_dot : '.' ∉ category.toList
  category : category ≠ ""
  subtype : subtype ≠ ""

theorem isEmpty_toList_eq_false_iff {text : String} : text.toList.isEmpty = false ↔ text ≠ "" := by
  rw [List.isEmpty_eq_false_iff, ne_eq, ne_eq, String.toList_eq_nil_iff]

theorem splitType_eq_ok_iff {text category subtype : String} :
    splitType text = .ok (category, subtype) ↔ IsTypePair text category subtype := by
  constructor
  · intro h
    unfold splitType at h
    split at h
    · cases h
    · rename_i d sub hd
      simp only [] at h
      split at h
      · cases h
      · rename_i he
        rw [Bool.or_eq_true, not_or] at he
        obtain ⟨rfl, rfl⟩ := Prod.mk.inj (Except.ok.inj h)
        obtain ⟨-, hdot, hsplit⟩ := split_of_dropWhile hd
        refine ⟨?_, ?_, ?_, ?_⟩
        · rw [← String.toList_inj]
          simpa using hsplit
        · rwa [String.toList_ofList]
        · rw [← isEmpty_toList_eq_false_iff, String.toList_ofList]
          simpa using he.1
        · rw [← isEmpty_toList_eq_false_iff, String.toList_ofList]
          simpa using he.2
  · rintro ⟨rfl, hdot, hc, hs⟩
    have hl : (category ++ "." ++ subtype).toList = category.toList ++ '.' :: subtype.toList := by
      simp
    rw [← isEmpty_toList_eq_false_iff] at hc hs
    rw [splitType, hl, dropWhile_append_cons hdot, takeWhile_append_cons hdot]
    simp [hc, hs]

theorem parseLength_eq_ok_iff {text : String} {n : ℕ} :
    parseLength text = .ok n ↔ IsNumeral text n ∧ n < wordBound := by
  have hparse : parseLength text = .ok n ↔ parseWord? text.toList = some n := by
    rw [parseLength]
    cases parseWord? text.toList <;> simp
  rw [hparse, parseWord?_eq_some_iff]
  constructor
  · rintro ⟨hne, hall, hvalue, hlt⟩
    exact ⟨⟨fun he => hne (String.toList_eq_nil_iff.2 he), hall, hvalue⟩, hlt⟩
  · rintro ⟨⟨hne, hall, hvalue⟩, hlt⟩
    exact ⟨fun he => hne (String.toList_eq_nil_iff.1 he), hall, hvalue, hlt⟩

theorem required_eq_ok_iff {fields : NameMap String} {name value : String} :
    required fields name = .ok value ↔ fields.get? name = some value := by
  rw [required]
  cases fields.get? name <;> simp

/-- The fields give a head if the type is a pair and the length is a numeral within the limit. -/
theorem ofFields_eq_ok_iff {limits : Limits} {fields : NameMap String} {head : FrameHead} :
    ofFields limits fields = .ok head ↔
      (∃ text, fields.get? FieldName.typeName = some text ∧
        IsTypePair text head.category head.subtype) ∧
      (∃ text, fields.get? FieldName.contentLengthName = some text ∧
        IsNumeral text head.contentLength) ∧
      head.contentLength < wordBound ∧ head.contentLength ≤ limits.maxBody ∧
      head.port = (fields.get? FieldName.portName).getD "" ∧
      head.contentType = (fields.get? FieldName.contentTypeName).getD "" ∧
      head.extensions = fields.eraseAll (FieldName.reservedNames.contains ·) := by
  unfold ofFields
  constructor
  · intro h
    obtain ⟨tv, ht, h⟩ := bind_eq_ok_iff.1 h
    obtain ⟨⟨category, subtype⟩, hp, h⟩ := bind_eq_ok_iff.1 h
    obtain ⟨lv, hl, h⟩ := bind_eq_ok_iff.1 h
    obtain ⟨n, hn, h⟩ := bind_eq_ok_iff.1 h
    obtain ⟨hnum, hword⟩ := parseLength_eq_ok_iff.1 hn
    by_cases hmax : n > limits.maxBody
    · rw [if_pos hmax] at h
      cases h
    · rw [if_neg hmax] at h
      obtain rfl := Except.ok.inj h
      exact ⟨⟨tv, required_eq_ok_iff.1 ht, splitType_eq_ok_iff.1 hp⟩,
        ⟨lv, required_eq_ok_iff.1 hl, hnum⟩, hword, Nat.not_lt.1 hmax, rfl, rfl, rfl⟩
  · rintro ⟨⟨tv, ht, hp⟩, ⟨lv, hl, hnum⟩, hword, hmax, hport, hct, hext⟩
    simp only [required_eq_ok_iff.2 ht, splitType_eq_ok_iff.2 hp, required_eq_ok_iff.2 hl,
      parseLength_eq_ok_iff.2 ⟨hnum, hword⟩, ok_bind]
    rw [if_neg (Nat.not_lt.2 hmax), ← hport, ← hct, ← hext]
    rfl

end Pipework.FrameHead
