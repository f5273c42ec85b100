import Pipework.Frame.Decode
import Pipework.Frame.Encode
import Pipework.Proofs.Except
import Pipework.Proofs.Frame.Lines
import Pipework.Proofs.NameMap

/-! The lines that the encoder writes for the fields of a frame, and the frames that it accepts. -/

namespace Pipework.Frame

open Text

/-- A line of a header block without its end. -/
def fieldText (e : String × String) : String := e.1 ++ ": " ++ e.2

theorem fieldLine_eq (e : String × String) :
    fieldLine e.1 e.2 = toBytes (fieldText e) ++ [carriageReturn, lineFeed] := by
  have hcrlf : toBytes "\r\n" = [carriageReturn, lineFeed] := by decide
  rw [fieldLine, toBytes_append, hcrlf]
  rfl

/-- Can the field be written, and is it then read under the same name? -/
structure WritableField (e : String × String) : Prop where
  token : FieldName.isToken e.1 = true
  canonical : FieldName.canonicalName e.1 = e.1
  value : isFieldValue e.2 = true

/-- Can the frame be written? These are the conditions that `check` looks at. -/
structure Writable (f : Frame) : Prop where
  type_pair : isTypePair f.category f.subtype = true
  category : isFieldValue f.category = true
  subtype : isFieldValue f.subtype = true
  extension : ∀ e ∈ f.extensions.entries, WritableField e
  unreserved : ∀ e ∈ f.extensions.entries, FieldName.isReserved e.1 = false
  port : isFieldValue f.port = true
  content_type : isFieldValue f.contentType = true

theorem checkValue_eq_ok_iff {name value : String} :
    checkValue name value = .ok () ↔ isFieldValue value = true := by
  unfold checkValue
  split <;> simp_all

theorem checkType_eq_ok_iff {category subtype : String} :
    checkType category subtype = .ok () ↔ isTypePair category subtype = true ∧
      isFieldValue category = true ∧ isFieldValue subtype = true := by
  unfold checkType
  split
  · rename_i h
    rw [check_bind_eq_ok_iff, checkValue_eq_ok_iff, checkValue_eq_ok_iff]
    simp [h]
  · rename_i h
    simp [h]

theorem checkExtension_eq_ok_iff {e : String × String} :
    checkExtension e.1 e.2 = .ok () ↔
      WritableField e ∧ FieldName.isReserved e.1 = false := by
  unfold checkExtension
  split
  · rename_i h
    simp only [reduceCtorEq, false_iff]
    exact fun hw => by simp [hw.1.token] at h
  · split
    · rename_i h
      simp [h]
    · split
      · rename_i h
        simp only [reduceCtorEq, false_iff]
        exact fun hw => h hw.1.canonical
      · rename_i ht hr hc
        rw [checkValue_eq_ok_iff]
        refine ⟨fun hv => ⟨⟨?_, ?_, hv⟩, ?_⟩, fun hw => hw.1.value⟩
        · simpa using ht
        · simpa using hc
        · simpa using hr

/-- The encoder accepts exactly the writable frames. -/
theorem check_eq_ok_iff {f : Frame} : f.check = .ok () ↔ Writable f := by
  have hext : (f.extensions.entries.forM fun e => checkExtension e.1 e.2) = .ok () ↔
      ∀ e ∈ f.extensions.entries, WritableField e ∧ FieldName.isReserved e.1 = false := by
    rw [forM_eq_ok_iff]
    exact forall₂_congr fun e _ => checkExtension_eq_ok_iff
  unfold check
  rw [check_bind_eq_ok_iff, check_bind_eq_ok_iff, check_bind_eq_ok_iff, hext,
    checkType_eq_ok_iff, checkValue_eq_ok_iff, checkValue_eq_ok_iff]
  constructor
  · rintro ⟨⟨hpair, hcat, hsub⟩, he, hp, hc⟩
    exact ⟨hpair, hcat, hsub, fun e hm => (he e hm).1, fun e hm => (he e hm).2, hp, hc⟩
  · intro h
    exact ⟨⟨h.type_pair, h.category, h.subtype⟩,
      fun e hm => ⟨h.extension e hm, h.unreserved e hm⟩, h.port, h.content_type⟩

end Pipework.Frame
