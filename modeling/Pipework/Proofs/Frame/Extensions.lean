import Pipework.Frame.Basic
import Pipework.Proofs.Frame.FieldName
import Pipework.Proofs.NameMap

/-! Extension fields under all spellings of their names. One spelling stands for each name, so a
value that was given under one spelling is found under every other, and a name that is no token
never stands for one that is. -/

namespace Pipework.Frame

open FieldName

theorem extension?_withExtension (f : Frame) (name other value : String) :
    (f.withExtension name value).extension? other =
      if canonicalName name = canonicalName other then some value else f.extension? other := by
  have hget : (f.withExtension name value).extension? other =
      if canonicalName other = canonicalName name then some value else f.extension? other :=
    NameMap.get?_insert f.extensions _ _ value
  rw [hget]
  exact if_congr eq_comm rfl rfl

/-- Two tokens have one canonical spelling exactly if they differ in case only, and that spelling is
such a token, which stands for itself. All other texts stand for themselves too, and for no token.
So whether a name is reserved, and which extension it names, is settled by its canonical spelling. -/
theorem named_up_to_case :
    (∀ a b, Token a → Token b → (canonicalName a = canonicalName b ↔ sameName a b = true)) ∧
    (∀ a, Token a → Token (canonicalName a) ∧ sameName (canonicalName a) a = true ∧
      canonicalName (canonicalName a) = canonicalName a) ∧
    (∀ a, ¬Token a → canonicalName a = a ∧ ∀ b, Token b → canonicalName a ≠ canonicalName b) ∧
    (∀ a, isReserved a = true ↔ canonicalName a ∈ reservedNames) ∧
    ∀ (f : Frame) (n m v : String), (f.withExtension n v).extension? m =
      if canonicalName n = canonicalName m then some v else f.extension? m := by
  have hcanonical {a : String} (ha : Token a) : Token (canonicalName a) :=
    isToken_iff.1 (isToken_canonicalName (isToken_iff.2 ha))
  refine ⟨?same, ?canonical, ?other, fun a => isReserved_iff, extension?_withExtension⟩
  case same =>
    intro a b ha hb
    exact canonicalName_eq_iff (isToken_iff.2 ha) (isToken_iff.2 hb)
  case canonical =>
    intro a ha
    exact ⟨hcanonical ha, sameName_canonicalName (isToken_iff.2 ha), canonicalName_canonicalName a⟩
  case other =>
    intro a ha
    have hself : canonicalName a = a := by
      apply canonicalName_of_not_isToken
      rwa [Bool.eq_false_iff, ne_eq, isToken_iff]
    refine ⟨hself, ?_⟩
    intro b hb he
    rw [hself] at he
    exact ha (he ▸ hcanonical hb)

/-- Dashes at the start, in a row and at the end, a text that is no token because of one space, and
a reserved name in mixed case. -/
theorem named_up_to_case_of_dashes :
    let f := (data "a" []).withExtension "-x--trace-ID-" "1"
    (Token "-x--trace-ID-" ∧ Token "-X--TRACE-id-" ∧ ¬Token "-x--trace ID-") ∧
    f.extension? "-X--TRACE-id-" = some "1" ∧ f.extension? "-x--trace ID-" = none ∧
    canonicalName "-x--trace ID-" = "-x--trace ID-" ∧ isReserved "CONTENT-length" = true := by
  intro f
  obtain ⟨hsame, -, hother, hreserved, hextension⟩ := named_up_to_case
  have hx : Token "-x--trace-ID-" := isToken_iff.1 (by decide)
  have hX : Token "-X--TRACE-id-" := isToken_iff.1 (by decide)
  have hspace : ¬Token "-x--trace ID-" := by
    rw [← isToken_iff]
    decide
  obtain ⟨hself, hapart⟩ := hother _ hspace
  refine ⟨⟨hx, hX, hspace⟩, ?_, ?_, hself, (hreserved _).2 (by decide)⟩
  · rw [hextension, if_pos ((hsame _ _ hx hX).2 (by decide))]
  · rw [hextension, if_neg (hapart _ hx).symm]
    rfl

end Pipework.Frame
