import Pipework.Proofs.Frame.FieldName
import Pipework.Proofs.Frame.Head
import Pipework.Proofs.Frame.HeaderBlock

/-! A written frame is read back as it was. What the encoder refuses is just what the reader's
trimming, folding and splitting would change. -/

namespace Pipework.Frame

open Text

theorem isFieldValue_iff {value : String} : isFieldValue value = true ↔
    '\r' ∉ value.toList ∧ '\n' ∉ value.toList ∧ hasEdgeGap value.toList = false := by
  unfold isFieldValue
  rw [Bool.and_eq_true, Bool.not_eq_true', Bool.not_eq_true', List.any_eq_false]
  constructor
  · rintro ⟨hb, hg⟩
    exact ⟨fun h => hb _ h rfl, fun h => hb _ h rfl, hg⟩
  · rintro ⟨hr, hn, hg⟩
    refine ⟨?_, hg⟩
    intro c hc h
    rw [Bool.or_eq_true, beq_iff_eq, beq_iff_eq] at h
    rcases h with rfl | rfl
    · exact hr hc
    · exact hn hc

theorem isTokenChar_of_mem {name : String} (h : FieldName.isToken name = true) {c : Char}
    (hc : c ∈ name.toList) : FieldName.isTokenChar c = true := by
  unfold FieldName.isToken at h
  rw [Bool.and_eq_true, List.all_eq_true] at h
  exact h.2 c hc

theorem not_mem_token {name : String} (h : FieldName.isToken name = true) {c : Char}
    (hc : FieldName.isTokenChar c = false) : c ∉ name.toList := by
  intro hm
  rw [isTokenChar_of_mem h hm] at hc
  cases hc

theorem toList_fieldText (e : String × String) :
    (fieldText e).toList = e.1.toList ++ ':' :: ' ' :: e.2.toList := by
  simp [fieldText]

theorem lineFeed_not_mem_fieldText {e : String × String} (h : WritableField e) :
    lineFeed ∉ toBytes (fieldText e) := by
  intro hm
  have hc := mem_toList_of_mem_toBytes hm (by decide)
  change '\n' ∈ (fieldText e).toList at hc
  rw [toList_fieldText, List.mem_append, List.mem_cons, List.mem_cons] at hc
  rcases hc with hc | hc | hc | hc
  · exact not_mem_token h.token (by decide) hc
  · revert hc
    decide
  · revert hc
    decide
  · exact (isFieldValue_iff.1 h.value).2.1 hc

theorem fieldText_ne_nil (e : String × String) : toBytes (fieldText e) ≠ [] := by
  rw [fieldText, toBytes_append, toBytes_append]
  intro h
  have hsep : toBytes ": " = [58, 32] := by decide
  simp [hsep] at h

/-- A written field is read back under its name, with its value. -/
theorem addLine_fieldText {e : String × String} (h : WritableField e) (t : FieldTable) :
    t.addLine (toBytes (fieldText e)) = .ok ⟨t.fields.insert e.1 e.2, some e.1⟩ := by
  obtain ⟨c, cs, hname⟩ : ∃ c cs, e.1.toList = c :: cs := by
    apply List.exists_cons_of_ne_nil
    intro hnil
    have ht := h.token
    rw [FieldName.isToken, String.toList_eq_nil_iff.1 hnil] at ht
    revert ht
    decide
  have hgap : isGap c = false := by
    have hc : c ∈ e.1.toList := hname ▸ List.mem_cons_self
    unfold isGap
    rw [Bool.or_eq_false_iff, beq_eq_false_iff_ne, beq_eq_false_iff_ne]
    constructor
    · rintro rfl
      exact not_mem_token h.token (by decide) hc
    · rintro rfl
      exact not_mem_token h.token (by decide) hc
  have hhead : (fieldText e).toList.head?.any isGap = false := by
    rw [toList_fieldText, hname]
    simpa using hgap
  have hcolon : ':' ∉ e.1.toList := not_mem_token h.token (by decide)
  have hdrop : (fieldText e).toList.dropWhile (· != ':') = ':' :: ' ' :: e.2.toList := by
    rw [toList_fieldText, dropWhile_append_cons hcolon]
  have htake : (fieldText e).toList.takeWhile (· != ':') = e.1.toList := by
    rw [toList_fieldText, takeWhile_append_cons hcolon]
  have htrim : trimGaps (' ' :: e.2.toList) = e.2.toList := by
    rw [trimGaps_cons_gap rfl, trimGaps_of_not_hasEdgeGap (isFieldValue_iff.1 h.value).2.2]
  rw [FieldTable.addLine, ofBytes?_toBytes]
  simp only [hhead, Bool.false_eq_true, if_false]
  rw [FieldTable.addField, hdrop]
  simp only [htake, htrim, String.ofList_toList, h.token, if_true, h.canonical]

theorem foldlM_addLine {es : List (String × String)} (h : ∀ e ∈ es, WritableField e)
    (t : FieldTable) : ∃ last, (es.map fun e => toBytes (fieldText e)).foldlM
      FieldTable.addLine t = .ok ⟨es.foldl (fun m e => m.insert e.1 e.2) t.fields, last⟩ := by
  induction es generalizing t with
  | nil => exact ⟨t.last, rfl⟩
  | cons e es ih =>
    obtain ⟨he, hes⟩ := List.forall_mem_cons.1 h
    obtain ⟨last, hl⟩ := ih hes ⟨t.fields.insert e.1 e.2, some e.1⟩
    refine ⟨last, ?_⟩
    rw [List.map_cons, List.foldlM_cons, addLine_fieldText he, ok_bind, hl]
    rfl

/-- The table of written fields holds these fields. -/
theorem ofLines_fieldText {es : List (String × String)} (h : ∀ e ∈ es, WritableField e) :
    ∃ last, FieldTable.ofLines (es.map fun e => toBytes (fieldText e)) =
      .ok ⟨NameMap.ofList es, last⟩ :=
  foldlM_addLine h {}

/-- A value that the writer takes is one that the reader could have trimmed, without returns. -/
theorem isFieldValue_iff_isTrimmed {value : String} :
    isFieldValue value = true ↔ '\r' ∉ value.toList ∧ IsTrimmed value := by
  rw [isFieldValue_iff]
  exact and_congr_right fun _ => ⟨fun h => ⟨h.1, h.2⟩, fun h => ⟨h.line, h.edge⟩⟩

theorem isTypePair_iff {category subtype : String} : isTypePair category subtype = true ↔
    category ≠ "" ∧ subtype ≠ "" ∧ '.' ∉ category.toList ∧
      hasEdgeGap category.toList = false ∧ hasEdgeGap subtype.toList = false := by
  have hdot : category.toList.contains '.' = false ↔ '.' ∉ category.toList := by
    rw [Bool.eq_false_iff, ne_eq, List.contains_iff_mem]
  simp only [isTypePair, Bool.and_eq_true, Bool.not_eq_true', String.isEmpty_eq_false_iff, hdot,
    ne_eq, and_assoc]

theorem isFieldValue_typeHeader {f : Frame} (h : Writable f) :
    isFieldValue f.typeHeader = true := by
  obtain ⟨hcr, hct⟩ := isFieldValue_iff_isTrimmed.1 h.category
  obtain ⟨hsr, hst⟩ := isFieldValue_iff_isTrimmed.1 h.subtype
  obtain ⟨hc, hs, -⟩ := isTypePair_iff.1 h.type_pair
  rw [isFieldValue_iff_isTrimmed, typeHeader, IsTrimmed.append_iff hc hs]
  exact ⟨by simp [hcr, hsr], ⟨hct.line, by decide, hst.line⟩, hct.head, hst.last⟩

theorem isFieldValue_of_digits {text : String} (h : ∀ c ∈ text.toList, c.isDigit = true) :
    isFieldValue text = true := by
  have hnot {c : Char} (hc : c.isDigit = false) : c ∉ text.toList := by
    intro hm
    rw [h c hm] at hc
    cases hc
  have hgap {c : Char} (hm : c ∈ text.toList) : isGap c = false := by
    unfold isGap
    rw [Bool.or_eq_false_iff, beq_eq_false_iff_ne, beq_eq_false_iff_ne]
    exact ⟨fun he => hnot (by decide) (he ▸ hm), fun he => hnot (by decide) (he ▸ hm)⟩
  rw [isFieldValue_iff, hasEdgeGap, Bool.or_eq_false_iff]
  refine ⟨hnot (by decide), hnot (by decide), ?_, ?_⟩
  · rw [Option.any_eq_false]
    intro c hc
    simpa using hgap (List.mem_of_mem_head? hc)
  · rw [Option.any_eq_false]
    intro c hc
    simpa using hgap (List.mem_of_mem_getLast? hc)

theorem isFieldValue_length (n : ℕ) : isFieldValue (toString n) = true :=
  isFieldValue_of_digits fun _ => isDigit_of_mem_toString

theorem writableField_of_reserved {name value : String} (hn : name ∈ FieldName.reservedNames)
    (hv : isFieldValue value = true) : WritableField (name, value) := by
  obtain ⟨ht, hc⟩ := FieldName.canonicalName_of_reserved hn
  exact ⟨ht, hc, hv⟩

theorem writableField_of_mem_fields {f : Frame} (h : Writable f) {e : String × String}
    (hm : e ∈ f.fields) : WritableField e := by
  unfold fields at hm
  simp only [List.mem_append, List.mem_cons, List.not_mem_nil, or_false] at hm
  rcases hm with (rfl | rfl | rfl | rfl) | hm
  · exact writableField_of_reserved (by decide) (isFieldValue_typeHeader h)
  · exact writableField_of_reserved (by decide) h.port
  · exact writableField_of_reserved (by decide) h.content_type
  · exact writableField_of_reserved (by decide) (isFieldValue_length _)
  · exact h.extension e hm

theorem not_reserved_iff {name : String} (h : FieldName.isReserved name = false) :
    name ∉ FieldName.reservedNames := by
  intro hm
  unfold FieldName.isReserved at h
  rw [List.any_eq_false] at h
  exact h name hm (by simp [FieldName.sameName])

theorem nodup_field_names {f : Frame} (h : Writable f) : (f.fields.map Prod.fst).Nodup := by
  have hmap : f.fields.map Prod.fst = FieldName.reservedNames ++ f.extensions.names := by
    rfl
  rw [hmap, List.nodup_append']
  refine ⟨by decide, f.extensions.nodup_names, ?_⟩
  intro name hr hx
  obtain ⟨e, he, rfl⟩ := List.mem_map.1 hx
  exact not_reserved_iff (h.unreserved e he) hr

/-- The head that the header block of a frame stands for. -/
def toHead (f : Frame) : FrameHead where
  category := f.category
  subtype := f.subtype
  port := f.port
  contentType := f.contentType
  extensions := f.extensions
  contentLength := f.body.length

@[simp] theorem toFrame_toHead (f : Frame) : f.toHead.toFrame f.body = f := rfl

/-- The fields that every frame has. -/
def commonFields (f : Frame) : List (String × String) :=
  [(FieldName.typeName, f.typeHeader), (FieldName.portName, f.port),
    (FieldName.contentTypeName, f.contentType),
    (FieldName.contentLengthName, toString f.body.length)]

theorem get?_fields {f : Frame} (h : Writable f) (name : String) :
    (NameMap.ofList f.fields).get? name =
      (f.commonFields.lookup name).or (f.extensions.get? name) := by
  rw [NameMap.get?_ofList (nodup_field_names h)]
  exact List.lookup_append

theorem extensions_of_fields {f : Frame} (h : Writable f) :
    (NameMap.ofList f.fields).eraseAll (FieldName.reservedNames.contains ·) = f.extensions := by
  apply NameMap.ext_get?
  intro name
  rw [NameMap.get?_eraseAll]
  by_cases hr : name ∈ FieldName.reservedNames
  · have hx : f.extensions.get? name = none := by
      rw [← Option.not_isSome_iff_eq_none, ← NameMap.mem_names_iff]
      intro hx
      obtain ⟨e, he, rfl⟩ := List.mem_map.1 hx
      exact not_reserved_iff (h.unreserved e he) hr
    rw [if_pos (by simpa using hr), hx]
  · have hl : f.commonFields.lookup name = none := by
      rw [List.lookup_eq_none_iff]
      intro e he
      have hm : e.1 ∈ FieldName.reservedNames := List.mem_map_of_mem (f := Prod.fst) he
      simpa using fun hne : name = e.1 => hr (hne ▸ hm)
    rw [if_neg (by simpa using hr), get?_fields h, hl, Option.none_or]

theorem splitType_typeHeader {f : Frame} (h : Writable f) :
    FrameHead.splitType f.typeHeader = .ok (f.category, f.subtype) := by
  obtain ⟨hc, hs, hdot, -⟩ := isTypePair_iff.1 h.type_pair
  exact FrameHead.splitType_eq_ok_iff.2 ⟨rfl, hdot, hc, hs⟩

/-- The written fields are read as the head of the frame, unless its body is too large. -/
theorem ofFields_fields {f : Frame} (h : Writable f) (hlen : f.body.length < wordBound)
    (limits : Limits) : FrameHead.ofFields limits (NameMap.ofList f.fields) =
      if limits.maxBody < f.body.length then .error (.bodyTooLarge f.body.length limits.maxBody)
      else .ok f.toHead := by
  have htype : (NameMap.ofList f.fields).get? FieldName.typeName = some f.typeHeader := by
    rw [get?_fields h]
    rfl
  have hport : (NameMap.ofList f.fields).get? FieldName.portName = some f.port := by
    rw [get?_fields h]
    rfl
  have hct : (NameMap.ofList f.fields).get? FieldName.contentTypeName = some f.contentType := by
    rw [get?_fields h]
    rfl
  have hcl : (NameMap.ofList f.fields).get? FieldName.contentLengthName =
      some (toString f.body.length) := by
    rw [get?_fields h]
    rfl
  have hparse : FrameHead.parseLength (toString f.body.length) = .ok f.body.length := by
    rw [FrameHead.parseLength, parseWord?_toString hlen]
  unfold FrameHead.ofFields FrameHead.required
  simp only [htype, hport, hct, hcl, ok_bind, splitType_typeHeader h, hparse,
    extensions_of_fields h]
  by_cases hb : limits.maxBody < f.body.length
  · simp [hb, throw, throwThe, MonadExceptOf.throw]
  · simp [hb, toHead]
    rfl

end Pipework.Frame
