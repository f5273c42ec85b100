import Pipework.Proofs.Frame.Grammar
import Pipework.Proofs.Frame.HeaderBlock
import Pipework.Proofs.Frame.Prefix

/-! What is known of a frame because it was received. Its values come from lines, so they have no
line feeds; they were trimmed, so there are no spaces and tabs at their edges; and its extensions
have canonical names. -/

namespace Pipework

open Text

theorem FieldTable.isTrimmed_extend {value more : String} (hv : IsTrimmed value)
    (hm : IsTrimmed more) : IsTrimmed (extend value more) := by
  unfold extend
  split
  · exact hv
  · split
    · exact hm
    · rename_i hme hve
      exact (IsTrimmed.append_iff (by simpa using hve) (by simpa using hme)).2
        ⟨⟨hv.line, by decide, hm.line⟩, hv.head, hm.last⟩

namespace FieldLines

theorem isTrimmed_trimmed {text : String} (h : '\n' ∉ text.toList) : IsTrimmed (trimmed text) := by
  rw [trimmed]
  constructor
  · rw [String.toList_ofList]
    exact fun hm => h ((trimGaps_sublist _).mem hm)
  · rw [String.toList_ofList]
    exact hasEdgeGap_trimGaps _

/-- Pieces of lines that are joined to one value. -/
theorem isTrimmed_joined {text : String} {later : List String} (ht : '\n' ∉ text.toList)
    (hl : ∀ line ∈ later, '\n' ∉ line.toList) : IsTrimmed (joined (text :: later)) := by
  rw [joined_cons]
  have hfirst := isTrimmed_trimmed ht
  generalize trimmed text = value at hfirst ⊢
  induction later generalizing value with
  | nil => exact hfirst
  | cons line later ih =>
    obtain ⟨hline, hlater⟩ := List.forall_mem_cons.1 hl
    rw [List.map_cons, List.foldl_cons]
    exact ih hlater _ (FieldTable.isTrimmed_extend hfirst (isTrimmed_trimmed hline))

theorem isTrimmed_of_mem_fieldsOf {lines : List String}
    (h : ∀ line ∈ lines, '\n' ∉ line.toList) {name value : String}
    (he : (name, value) ∈ fieldsOf lines) : IsTrimmed value := by
  induction lines with
  | nil => cases he
  | cons line later ih =>
    obtain ⟨hline, hlater⟩ := List.forall_mem_cons.1 h
    unfold fieldsOf at he
    split at he
    · exact ih hlater he
    · rcases List.mem_cons.1 he with heq | he
      · rw [(Prod.mk.inj heq).2]
        have htext : '\n' ∉ (textOf line).toList := by
          rw [textOf, String.toList_ofList]
          exact fun hm => hline ((List.dropWhile_sublist _).mem (List.mem_of_mem_tail hm))
        have hmore : ∀ l ∈ later.takeWhile isContinuation, '\n' ∉ l.toList := fun l hl =>
          hlater l ((List.takeWhile_sublist _).mem hl)
        exact isTrimmed_joined htext hmore
      · exact ih hlater he

theorem isTrimmed_of_finalValue? {lines : List String}
    (h : ∀ line ∈ lines, '\n' ∉ line.toList) {name value : String}
    (hv : finalValue? lines name = some value) : IsTrimmed value := by
  obtain ⟨⟨key, text⟩, he, rfl⟩ := Option.map_eq_some_iff.1 hv
  exact isTrimmed_of_mem_fieldsOf h (List.mem_reverse.1 (List.mem_of_find?_eq_some he))

end FieldLines

theorem FieldLines.isSome_finalValue? {lines : List String} {e : String × String}
    (he : e ∈ fieldsOf lines) : (finalValue? lines e.1).isSome = true := by
  rw [finalValue?, Option.isSome_map, List.find?_isSome]
  exact ⟨e, List.mem_reverse.2 he, FieldName.sameName_iff.2 rfl⟩

namespace Frame

/-- What the decoder sees to in every frame that it finds. -/
structure Received (f : Frame) : Prop where
  type : ∃ text, IsTrimmed text ∧ FrameHead.IsTypePair text f.category f.subtype
  port : IsTrimmed f.port
  content_type : IsTrimmed f.contentType
  extension : ∀ e ∈ f.extensions.entries, FieldName.isToken e.1 = true ∧
    FieldName.canonicalName e.1 = e.1 ∧ FieldName.isReserved e.1 = false ∧ IsTrimmed e.2

theorem received_toFrame {head : FrameHead} {lines : List String} (hd : head.Describes lines)
    (hl : ∀ line ∈ lines, '\n' ∉ line.toList) (body : Bytes) : Received (head.toFrame body) := by
  have hvalue (name : String) : IsTrimmed ((FieldLines.finalValue? lines name).getD "") := by
    cases hv : FieldLines.finalValue? lines name with
    | none => exact IsTrimmed.empty
    | some value => exact FieldLines.isTrimmed_of_finalValue? hl hv
  obtain ⟨text, htext, hpair⟩ := hd.type
  refine ⟨⟨text, FieldLines.isTrimmed_of_finalValue? hl htext, hpair⟩, ?_, ?_, fun e he => ?_⟩
  · change IsTrimmed head.port
    rw [hd.port]
    exact hvalue _
  · change IsTrimmed head.contentType
    rw [hd.content_type]
    exact hvalue _
  · have hget := NameMap.mem_entries_iff.1 (show (e.1, e.2) ∈ head.extensions.entries from he)
    rw [hd.extension] at hget
    split at hget
    · rename_i hname
      exact ⟨hname.1, hname.2.1, hname.2.2, FieldLines.isTrimmed_of_finalValue? hl hget⟩
    · cases hget

theorem lineFeed_mem_toBytes {text : String} (h : '\n' ∈ text.toList) :
    lineFeed ∈ toBytes text := by
  rw [toBytes_eq_flatMap, List.mem_flatMap]
  exact ⟨'\n', h, by decide⟩

variable {limits : Limits} {buffer rest : Bytes} {f : Frame}

/-- A header block that the decoder accepts is text, and the head is what its lines say. -/
theorem StartsWithHead.exists_lines {raws : List Bytes} {blank : Bytes} {head : FrameHead}
    (h : StartsWithHead limits buffer raws blank head rest) : ∃ lines : List String,
      raws.map dropReturn = lines.map toBytes ∧ FieldLines.WellFormed lines ∧
        head.Describes lines ∧ head.contentLength ≤ limits.maxBody ∧
        ∀ line ∈ lines, '\n' ∉ line.toList := by
  have hhead := h.lines
  obtain ⟨lines, hlines⟩ := FrameHead.exists_text_of_ofLines hhead
  rw [hlines] at hhead
  obtain ⟨hw, hd, -, hmax⟩ := FrameHead.ofLines_eq_ok_iff.1 hhead
  refine ⟨lines, hlines, hw, hd, hmax, fun line hm hn => ?_⟩
  have hraw := hlines ▸ List.mem_map_of_mem (f := toBytes) hm
  obtain ⟨piece, hp, hpiece⟩ := List.mem_map.1 hraw
  -- a line feed in a line would have ended it
  refine (h.block.line piece hp).1 ((?_ : dropReturn piece <+: piece).mem ?_)
  · unfold dropReturn
    split
    · exact List.dropLast_prefix piece
    · exact List.prefix_rfl
  · rw [hpiece]
    exact lineFeed_mem_toBytes hn

/-- The header block of a frame that the decoder finds is one that it accepts. -/
theorem StartsWithFrame.exists_lines {raws : List Bytes} {blank : Bytes} {head : FrameHead}
    (h : StartsWithFrame limits buffer raws blank head f rest) : ∃ lines : List String,
      raws.map dropReturn = lines.map toBytes ∧ FieldLines.WellFormed lines ∧
        head.Describes lines ∧ head.contentLength ≤ limits.maxBody ∧
        ∀ line ∈ lines, '\n' ∉ line.toList :=
  StartsWithHead.exists_lines ⟨h.block, h.lines, h.header⟩

/-- The frames that the decoder finds are all received through lines. -/
theorem received_of_decode (h : decode limits buffer = .ok (some (f, rest))) : Received f := by
  obtain ⟨raws, blank, head, hf⟩ := decode_eq_frame_iff.1 h
  obtain ⟨lines, -, -, hd, -, hline⟩ := hf.exists_lines
  rw [← hf.frame]
  exact received_toFrame hd hline f.body

/-- An extension is found under every spelling of a name that came with the frame. -/
theorem extension?_toFrame {head : FrameHead} {lines : List String} (hd : head.Describes lines)
    {a n : String} (ha : FieldName.isToken a = true) (hn : FieldName.sameName n a = true)
    (body : Bytes) : (head.toFrame body).extension? n =
      if FieldName.isReserved a then none else FieldLines.finalValue? lines a := by
  have hsame := FieldName.sameName_canonicalName ha
  have hcanonical : FieldName.canonicalName n = FieldName.canonicalName a :=
    (FieldName.canonicalName_eq_iff (FieldName.isToken_of_sameName hn ha) ha).2 hn
  change head.extensions.get? (FieldName.canonicalName n) = _
  rw [hcanonical, hd.extension, FieldName.isReserved_congr hsame,
    FieldLines.finalValue?_congr lines hsame]
  cases FieldName.isReserved a <;>
    simp [FieldName.isToken_canonicalName ha, FieldName.canonicalName_canonicalName]

/-- The writer can only find fault with the type of a received frame, or with a value. -/
theorem Received.error_of_encode (h : Received f) {e : FrameError} (he : f.encode = .error e) :
    (∃ category subtype, e = .invalidType category subtype) ∨
      ∃ name, e = .invalidHeaderValue name := by
  have hvalue {name value : String} (hv : checkValue name value = .error e) :
      ∃ name, e = .invalidHeaderValue name := by
    unfold checkValue at hv
    split at hv <;> cases hv
    exact ⟨name, rfl⟩
  have hcheck : f.check = .error e := by
    rcases bind_eq_error_iff.1 he with hc | ⟨-, -, hc⟩
    · exact hc
    · cases hc
  -- the checks in order: type, extensions, port, description of the body
  unfold check at hcheck
  rcases bind_eq_error_iff.1 hcheck with hc | ⟨-, -, hcheck⟩
  · unfold checkType at hc
    split at hc
    · rcases bind_eq_error_iff.1 hc with hc | ⟨-, -, hc⟩ <;> exact Or.inr (hvalue hc)
    · cases hc
      exact Or.inl ⟨_, _, rfl⟩
  rcases bind_eq_error_iff.1 hcheck with hc | ⟨-, -, hcheck⟩
  · obtain ⟨⟨name, value⟩, hm, hc⟩ := exists_of_forM_eq_error hc
    obtain ⟨htoken, hcanonical, hreserved, -⟩ := h.extension _ hm
    simp only [checkExtension, htoken, hreserved, hcanonical, Bool.not_true, Bool.false_eq_true,
      if_false, ne_eq, not_true_eq_false] at hc
    exact Or.inr (hvalue hc)
  rcases bind_eq_error_iff.1 hcheck with hc | ⟨-, -, hc⟩ <;> exact Or.inr (hvalue hc)

/-- Every frame that the decoder finds has a category without dots and a subtype, extensions under
canonical names that are not reserved, values without line feeds and without spaces and tabs at
their edges, and a body as long as its header block says, within the limit. An extension is found
under every spelling of a name in the block, and no name keeps the writer from sending the frame. -/
theorem decoded_frame_sound (h : decode limits buffer = .ok (some (f, rest))) :
    (f.category ≠ "" ∧ '.' ∉ f.category.toList ∧ f.subtype ≠ "") ∧
    (∀ e ∈ f.extensions.entries, FieldName.isToken e.1 = true ∧
      FieldName.canonicalName e.1 = e.1 ∧ FieldName.isReserved e.1 = false ∧ IsTrimmed e.2) ∧
    IsTrimmed f.port ∧ IsTrimmed f.contentType ∧
    (∃ raws blank, ∃ lines : List String, StartsWith buffer raws blank (f.body ++ rest) ∧
      raws.map dropReturn = lines.map toBytes ∧
      (∃ text, FieldLines.finalValue? lines FieldName.contentLengthName = some text ∧
        FrameHead.IsNumeral text f.body.length) ∧
      ∀ e ∈ FieldLines.fieldsOf lines, ∃ value, FieldLines.finalValue? lines e.1 = some value ∧
        ∀ n, FieldName.sameName n e.1 = true →
          f.extension? n = if FieldName.isReserved e.1 then none else some value) ∧
    f.body.length ≤ limits.maxBody ∧
    ∀ name, f.encode ≠ .error (.reservedExtension name) ∧
      f.encode ≠ .error (.invalidHeaderName name) := by
  have hreceived := received_of_decode h
  obtain ⟨text, -, hpair⟩ := hreceived.type
  obtain ⟨raws, blank, head, hf⟩ := decode_eq_frame_iff.1 h
  obtain ⟨lines, hlines, hw, hd, hmax, -⟩ := hf.exists_lines
  have hlength : ∃ text, FieldLines.finalValue? lines FieldName.contentLengthName = some text ∧
      FrameHead.IsNumeral text f.body.length := by
    rw [hf.length]
    exact hd.length
  have hspelling : ∀ e ∈ FieldLines.fieldsOf lines, ∃ value,
      FieldLines.finalValue? lines e.1 = some value ∧
        ∀ n, FieldName.sameName n e.1 = true →
          f.extension? n = if FieldName.isReserved e.1 then none else some value := by
    intro e he
    have htoken := FieldLines.isToken_of_mem_fieldsOf hw.field he
    obtain ⟨value, hvalue⟩ := Option.isSome_iff_exists.1 (FieldLines.isSome_finalValue? he)
    refine ⟨value, hvalue, fun n hn => ?_⟩
    rw [← hf.frame, extension?_toFrame hd htoken hn, hvalue]
  have hencode (name : String) : f.encode ≠ .error (.reservedExtension name) ∧
      f.encode ≠ .error (.invalidHeaderName name) := by
    constructor <;> intro he <;>
      rcases hreceived.error_of_encode he with ⟨_, _, hc⟩ | ⟨_, hc⟩ <;> cases hc
  refine ⟨⟨hpair.category, hpair.first_dot, hpair.subtype⟩, hreceived.extension, hreceived.port,
    hreceived.content_type, ⟨raws, blank, lines, hf.block, hlines, hlength, hspelling⟩, ?_, hencode⟩
  rw [hf.length]
  exact hmax

/-- A name that comes twice, the second time with a value on the line behind it, and reserved names
in mixed case. -/
theorem decoded_frame_sound_of_mixed_case :
    let buffer := toBytes
      "tYPE: a.b.c\nX-NOTE: one\nPORT: \tp \nx-note: \n two\nCONTENT-length: 1\n\n!?"
    let f := Frame.withExtension
      { category := "a", subtype := "b.c", port := "p", body := [33] } "x-note" "two"
    decode {} buffer = .ok (some (f, [63])) ∧ IsTrimmed f.port ∧
      f.extensions.names = ["X-Note"] ∧ f.extension? "x-NOTE" = some "two" ∧
      (∀ e ∈ f.extensions.entries, FieldName.isReserved e.1 = false) ∧
      ∀ name, f.encode ≠ .error (.reservedExtension name) := by
  intro buffer f
  have hd : decode {} buffer = .ok (some (f, [63])) := by decide +kernel
  obtain ⟨-, hext, hport, -, -, -, hencode⟩ := decoded_frame_sound hd
  exact ⟨hd, hport, by decide +kernel, by decide +kernel, fun e he => (hext e he).2.2.1,
    fun name => (hencode name).1⟩

end Frame

end Pipework
