import Pipework.Frame.Decode
import Pipework.Proofs.Frame.FieldLines
import Pipework.Proofs.Frame.Head
import Pipework.Proofs.Frame.Lines

/-! The grammar of header blocks. A buffer with a header block in front is taken apart into the
lines of the block and what is behind its blank line. The decoder gets past the block exactly if
these lines follow the grammar, and it then reads them as the grammar says. -/

namespace Pipework

open Text

namespace FieldTable

theorem arisesInReading_of_addLine {t : FieldTable} {line : Bytes} {e : FrameError}
    (h : t.addLine line = .error e) : e.arisesInReading = true := by
  have hcontinue {text : String} (h : t.addContinuation text = .error e) :
      e.arisesInReading = true := by
    unfold addContinuation at h
    split at h
    · cases h
      rfl
    · cases h
  have hfield {text : String} (h : t.addField text = .error e) : e.arisesInReading = true := by
    unfold addField at h
    split at h
    · cases h
      rfl
    · simp only [] at h
      split at h <;> cases h
      rfl
  unfold addLine at h
  split at h
  · cases h
    rfl
  · split at h
    · exact hcontinue h
    · exact hfield h

theorem arisesInReading_of_foldlM {t : FieldTable} {lines : List Bytes} {e : FrameError}
    (h : lines.foldlM addLine t = .error e) : e.arisesInReading = true := by
  induction lines generalizing t with
  | nil => cases h
  | cons line lines ih =>
    rw [List.foldlM_cons, bind_eq_error_iff] at h
    rcases h with h | ⟨u, -, h⟩
    · exact arisesInReading_of_addLine h
    · exact ih h

theorem exists_text_of_foldlM {t t' : FieldTable} {lines : List Bytes}
    (h : lines.foldlM addLine t = .ok t') : ∃ texts : List String, lines = texts.map toBytes := by
  induction lines generalizing t with
  | nil => exact ⟨[], rfl⟩
  | cons line lines ih =>
    rw [List.foldlM_cons, bind_eq_ok_iff] at h
    obtain ⟨u, hline, h⟩ := h
    obtain ⟨texts, rfl⟩ := ih h
    unfold addLine at hline
    split at hline
    · cases hline
    · rename_i text htext
      exact ⟨text :: texts, by rw [List.map_cons, eq_toBytes_of_ofBytes? htext]⟩

end FieldTable

namespace FrameHead

open FieldLines

/-- The lines follow the grammar, and the length of the body is within the limit. -/
structure Grammatical (limits : Limits) (lines : List String) : Prop where
  well_formed : WellFormed lines
  type : ∃ text category subtype, finalValue? lines FieldName.typeName = some text ∧
    IsTypePair text category subtype
  length : ∃ text n, finalValue? lines FieldName.contentLengthName = some text ∧
    IsNumeral text n ∧ n < 2 ^ 64 ∧ n ≤ limits.maxBody

/-- What a head says is what the lines say. -/
structure Describes (head : FrameHead) (lines : List String) : Prop where
  type : ∃ text, finalValue? lines FieldName.typeName = some text ∧
    IsTypePair text head.category head.subtype
  length : ∃ text, finalValue? lines FieldName.contentLengthName = some text ∧
    IsNumeral text head.contentLength
  port : head.port = (finalValue? lines FieldName.portName).getD ""
  content_type : head.contentType = (finalValue? lines FieldName.contentTypeName).getD ""
  extension : ∀ name, head.extensions.get? name =
    if FieldName.isToken name = true ∧ FieldName.canonicalName name = name ∧
      FieldName.isReserved name = false then finalValue? lines name else none

theorem get?_of_reserved {lines : List String} (hw : WellFormed lines) {name : String}
    (hn : name ∈ FieldName.reservedNames) :
    ((fieldsOf lines).foldl FieldTable.store {}).fields.get? name = finalValue? lines name := by
  rw [FieldTable.get?_ofLines hw, if_pos (FieldName.canonicalName_of_reserved hn)]

theorem get?_extensions {lines : List String} (hw : WellFormed lines) (name : String) :
    (((fieldsOf lines).foldl FieldTable.store {}).fields.eraseAll
      (FieldName.reservedNames.contains ·)).get? name =
      if FieldName.isToken name = true ∧ FieldName.canonicalName name = name ∧
        FieldName.isReserved name = false then finalValue? lines name else none := by
  rw [NameMap.get?_eraseAll, FieldTable.get?_ofLines hw]
  -- a key of the table is canonical, so it is reserved in any case only if it is one of the names
  by_cases ht : FieldName.isToken name = true ∧ FieldName.canonicalName name = name
  · have hr := FieldName.isReserved_iff (a := name)
    rw [ht.2, ← List.contains_iff_mem] at hr
    cases hc : FieldName.reservedNames.contains name with
    | true => simp [hr.2 hc]
    | false =>
      have hnot : FieldName.isReserved name = false := by
        rw [Bool.eq_false_iff, ne_eq, hr, hc]
        decide
      simp [ht, hnot]
  · have hnot : ¬(FieldName.isToken name = true ∧ FieldName.canonicalName name = name ∧
        FieldName.isReserved name = false) := fun h => ht ⟨h.1, h.2.1⟩
    rw [if_neg ht, if_neg hnot, ite_self]

theorem ofLines_eq_ok_iff {limits : Limits} {lines : List String} {head : FrameHead} :
    ofLines limits (lines.map toBytes) = .ok head ↔
      WellFormed lines ∧ head.Describes lines ∧
        head.contentLength < 2 ^ 64 ∧ head.contentLength ≤ limits.maxBody := by
  rw [ofLines, bind_eq_ok_iff]
  constructor
  · rintro ⟨t, ht, h⟩
    obtain ⟨hw, rfl⟩ := FieldTable.ofLines_eq_ok_iff.1 ht
    obtain ⟨htype, hlength, hword, hmax, hport, hct, hext⟩ := ofFields_eq_ok_iff.1 h
    rw [get?_of_reserved hw (by decide)] at htype hlength hport hct
    refine ⟨hw, ⟨htype, hlength, hport, hct, fun name => ?_⟩, hword, hmax⟩
    rw [hext, get?_extensions hw]
  · rintro ⟨hw, hd, hword, hmax⟩
    refine ⟨_, FieldTable.ofLines_eq_ok_iff.2 ⟨hw, rfl⟩, ofFields_eq_ok_iff.2 ?_⟩
    have hext : head.extensions = ((fieldsOf lines).foldl FieldTable.store {}).fields.eraseAll
        (FieldName.reservedNames.contains ·) := by
      apply NameMap.ext_get?
      intro name
      rw [hd.extension, get?_extensions hw]
    refine ⟨?_, ?_, hword, hmax, ?_, ?_, hext⟩
    all_goals rw [get?_of_reserved hw (by decide)]
    · exact hd.type
    · exact hd.length
    · exact hd.port
    · exact hd.content_type

theorem arisesInReading_of_ofFields {limits : Limits} {fields : NameMap String} {e : FrameError}
    (h : ofFields limits fields = .error e) : e.arisesInReading = true := by
  have hrequired {name : String} (h : required fields name = .error e) :
      e.arisesInReading = true := by
    unfold required at h
    split at h <;> cases h
    rfl
  have htype {text : String} (h : splitType text = .error e) : e.arisesInReading = true := by
    unfold splitType at h
    split at h
    · cases h
      rfl
    · simp only [] at h
      split at h <;> cases h
      rfl
  have hlength {text : String} (h : parseLength text = .error e) : e.arisesInReading = true := by
    unfold parseLength at h
    split at h <;> cases h
    rfl
  -- the steps in order: type, its halves, length, its value, its limit
  unfold ofFields at h
  rcases bind_eq_error_iff.1 h with h | ⟨tv, -, h⟩
  · exact hrequired h
  rcases bind_eq_error_iff.1 h with h | ⟨⟨category, subtype⟩, -, h⟩
  · exact htype h
  rcases bind_eq_error_iff.1 h with h | ⟨lv, -, h⟩
  · exact hrequired h
  rcases bind_eq_error_iff.1 h with h | ⟨n, -, h⟩
  · exact hlength h
  simp only [] at h
  split at h <;> cases h
  rfl

/-- Whatever is wrong with a header block is an error of reading. -/
theorem arisesInReading_of_ofLines {limits : Limits} {lines : List Bytes} {e : FrameError}
    (h : ofLines limits lines = .error e) : e.arisesInReading = true := by
  rcases bind_eq_error_iff.1 h with h | ⟨t, -, h⟩
  · exact FieldTable.arisesInReading_of_foldlM h
  · exact arisesInReading_of_ofFields h

theorem exists_text_of_ofLines {limits : Limits} {lines : List Bytes} {head : FrameHead}
    (h : ofLines limits lines = .ok head) : ∃ texts : List String, lines = texts.map toBytes := by
  obtain ⟨t, ht, -⟩ := bind_eq_ok_iff.1 h
  exact FieldTable.exists_text_of_foldlM ht

theorem exists_head_iff {limits : Limits} {lines : List String} :
    (∃ head, ofLines limits (lines.map toBytes) = .ok head) ↔ Grammatical limits lines := by
  constructor
  · rintro ⟨head, h⟩
    obtain ⟨hw, hd, hword, hmax⟩ := ofLines_eq_ok_iff.1 h
    obtain ⟨tv, ht, hp⟩ := hd.type
    obtain ⟨lv, hl, hn⟩ := hd.length
    exact ⟨hw, ⟨tv, _, _, ht, hp⟩, ⟨lv, _, hl, hn, hword, hmax⟩⟩
  · rintro ⟨hw, ⟨tv, category, subtype, ht, hp⟩, ⟨lv, n, hl, hn, hword, hmax⟩⟩
    refine ⟨{
      category := category
      subtype := subtype
      port := (finalValue? lines FieldName.portName).getD ""
      contentType := (finalValue? lines FieldName.contentTypeName).getD ""
      extensions := ((fieldsOf lines).foldl FieldTable.store {}).fields.eraseAll
        (FieldName.reservedNames.contains ·)
      contentLength := n }, ofLines_eq_ok_iff.2 ⟨hw, ?_, hword, hmax⟩⟩
    exact ⟨⟨tv, ht, hp⟩, ⟨lv, hl, hn⟩, rfl, rfl, get?_extensions hw⟩

end FrameHead

namespace Frame

/-- The decoder finds nothing wrong with the header block. -/
def PassesHeader (limits : Limits) (buffer : Bytes) : Prop :=
  ∀ e, decode limits buffer = .error e → e.arisesInReading = false

variable {limits : Limits} {buffer blank rest : Bytes} {raws : List Bytes}

theorem decode_of_startsWith (hb : StartsWith buffer raws blank rest)
    (hsize : (blockOf raws blank).length ≤ limits.maxHeader) : decode limits buffer =
      match FrameHead.ofLines limits (raws.map dropReturn) with
      | .error e => .error e
      | .ok head =>
        if (blockOf raws blank).length + head.contentLength ≥ memoryBound then
          .error .unaddressable
        else if rest.length < head.contentLength then .ok none
        else .ok (some (head.toFrame (rest.take head.contentLength),
          rest.drop head.contentLength)) := by
  have hs := splitHead?_eq_some_iff.2 ⟨raws, blank, hb, rfl⟩
  have hlen : buffer.length - rest.length = (blockOf raws blank).length := by
    rw [hb.buffer_eq, List.length_append, Nat.add_sub_cancel]
  have hheader : ¬(blockOf raws blank).length > limits.maxHeader := Nat.not_lt.2 hsize
  rw [decode, hs]
  cases hl : FrameHead.ofLines limits (raws.map dropReturn) with
  | error e =>
    simp only [hlen, hl]
    exact if_neg hheader
  | ok head =>
    simp only [hlen, hl]
    exact if_neg hheader

/-- The buffer starts with a header block that the decoder accepts, and this is its head. -/
structure StartsWithHead (limits : Limits) (buffer : Bytes) (raws : List Bytes) (blank : Bytes)
    (head : FrameHead) (rest : Bytes) : Prop where
  block : StartsWith buffer raws blank rest
  lines : FrameHead.ofLines limits (raws.map dropReturn) = .ok head
  header : (blockOf raws blank).length ≤ limits.maxHeader

/-- Behind an accepted header block only the number of octets decides. -/
theorem StartsWithHead.decode_eq {head : FrameHead}
    (h : StartsWithHead limits buffer raws blank head rest) : decode limits buffer =
      if (blockOf raws blank).length + head.contentLength ≥ memoryBound then .error .unaddressable
      else if rest.length < head.contentLength then .ok none
      else .ok (some (head.toFrame (rest.take head.contentLength),
        rest.drop head.contentLength)) := by
  rw [decode_of_startsWith h.block h.header, h.lines]

theorem StartsWithHead.length_eq {head : FrameHead}
    (h : StartsWithHead limits buffer raws blank head rest) :
    buffer.length = (blockOf raws blank).length + rest.length := by
  rw [h.block.buffer_eq, List.length_append]

/-- A header block is accepted only if the length in it is within the limit. -/
theorem StartsWithHead.contentLength_le {head : FrameHead}
    (h : StartsWithHead limits buffer raws blank head rest) :
    head.contentLength ≤ limits.maxBody ∧ head.contentLength < wordBound := by
  obtain ⟨t, -, hfields⟩ := bind_eq_ok_iff.1 h.lines
  obtain ⟨-, -, hword, hmax, -⟩ := FrameHead.ofFields_eq_ok_iff.1 hfields
  exact ⟨hmax, hword⟩

theorem passesHeader_iff (hb : StartsWith buffer raws blank rest)
    (hsize : (blockOf raws blank).length ≤ limits.maxHeader) : PassesHeader limits buffer ↔
      ∃ head, FrameHead.ofLines limits (raws.map dropReturn) = .ok head := by
  unfold PassesHeader
  rw [decode_of_startsWith hb hsize]
  cases hl : FrameHead.ofLines limits (raws.map dropReturn) with
  | error e =>
    have he := FrameHead.arisesInReading_of_ofLines hl
    constructor
    · intro h
      rw [h e rfl] at he
      cases he
    · rintro ⟨head, hh⟩
      cases hh
  | ok head =>
    -- behind the header only a frame larger than any buffer is refused
    refine ⟨fun _ => ⟨head, rfl⟩, fun _ e he => ?_⟩
    simp only [] at he
    split at he
    · cases he
      rfl
    · split at he <;> cases he

/-- The decoder gets past a header block within its limit exactly if the lines of the block are
text that follows the grammar. The frame is then what these lines say, with as many octets of body
as they say, as soon as there are so many behind the block. -/
theorem header_grammar (hb : StartsWith buffer raws blank rest)
    (hsize : (blockOf raws blank).length ≤ limits.maxHeader) :
    (PassesHeader limits buffer ↔ ∃ lines : List String,
      raws.map dropReturn = lines.map toBytes ∧ FrameHead.Grammatical limits lines) ∧
    ∀ lines : List String, raws.map dropReturn = lines.map toBytes →
      FrameHead.Grammatical limits lines → ∃ head : FrameHead, head.Describes lines ∧
        decode limits buffer =
          if (blockOf raws blank).length + head.contentLength ≥ 2 ^ 63 then .error .unaddressable
          else if rest.length < head.contentLength then .ok none
          else .ok (some (head.toFrame (rest.take head.contentLength),
            rest.drop head.contentLength)) := by
  constructor
  · rw [passesHeader_iff hb hsize]
    constructor
    · rintro ⟨head, h⟩
      obtain ⟨lines, hlines⟩ := FrameHead.exists_text_of_ofLines h
      rw [hlines] at h
      exact ⟨lines, hlines, FrameHead.exists_head_iff.1 ⟨head, h⟩⟩
    · rintro ⟨lines, hlines, hg⟩
      rw [hlines]
      exact FrameHead.exists_head_iff.2 hg
  · intro lines hlines hg
    obtain ⟨head, h⟩ := FrameHead.exists_head_iff.2 hg
    refine ⟨head, (FrameHead.ofLines_eq_ok_iff.1 h).2.1, ?_⟩
    rw [decode_of_startsWith hb hsize, hlines, h]
    rfl

/-- A block with a folded value, a name that comes twice, and lines that end in both ways. -/
theorem header_grammar_of_folded :
    let raws := ["type: a.b\r", "note: one", "\ttwo \r", "TYPE:data.text", "Content-length: 007\r"]
    let lines := ["type: a.b", "note: one", "\ttwo ", "TYPE:data.text", "Content-length: 007"]
    ∃ head : FrameHead, head.Describes lines ∧
      decode {} (blockOf (raws.map toBytes) [carriageReturn] ++ toBytes "seventh wave") =
        .ok (some (head.toFrame (toBytes "seventh"), toBytes " wave")) := by
  intro raws lines
  have hb : StartsWith (blockOf (raws.map toBytes) [carriageReturn] ++ toBytes "seventh wave")
      (raws.map toBytes) [carriageReturn] (toBytes "seventh wave") :=
    ⟨rfl, Or.inr rfl, by decide⟩
  have hfield : ∀ line ∈ lines, FieldLines.isContinuation line = false →
      FieldLines.IsField line := by
    simp only [lines, List.forall_mem_cons, List.not_mem_nil, false_implies, implies_true, and_true]
    refine ⟨fun _ => ⟨"type", " a.b", ?_⟩, fun _ => ⟨"note", " one", ?_⟩, fun h => ?_,
      fun _ => ⟨"TYPE", "data.text", ?_⟩, fun _ => ⟨"Content-length", " 007", ?_⟩⟩
    · decide
    · decide
    · exact absurd h (by decide)
    · decide
    · decide
  have hg : FrameHead.Grammatical {} lines := by
    refine ⟨⟨by decide, hfield⟩, ⟨"data.text", "data", "text", ?_, ?_⟩, ⟨"007", 7, ?_, ?_, ?_⟩⟩
    · decide
    · exact ⟨by decide, by decide, by decide, by decide⟩
    · decide
    · exact ⟨by decide, List.all_eq_true.1 (by decide), by decide⟩
    · decide
  obtain ⟨head, hd, hdecode⟩ :=
    (header_grammar hb (by decide : _ ≤ ({} : Limits).maxHeader)).2 lines (by decide) hg
  obtain ⟨text, htext, hnum⟩ := hd.length
  have hvalue : FieldLines.finalValue? lines FieldName.contentLengthName = some "007" := by decide
  rw [hvalue] at htext
  obtain rfl := Option.some.inj htext
  have hlen : head.contentLength = 7 := hnum.value.symm
  refine ⟨head, hd, ?_⟩
  rw [hdecode, hlen]
  rfl

end Frame

end Pipework
