import Pipework.Proofs.Frame.Received
import Pipework.Proofs.Frame.Stream

/-! Passing frames on. A component that sends what it has received is stopped by its own writer only
where the writer is stricter than the reader: at a lone carriage return within a value, and at a
space or a tab beside the dot between category and subtype. All other frames arrive unchanged. -/

namespace Pipework.Frame

open Text

/-- The frame has no text in which the writer alone sees a line break, or the edge of a value. -/
structure Forwardable (f : Frame) : Prop where
  no_return : ∀ text ∈ [f.category, f.subtype, f.port, f.contentType] ++ f.extensions.values,
    '\r' ∉ text.toList
  before_dot : f.category.toList.getLast?.any isGap = false
  behind_dot : f.subtype.toList.head?.any isGap = false

variable {f : Frame}

/-- Of the frames that were received, the writer takes just these. -/
theorem Received.writable_iff (h : Received f) : Writable f ↔ Forwardable f := by
  -- the reader has trimmed the value of the type, so only its edges beside the dot are open
  obtain ⟨text, htext, hpair⟩ := h.type
  rw [hpair.text_eq, IsTrimmed.append_iff hpair.category hpair.subtype] at htext
  obtain ⟨⟨hcline, -, hsline⟩, hhead, hlast⟩ := htext
  have hvalues : (∀ value ∈ f.extensions.values, '\r' ∉ value.toList) ↔
      ∀ e ∈ f.extensions.entries, '\r' ∉ e.2.toList := List.forall_mem_map
  constructor
  · intro hw
    obtain ⟨-, -, -, hc, hs⟩ := isTypePair_iff.1 hw.type_pair
    rw [hasEdgeGap, Bool.or_eq_false_iff] at hc hs
    refine ⟨?_, hc.2, hs.1⟩
    rw [List.forall_mem_append, hvalues]
    refine ⟨?_, fun e he => (isFieldValue_iff.1 (hw.extension e he).value).1⟩
    simp only [List.forall_mem_cons, List.not_mem_nil, false_implies, implies_true, and_true]
    exact ⟨(isFieldValue_iff.1 hw.category).1, (isFieldValue_iff.1 hw.subtype).1,
      (isFieldValue_iff.1 hw.port).1, (isFieldValue_iff.1 hw.content_type).1⟩
  · rintro ⟨hreturn, hbefore, hbehind⟩
    rw [List.forall_mem_append, hvalues] at hreturn
    simp only [List.forall_mem_cons, List.not_mem_nil, false_implies, implies_true, and_true]
      at hreturn
    obtain ⟨⟨hc, hs, hp, hct⟩, hext⟩ := hreturn
    have hcedge : hasEdgeGap f.category.toList = false := Bool.or_eq_false_iff.2 ⟨hhead, hbefore⟩
    have hsedge : hasEdgeGap f.subtype.toList = false := Bool.or_eq_false_iff.2 ⟨hbehind, hlast⟩
    refine ⟨isTypePair_iff.2 ⟨hpair.category, hpair.subtype, hpair.first_dot, hcedge, hsedge⟩,
      isFieldValue_iff.2 ⟨hc, hcline, hcedge⟩, isFieldValue_iff.2 ⟨hs, hsline, hsedge⟩,
      fun e he => ?_, fun e he => (h.extension e he).2.2.1,
      isFieldValue_iff_isTrimmed.2 ⟨hp, h.port⟩, isFieldValue_iff_isTrimmed.2 ⟨hct, h.content_type⟩⟩
    obtain ⟨htoken, hcanonical, -, hvalue⟩ := h.extension e he
    exact ⟨htoken, hcanonical, isFieldValue_iff_isTrimmed.2 ⟨hext e he, hvalue⟩⟩

/-- A frame that was received is taken by the writer if it is forwardable, and it is then read back
as it was, by a reader whose limits admit it and with anything behind it. -/
theorem received_forwarded {limits : Limits} {buffer rest : Bytes}
    (h : decode limits buffer = .ok (some (f, rest))) :
    ((∃ octets, f.encode = .ok octets) ↔ Forwardable f) ∧
    ∀ octets, f.encode = .ok octets → FitsMemory f → ∀ (limits : Limits) (later : Bytes),
      limits.Admits f → decode limits (octets ++ later) = .ok (some (f, later)) := by
  have hwritable := (received_of_decode h).writable_iff
  constructor
  · rw [← hwritable]
    constructor
    · rintro ⟨octets, hencode⟩
      exact (encode_eq_ok_iff.1 hencode).1
    · intro hw
      exact ⟨f.wire, encode_eq_ok_iff.2 ⟨hw, rfl⟩⟩
  · intro octets hencode hm limits later ha
    obtain ⟨hw, rfl⟩ := encode_eq_ok_iff.1 hencode
    exact decode_wire_of_admits hw hm ha later

/-- A folded value and names in lower case, sent on in the form of the writer. -/
theorem received_forwarded_of_folded :
    let buffer := toBytes "type:a.b c\nx-note:\n one\n\ttwo\ncontent-length:1\n\n!?"
    let f := Frame.withExtension
      { category := "a", subtype := "b c", body := [33] } "X-Note" "one two"
    decode {} buffer = .ok (some (f, [63])) ∧ Forwardable f ∧ FitsMemory f ∧
      Limits.Admits {} f ∧ f.encode = .ok f.wire ∧ decode {} (f.wire ++ [63]) = .ok (some (f, [63])) := by
  intro buffer f
  have hd : decode {} buffer = .ok (some (f, [63])) := by decide +kernel
  have he : f.encode = .ok f.wire := by decide +kernel
  have hm : FitsMemory f := by
    unfold FitsMemory
    decide +kernel
  have ha : Limits.Admits {} f := by
    constructor <;> decide +kernel
  obtain ⟨hforward, hback⟩ := received_forwarded hd
  exact ⟨hd, hforward.1 ⟨_, he⟩, hm, ha, he, hback _ he hm {} [63] ha⟩

/-- A value with a lone return in it is received, and refused when it is to be sent on. So is a
category with a space before the dot. -/
theorem received_not_forwarded :
    (∃ f, decode {} (toBytes "Type: a.b\r\nPort: x\ry\r\nContent-Length: 0\r\n\r\n") =
        .ok (some (f, [])) ∧ f.encode = .error (.invalidHeaderValue "Port")) ∧
    ∃ f, decode {} (toBytes "Type: a .b\r\nContent-Length: 0\r\n\r\n") = .ok (some (f, [])) ∧
      f.encode = .error (.invalidType "a " "b") := by
  refine ⟨⟨{ category := "a", subtype := "b", port := "x\ry" }, ?_, ?_⟩,
    ⟨{ category := "a ", subtype := "b" }, ?_, ?_⟩⟩
  all_goals decide +kernel

end Pipework.Frame
