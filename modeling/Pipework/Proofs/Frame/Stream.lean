import Pipework.Proofs.Frame.Ending
import Pipework.Proofs.Frame.RoundTrip

/-! Frames that are written to one buffer in turn are read back in turn, whatever stood in the
buffer before and whatever comes behind them. -/

namespace Pipework

/-- The limits let the frame through. -/
structure Limits.Admits (limits : Limits) (f : Frame) : Prop where
  header : f.headerBlock.length ≤ limits.maxHeader
  body : f.body.length ≤ limits.maxBody

namespace Frame

open Text

/-- Does the encoder take the frame? -/
def accepted (f : Frame) : Bool := f.encode.isOk

theorem encode_eq_ok_iff {f : Frame} {octets : Bytes} :
    f.encode = .ok octets ↔ Writable f ∧ octets = f.wire := by
  rw [← check_eq_ok_iff, encode, check_bind_eq_ok_iff]
  exact and_congr_right fun _ => ⟨fun h => (Except.ok.inj h).symm, fun h => h ▸ rfl⟩

theorem accepted_iff {f : Frame} : f.accepted = true ↔ Writable f := by
  rw [← check_eq_ok_iff, accepted, encode]
  cases f.check <;> simp [Except.isOk, Except.toBool, pure, Except.pure]

/-- There can be a buffer with all octets of the frame. -/
def FitsMemory (f : Frame) : Prop := f.wire.length < memoryBound

/-- Writes a frame to a buffer: the answer, and the buffer afterwards. -/
def push (buffer : Bytes) (f : Frame) : Except FrameError Unit × Bytes :=
  match encodeInto buffer f with
  | .ok longer => (.ok (), longer)
  | .error e => (.error e, buffer)

/-- Writes frames to one buffer, one after the other: all answers, and the buffer afterwards. -/
def pushAll (buffer : Bytes) : List Frame → List (Except FrameError Unit) × Bytes
  | [] => ([], buffer)
  | f :: fs =>
    let (answer, buffer) := push buffer f
    let (answers, buffer) := pushAll buffer fs
    (answer :: answers, buffer)

/-- Reading one frame after the other from a buffer gives `fs` and leaves `rest`. -/
inductive Decodes (limits : Limits) : Bytes → List Frame → Bytes → Prop where
  | nil (buffer : Bytes) : Decodes limits buffer [] buffer
  | cons {buffer middle rest : Bytes} {f : Frame} {fs : List Frame} :
    decode limits buffer = .ok (some (f, middle)) → Decodes limits middle fs rest →
      Decodes limits buffer (f :: fs) rest

/-- A refused frame leaves the buffer as it is. -/
theorem push_eq (buffer : Bytes) (f : Frame) :
    push buffer f = (f.check, if f.accepted then buffer ++ f.wire else buffer) := by
  unfold push encodeInto accepted encode
  cases f.check <;> rfl

theorem pushAll_eq (buffer : Bytes) (fs : List Frame) :
    pushAll buffer fs = (fs.map check, buffer ++ (fs.filter accepted).flatMap wire) := by
  induction fs generalizing buffer with
  | nil => simp [pushAll]
  | cons f fs ih =>
    simp only [pushAll, push_eq, ih]
    by_cases ha : f.accepted = true
    · simp [ha]
    · simp [ha]

theorem headerBlock_eq (f : Frame) : f.headerBlock =
    (f.fields.map fun e => toBytes (fieldText e)).flatMap (· ++ [carriageReturn, lineFeed]) ++
      [carriageReturn, lineFeed] := by
  have hcrlf : toBytes "\r\n" = [carriageReturn, lineFeed] := by decide
  rw [headerBlock, hcrlf, List.flatMap_map]
  simp only [fieldLine_eq]

theorem splitHead?_headerBlock {f : Frame} (h : Writable f) (rest : Bytes) :
    splitHead? (f.headerBlock ++ rest) =
      some (f.fields.map fun e => toBytes (fieldText e), rest) := by
  have hl : ∀ l ∈ f.fields.map fun e => toBytes (fieldText e), lineFeed ∉ l ∧ l ≠ [] := by
    intro l hl
    obtain ⟨e, he, rfl⟩ := List.mem_map.1 hl
    exact ⟨lineFeed_not_mem_fieldText (writableField_of_mem_fields h he), fieldText_ne_nil e⟩
  rw [headerBlock_eq]
  simpa using splitHead?_lines hl rest

theorem splitHead?_wire {f : Frame} (h : Writable f) (rest : Bytes) :
    splitHead? (f.wire ++ rest) =
      some (f.fields.map fun e => toBytes (fieldText e), f.body ++ rest) := by
  rw [wire, List.append_assoc, splitHead?_headerBlock h]

theorem ofLines_wire {f : Frame} (h : Writable f) (hlen : f.body.length < wordBound)
    (limits : Limits) :
    FrameHead.ofLines limits (f.fields.map fun e => toBytes (fieldText e)) =
      if limits.maxBody < f.body.length then .error (.bodyTooLarge f.body.length limits.maxBody)
      else .ok f.toHead := by
  obtain ⟨last, ht⟩ := ofLines_fieldText fun e he => writableField_of_mem_fields h he
  rw [FrameHead.ofLines, ht, ok_bind, ofFields_fields h hlen]

/-- The answer of the decoder to a written frame with anything behind it. Its limits are exact,
and the header block is looked at first. -/
theorem decode_wire_append {f : Frame} (h : Writable f) (hm : FitsMemory f) (limits : Limits)
    (rest : Bytes) : decode limits (f.wire ++ rest) =
      if limits.maxHeader < f.headerBlock.length then .error (.headerTooLarge limits.maxHeader)
      else if limits.maxBody < f.body.length then
        .error (.bodyTooLarge f.body.length limits.maxBody)
      else .ok (some (f, rest)) := by
  have hlen : f.headerBlock.length + f.body.length < memoryBound := by
    rw [← List.length_append]
    exact hm
  have hblock : (f.wire ++ rest).length - (f.body ++ rest).length = f.headerBlock.length := by
    simp only [wire, List.length_append]
    omega
  rw [decode, splitHead?_wire h]
  have hword : memoryBound ≤ wordBound := by decide
  simp only [hblock, ofLines_wire h (by omega)]
  by_cases hh : limits.maxHeader < f.headerBlock.length
  · rw [if_pos hh, if_pos hh]
  · rw [if_neg hh, if_neg hh]
    by_cases hb : limits.maxBody < f.body.length
    · rw [if_pos hb, if_pos hb]
    · have htotal : ¬f.headerBlock.length + f.toHead.contentLength ≥ memoryBound := by
        change ¬f.headerBlock.length + f.body.length ≥ memoryBound
        omega
      have hroom : ¬(f.body ++ rest).length < f.toHead.contentLength := by
        change ¬(f.body ++ rest).length < f.body.length
        rw [List.length_append]
        omega
      have htake : (f.body ++ rest).take f.toHead.contentLength = f.body := List.take_left
      have hdrop : (f.body ++ rest).drop f.toHead.contentLength = rest := List.drop_left
      rw [if_neg hb, if_neg hb]
      simp only [htotal, hroom, htake, hdrop, if_false, toFrame_toHead]

theorem decode_wire_of_admits {f : Frame} (h : Writable f) (hm : FitsMemory f)
    {limits : Limits} (ha : limits.Admits f) (rest : Bytes) :
    decode limits (f.wire ++ rest) = .ok (some (f, rest)) := by
  rw [decode_wire_append h hm, if_neg (Nat.not_lt.2 ha.header), if_neg (Nat.not_lt.2 ha.body)]

theorem decodeAll_of_decode {limits : Limits} {buffer rest : Bytes} {f : Frame}
    (h : decode limits buffer = .ok (some (f, rest))) : decodeAll limits buffer =
      { decodeAll limits rest with frames := f :: (decodeAll limits rest).frames } :=
  takeWith_of_frame h

theorem decodeAll_of_decodes {limits : Limits} {buffer rest : Bytes} {fs : List Frame}
    (h : Decodes limits buffer fs rest) : decodeAll limits buffer =
      { decodeAll limits rest with frames := fs ++ (decodeAll limits rest).frames } := by
  induction h with
  | nil buffer => rfl
  | cons hd _ ih => rw [decodeAll_of_decode hd, ih]; rfl

theorem decodeEndAll_of_decodes {limits : Limits} {buffer : Bytes} {fs : List Frame}
    (h : Decodes limits buffer fs []) : decodeEndAll limits buffer = ⟨fs, none, []⟩ := by
  obtain ⟨rest, hr⟩ : ∃ rest, rest = ([] : Bytes) := ⟨_, rfl⟩
  rw [← hr] at h
  induction h with
  | nil buffer =>
    rw [hr, decodeEndAll_of_error (decodeLast_nil limits)]
    rfl
  | cons hd _ ih => rw [decodeEndAll_of_frame (decodeLast_of_frame hd), ih hr]

theorem decodes_wires {limits : Limits} {fs : List Frame} (h : ∀ f ∈ fs, Writable f)
    (hm : ∀ f ∈ fs, FitsMemory f) (ha : ∀ f ∈ fs, limits.Admits f) (rest : Bytes) :
    Decodes limits (fs.flatMap wire ++ rest) fs rest := by
  induction fs with
  | nil => exact Decodes.nil rest
  | cons f fs ih =>
    obtain ⟨hf, hfs⟩ := List.forall_mem_cons.1 h
    obtain ⟨hmf, hmfs⟩ := List.forall_mem_cons.1 hm
    obtain ⟨haf, hafs⟩ := List.forall_mem_cons.1 ha
    rw [List.flatMap_cons, List.append_assoc]
    exact Decodes.cons (decode_wire_of_admits hf hmf haf _) (ih hfs hmfs hafs)

/-- Frames written to one buffer are read back in order, with every field as it was, and nothing
of what comes behind them is touched. Only the limits can keep a written frame out. -/
theorem stream_round_trip (buffer : Bytes) (fs : List Frame) :
    pushAll buffer fs = (fs.map check, buffer ++ (fs.filter accepted).flatMap wire) ∧
    (∀ f ∈ fs, ∀ b, push b f = (f.check, if f.accepted then b ++ f.wire else b)) ∧
    ((∀ f ∈ fs.filter accepted, FitsMemory f) → ∀ (limits : Limits) (rest : Bytes),
      ((∀ f ∈ fs.filter accepted, limits.Admits f) →
        Decodes limits ((fs.filter accepted).flatMap wire ++ rest) (fs.filter accepted) rest ∧
        decodeAll limits ((fs.filter accepted).flatMap wire ++ rest) =
          { decodeAll limits rest with
            frames := fs.filter accepted ++ (decodeAll limits rest).frames }) ∧
      ∀ f ∈ fs.filter accepted, decode limits (f.wire ++ rest) =
        if limits.maxHeader < f.headerBlock.length then
          .error (.headerTooLarge limits.maxHeader)
        else if limits.maxBody < f.body.length then
          .error (.bodyTooLarge f.body.length limits.maxBody)
        else .ok (some (f, rest))) := by
  have hw : ∀ f ∈ fs.filter accepted, Writable f := fun f hf =>
    accepted_iff.1 (List.mem_filter.1 hf).2
  refine ⟨pushAll_eq buffer fs, fun f _ b => push_eq b f, fun hm limits rest => ⟨?_, ?_⟩⟩
  · intro ha
    have hd := decodes_wires hw hm ha rest
    exact ⟨hd, decodeAll_of_decodes hd⟩
  · intro f hf
    exact decode_wire_append (hw f hf) (hm f hf) limits rest

/-- A body full of line ends, a refused frame between two others, and a lone line feed behind. -/
theorem stream_round_trip_around_refused :
    let first := (data "a.b" [13, 10, 13, 10]).withExtension "x-id" "ü: 1"
    let refused := data " b" []
    let last := control "End" []
    let fs := [first, refused, last]
    fs.filter accepted = [first, last] ∧ (∀ f ∈ fs.filter accepted, FitsMemory f) ∧
      (∀ f ∈ fs.filter accepted, Limits.Admits {} f) ∧
      Decodes {} ((fs.filter accepted).flatMap wire ++ [10]) (fs.filter accepted) [10] := by
  intro first refused last fs
  have hf : fs.filter accepted = [first, last] := by decide +kernel
  have hm : ∀ f ∈ fs.filter accepted, FitsMemory f := by
    rw [hf]
    unfold FitsMemory
    decide +kernel
  have ha : ∀ f ∈ fs.filter accepted, Limits.Admits {} f := by
    rw [hf]
    intro f hf
    constructor <;> revert f <;> decide +kernel
  exact ⟨hf, hm, ha, ((stream_round_trip [] fs).2.2 hm {} [10]).1 ha |>.1⟩

end Frame

end Pipework
