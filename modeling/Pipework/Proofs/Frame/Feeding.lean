import Pipework.Proofs.Frame.Stream

/-! Feeding a decoder piece by piece. What one call has found stands when more octets come, so a
buffer that is fed in chunks gives the same frames and the same ending as one that holds all octets
from the start, wherever the octets are cut. -/

namespace Pipework.Frame

open Text

/-- One call of the decoder on a buffer: the answer, and the buffer afterwards. -/
def pull (limits : Limits) (buffer : Bytes) : Except FrameError (Option Frame) × Bytes :=
  match decode limits buffer with
  | .ok (some (f, rest)) => (.ok (some f), rest)
  | .ok none => (.ok none, buffer)
  | .error e => (.error e, buffer)

/-- Puts a chunk behind what is left of a buffer and takes all frames that are complete then. -/
def Decoded.feed (limits : Limits) (d : Decoded) (chunk : Bytes) : Decoded :=
  { decodeAll limits (d.rest ++ chunk) with
    frames := d.frames ++ (decodeAll limits (d.rest ++ chunk)).frames }

/-- The answer of the call that ends the taking of frames. -/
def Decoded.ending (d : Decoded) : Except FrameError (Option Frame) :=
  match d.failure with
  | none => .ok none
  | some e => .error e

variable {limits : Limits} {buffer rest : Bytes} {f : Frame} {fs : List Frame} {e : FrameError}

theorem pull_eq_frame_iff :
    pull limits buffer = (.ok (some f), rest) ↔ decode limits buffer = .ok (some (f, rest)) := by
  unfold pull
  cases hd : decode limits buffer with
  | error e => simp
  | ok taken => cases taken <;> simp [Prod.ext_iff]

theorem pull_eq_error_iff :
    pull limits buffer = (.error e, rest) ↔ decode limits buffer = .error e ∧ rest = buffer := by
  unfold pull
  cases hd : decode limits buffer with
  | error e' => simp [eq_comm]
  | ok taken => cases taken <;> simp

theorem pull_eq_none_iff :
    pull limits buffer = (.ok none, rest) ↔ decode limits buffer = .ok none ∧ rest = buffer := by
  unfold pull
  cases hd : decode limits buffer with
  | error e => simp
  | ok taken => cases taken <;> simp [eq_comm]

theorem Decodes.append (h : Decodes limits buffer fs rest) (more : Bytes) :
    Decodes limits (buffer ++ more) fs (rest ++ more) := by
  induction h with
  | nil buffer => exact Decodes.nil _
  | cons hd _ ih => exact Decodes.cons (decode_append_of_frame hd more) ih

/-- Each frame takes at least one octet, so a buffer can hold only so many. -/
theorem Decodes.length_le (h : Decodes limits buffer fs rest) :
    fs.length + rest.length ≤ buffer.length := by
  induction h with
  | nil buffer => simp
  | cons hd _ ih =>
    have hlt := length_lt_of_decode hd
    rw [List.length_cons]
    omega

/-- Frames are taken one after the other, until a call gives none or fails. -/
theorem decodes_decodeAll (limits : Limits) (buffer : Bytes) :
    Decodes limits buffer (decodeAll limits buffer).frames (decodeAll limits buffer).rest ∧
    pull limits (decodeAll limits buffer).rest =
      ((decodeAll limits buffer).ending, (decodeAll limits buffer).rest) := by
  induction buffer using induction_on_frames limits with
  | frame buffer f rest h ih =>
    rw [decodeAll_of_decode h]
    exact ⟨Decodes.cons h ih.1, ih.2⟩
  | last buffer e hl =>
    cases hd : decode limits buffer with
    | error e =>
      have hall : decodeAll limits buffer = ⟨[], some e, buffer⟩ := takeWith_of_error hd
      rw [hall]
      exact ⟨Decodes.nil buffer, pull_eq_error_iff.2 ⟨hd, rfl⟩⟩
    | ok taken =>
      cases taken with
      | none =>
        have hall : decodeAll limits buffer = ⟨[], none, buffer⟩ := takeWith_of_none hd
        rw [hall]
        exact ⟨Decodes.nil buffer, pull_eq_none_iff.2 ⟨hd, rfl⟩⟩
      | some p =>
        rw [decodeLast_of_frame hd] at hl
        cases hl

/-- Octets that come later are as good as octets that were there from the start. -/
theorem decodeAll_append (limits : Limits) (buffer more : Bytes) :
    decodeAll limits (buffer ++ more) = (decodeAll limits buffer).feed limits more := by
  have hfirst := (decodes_decodeAll limits buffer).1
  exact decodeAll_of_decodes (hfirst.append more)

theorem foldl_feed (limits : Limits) (buffer : Bytes) (chunks : List Bytes) :
    chunks.foldl (Decoded.feed limits) (decodeAll limits buffer) =
      decodeAll limits (buffer ++ chunks.flatten) := by
  -- what a chunk leaves behind is again what all octets so far leave behind
  induction chunks generalizing buffer with
  | nil => simp
  | cons chunk chunks ih =>
    rw [List.foldl_cons, ← decodeAll_append, ih, List.flatten_cons, List.append_assoc]

/-- Behind octets that are wrong nothing more is found. -/
theorem decodeAll_append_of_failure (h : (decodeAll limits buffer).failure = some e)
    (more : Bytes) : decodeAll limits (buffer ++ more) =
      ⟨(decodeAll limits buffer).frames, some e, (decodeAll limits buffer).rest ++ more⟩ := by
  have hstop := (decodes_decodeAll limits buffer).2
  rw [Decoded.ending, h, pull_eq_error_iff] at hstop
  have hlast : decodeAll limits ((decodeAll limits buffer).rest ++ more) =
      ⟨[], some e, (decodeAll limits buffer).rest ++ more⟩ :=
    takeWith_of_error (decode_append_of_error hstop.1 more)
  rw [decodeAll_append, Decoded.feed, hlast, List.append_nil]

/-- A frame or an error that a call finds is found with any octets behind it; only a frame takes
octets from the buffer. So frames that are taken after each of several chunks, until a call gives
none or fails, are those of all chunks together, with the same ending and the same octets left; and
each time this comes to an end. -/
theorem decoding_stable (limits : Limits) :
    (∀ buffer more f rest, pull limits buffer = (.ok (some f), rest) →
      pull limits (buffer ++ more) = (.ok (some f), rest ++ more) ∧
        rest.length < buffer.length) ∧
    (∀ buffer more e rest, pull limits buffer = (.error e, rest) → rest = buffer ∧
      pull limits (buffer ++ more) = (.error e, buffer ++ more)) ∧
    (∀ buffer rest, pull limits buffer = (.ok none, rest) → rest = buffer) ∧
    (∀ buffer, let d := decodeAll limits buffer
      Decodes limits buffer d.frames d.rest ∧ pull limits d.rest = (d.ending, d.rest) ∧
        d.frames.length + d.rest.length ≤ buffer.length) ∧
    (∀ chunks : List Bytes, chunks.foldl (Decoded.feed limits) ⟨[], none, []⟩ =
      decodeAll limits chunks.flatten) ∧
    ∀ buffer more e, (decodeAll limits buffer).failure = some e →
      decodeAll limits (buffer ++ more) =
        ⟨(decodeAll limits buffer).frames, some e, (decodeAll limits buffer).rest ++ more⟩ := by
  have hempty : decodeAll limits [] = ⟨[], none, []⟩ := takeWith_of_none (decode_nil limits)
  refine ⟨fun buffer more f rest h => ?_, fun buffer more e rest h => ?_, fun buffer rest h => ?_,
    fun buffer => ?_, fun chunks => ?_, fun buffer more e h => decodeAll_append_of_failure h more⟩
  · have hd := pull_eq_frame_iff.1 h
    exact ⟨pull_eq_frame_iff.2 (decode_append_of_frame hd more), length_lt_of_decode hd⟩
  · obtain ⟨hd, hrest⟩ := pull_eq_error_iff.1 h
    exact ⟨hrest, pull_eq_error_iff.2 ⟨decode_append_of_error hd more, rfl⟩⟩
  · exact (pull_eq_none_iff.1 h).2
  · obtain ⟨htaken, hstop⟩ := decodes_decodeAll limits buffer
    exact ⟨htaken, hstop, htaken.length_le⟩
  · rw [← hempty, foldl_feed, List.nil_append]

/-- Cuts within a line end, a character and a numeral, and a header block that is wrong behind the
frame. -/
theorem decoding_stable_across_cuts :
    let f := Frame.withExtension { category := "a", subtype := "b", body := [33] } "X-Id" "ü"
    let good := toBytes "Type: a.b\r\nX-Id: ü\r\nContent-Length: 01\r\n\r\n!"
    let bad := toBytes "Type: a\r\n\r\n"
    let octets := good ++ bad
    let chunks := [octets.take 10, (octets.drop 10).take 8, (octets.drop 18).take 20,
      octets.drop 38]
    chunks.flatten = octets ∧
      pull {} good = (.ok (some f), []) ∧ pull {} octets = (.ok (some f), bad) ∧
      pull {} bad = (.error (.missingTypeSeparator "a"), bad) ∧
      pull {} (bad ++ good) = (.error (.missingTypeSeparator "a"), bad ++ good) ∧
      (chunks.foldl (Decoded.feed {}) ⟨[], none, []⟩).frames = [f] ∧
      (chunks.foldl (Decoded.feed {}) ⟨[], none, []⟩).failure =
        some (.missingTypeSeparator "a") := by
  intro f good bad octets chunks
  obtain ⟨hframe, herror, -, -, hchunks, -⟩ := decoding_stable {}
  have hgood : pull {} good = (.ok (some f), []) := by decide +kernel
  have hbad : pull {} bad = (.error (.missingTypeSeparator "a"), bad) := by decide +kernel
  refine ⟨by decide +kernel, hgood, (hframe good bad f [] hgood).1, hbad,
    (herror bad good _ bad hbad).2, ?_, ?_⟩ <;> rw [hchunks] <;> decide +kernel

end Pipework.Frame
