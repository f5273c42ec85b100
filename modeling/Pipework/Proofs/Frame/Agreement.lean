import Pipework.Proofs.Frame.Receiving

/-! Three ways to read the frames of a stream: from a source that delivers it in pieces, from a
buffer that is first taken for the beginning of a stream and then for all of it, and from a buffer
that is known to hold all of it. They give the same frames and the same ending. -/

namespace Pipework.Frame

open Text

variable {limits : Limits} {octets : Bytes}

/-- What is taken from the front of a buffer are frames that the decoder finds there. -/
theorem decodes_decodeEndAll (limits : Limits) (buffer : Bytes) : Decodes limits buffer
    (decodeEndAll limits buffer).frames (decodeEndAll limits buffer).rest := by
  induction buffer using induction_on_frames limits with
  | frame buffer f rest h ih =>
    rw [decodeEndAll_of_frame (decodeLast_of_frame h)]
    exact Decodes.cons h ih
  | last buffer e hl =>
    rw [decodeEndAll_of_error hl]
    exact Decodes.nil buffer

/-- The end is clean exactly if all octets have been taken. -/
theorem failure_decodeEndAll_eq_none_iff (limits : Limits) (buffer : Bytes) :
    (decodeEndAll limits buffer).failure = none ↔ (decodeEndAll limits buffer).rest = [] := by
  induction buffer using induction_on_frames limits with
  | frame buffer f rest h ih =>
    rw [decodeEndAll_of_frame (decodeLast_of_frame h)]
    exact ih
  | last buffer e hl =>
    rw [decodeEndAll_of_error hl]
    change (if e.isStreamEnd then none else some e) = none ↔ buffer = []
    rw [← @decodeLast_eq_closed_iff limits buffer, hl]
    cases e <;> simp [FrameError.isStreamEnd]

/-- The frames of a stream and its ending do not depend on how it is read: in pieces from a source,
from a buffer whose end is looked at when no more frames are found, or with the end known from the
start. The ending is clean exactly if the frames make up all of the stream. -/
theorem readers_agree (limits : Limits) {source : Source} (hs : source.Delivers octets) :
    let whole := decodeEndAll limits octets
    let first := decodeAll limits octets
    let second := decodeEndAll limits first.rest
    (FrameReceiver.frames { source := source, limits := limits }).toList.1 =
        whole.frames.map .ok ++ whole.failure.toList.map .error ∧
      (first.frames ++ second.frames = whole.frames ∧ second.failure = whole.failure ∧
        second.rest = whole.rest) ∧
      (∀ e, first.failure = some e → second.frames = [] ∧ second.failure = some e) ∧
      Decodes limits octets whole.frames whole.rest ∧
      (whole.failure = none ↔ whole.rest = []) ∧
      ∀ buffer, decodeEnd limits buffer = .ok none ↔ buffer = [] := by
  intro whole first second
  obtain ⟨hwhole, hfirst⟩ := decodeEndAll_eq limits octets
  obtain ⟨last, pending, later, -, -, hrun⟩ :=
    FrameRun.toList_eq_decodeEndAll (r := { source := source, limits := limits }) hs
  refine ⟨?_, ⟨?_, ?_, ?_⟩, fun e he => ?_, decodes_decodeEndAll limits octets,
    failure_decodeEndAll_eq_none_iff limits octets, fun _ => decodeEnd_eq_none_iff⟩
  · rw [hrun, List.nil_append]
  · exact (congrArg Decoded.frames hwhole).symm
  · exact (congrArg Decoded.failure hwhole).symm
  · exact (congrArg Decoded.rest hwhole).symm
  · have hsecond : second = ⟨[], some e, first.rest⟩ := hfirst e he
    rw [hsecond]
    exact ⟨rfl, rfl⟩

/-- A whole frame and one that is cut short, in three pieces with an interruption between them. -/
theorem readers_agree_in_pieces :
    let octets := toBytes "Type: a.b\nContent-Length: 1\n\n!Type: a.b\nContent-Length: 5\n\n?!"
    let source : Source := {
      deliveries := [.octets (octets.take 4), .octets ((octets.drop 4).take 30),
        .failure (.os 4), .octets (octets.drop 34)] }
    source.Delivers octets ∧
      (FrameReceiver.frames { source := source }).toList.1 =
        [.ok { category := "a", subtype := "b", body := [33] }, .error (.truncatedBody 5 2)] := by
  intro octets source
  have hs : source.Delivers octets := by
    refine ⟨?_, by decide +kernel⟩
    intro d hd
    simp only [source, List.mem_cons, List.not_mem_nil, or_false] at hd
    rcases hd with rfl | rfl | rfl | rfl
    · exact Or.inl ⟨_, _, rfl⟩
    · exact Or.inl ⟨_, _, rfl⟩
    · exact Or.inr ⟨_, rfl, by decide⟩
    · exact Or.inl ⟨_, _, rfl⟩
  have hframes : (decodeEndAll {} octets).frames =
      [{ category := "a", subtype := "b", body := [33] }] := by decide +kernel
  have hfailure : (decodeEndAll {} octets).failure = some (.truncatedBody 5 2) := by
    decide +kernel
  refine ⟨hs, ?_⟩
  rw [(readers_agree {} hs).1, hframes, hfailure]
  rfl

end Pipework.Frame
