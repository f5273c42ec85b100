import Pipework.Proofs.Frame.Grammar
import Pipework.Proofs.Frame.Prefix

/-! Buffers that will not grow any more. As long as there are frames in front, it makes no
difference whether the end of the stream is known; it decides only what the last octets mean. -/

namespace Pipework.Frame

open Text

section

variable {step : Bytes → Except FrameError (Option (Frame × Bytes))}
  {shorter : ∀ {b f r}, step b = .ok (some (f, r)) → r.length < b.length}
  {buffer rest : Bytes} {f : Frame} {e : FrameError}

theorem takeWith_eq : takeWith step shorter buffer =
    match step buffer with
    | .error e => ⟨[], some e, buffer⟩
    | .ok none => ⟨[], none, buffer⟩
    | .ok (some (f, rest)) =>
      { takeWith step shorter rest with frames := f :: (takeWith step shorter rest).frames } := by
  conv_lhs => rw [takeWith]
  split <;> rename_i h <;> simp only [h]

theorem takeWith_of_frame (h : step buffer = .ok (some (f, rest))) :
    takeWith step shorter buffer =
      { takeWith step shorter rest with frames := f :: (takeWith step shorter rest).frames } := by
  rw [takeWith_eq, h]

theorem takeWith_of_none (h : step buffer = .ok none) :
    takeWith step shorter buffer = ⟨[], none, buffer⟩ := by
  rw [takeWith_eq, h]

theorem takeWith_of_error (h : step buffer = .error e) :
    takeWith step shorter buffer = ⟨[], some e, buffer⟩ := by
  rw [takeWith_eq, h]

end

variable {limits : Limits} {buffer rest : Bytes} {f : Frame} {e : FrameError}

/-- The decoder refuses octets for what they say, or because the frame that they announce is larger
than any buffer. -/
theorem arisesInReading_of_decode (h : decode limits buffer = .error e) :
    e.arisesInReading = true ∨ e = .unaddressable := by
  unfold decode at h
  split at h
  · split at h
    · cases h
      exact Or.inl rfl
    · cases h
  · split at h
    · cases h
      exact Or.inl rfl
    · split at h
      · rename_i hl
        cases h
        exact Or.inl (FrameHead.arisesInReading_of_ofLines hl)
      · split at h
        · cases h
          exact Or.inr rfl
        · split at h <;> cases h

theorem arisesInReading_cutShort (limits : Limits) (buffer : Bytes) :
    (cutShort limits buffer).arisesInReading = true := by
  unfold cutShort
  split
  · rfl
  · split
    · rfl
    · rename_i hl
      exact FrameHead.arisesInReading_of_ofLines hl

/-- The decoder asks for more octets as long as the header block has not ended, within its limit,
and then as long as there are fewer octets behind it than the head announces. -/
theorem decode_eq_none_iff : decode limits buffer = .ok none ↔
    (splitHead? buffer = none ∧ buffer.length ≤ limits.maxHeader) ∨
      ∃ raws blank head rest, StartsWithHead limits buffer raws blank head rest ∧
        (blockOf raws blank).length + head.contentLength < memoryBound ∧
        rest.length < head.contentLength := by
  constructor
  · intro h
    cases hs : splitHead? buffer with
    | none =>
      rw [decode, hs] at h
      simp only [] at h
      split at h
      · cases h
      · rename_i hlarge
        exact Or.inl ⟨rfl, Nat.not_lt.1 hlarge⟩
    | some p =>
      obtain ⟨lines, rest⟩ := p
      obtain ⟨raws, blank, hb, rfl⟩ := splitHead?_eq_some_iff.1 hs
      have hanswer := decode_append_of_splitHead? hs limits []
      have hblock : buffer.length - rest.length = (blockOf raws blank).length := by
        rw [hb.buffer_eq, List.length_append, Nat.add_sub_cancel]
      rw [List.append_nil, List.append_nil, h, hblock] at hanswer
      split at hanswer
      · cases hanswer
      · rename_i hheader
        split at hanswer
        · cases hanswer
        · rename_i head hhead
          split at hanswer
          · cases hanswer
          · rename_i hroom
            split at hanswer
            · rename_i hshort
              exact Or.inr ⟨raws, blank, head, rest, ⟨hb, hhead, Nat.not_lt.1 hheader⟩,
                Nat.not_le.1 hroom, hshort⟩
            · cases hanswer
  · rintro (⟨hs, hsize⟩ | ⟨raws, blank, head, rest, hhead, hroom, hshort⟩)
    · rw [decode, hs]
      exact if_neg (Nat.not_lt.2 hsize)
    · rw [hhead.decode_eq, if_neg (Nat.not_le.2 hroom), if_pos hshort]

/-- A buffer that the decoder waits with is within the limits of header and body together. -/
theorem length_le_of_decode_none (h : decode limits buffer = .ok none) :
    buffer.length ≤ limits.maxHeader + limits.maxBody := by
  rcases decode_eq_none_iff.1 h with ⟨-, hsize⟩ | ⟨raws, blank, head, rest, hhead, -, hshort⟩
  · exact hsize.trans (Nat.le_add_right _ _)
  · have hbody := hhead.contentLength_le.1
    have hheader := hhead.header
    rw [hhead.length_eq]
    omega

theorem decodeLast_nil (limits : Limits) : decodeLast limits [] = .error .connectionClosed := rfl

theorem decodeLast_of_frame (h : decode limits buffer = .ok (some (f, rest))) :
    decodeLast limits buffer = .ok (f, rest) := by
  have hne : buffer ≠ [] := by
    rintro rfl
    rw [decode_nil] at h
    cases h
  rw [decodeLast, List.isEmpty_eq_false_iff.2 hne, if_neg Bool.false_ne_true, h]

theorem decodeLast_of_error (h : decode limits buffer = .error e) :
    decodeLast limits buffer = .error e := by
  have hne : buffer ≠ [] := by
    rintro rfl
    rw [decode_nil] at h
    cases h
  rw [decodeLast, List.isEmpty_eq_false_iff.2 hne, if_neg Bool.false_ne_true, h]

theorem decodeLast_of_none (hne : buffer ≠ []) (h : decode limits buffer = .ok none) :
    decodeLast limits buffer = .error (cutShort limits buffer) := by
  rw [decodeLast, List.isEmpty_eq_false_iff.2 hne, if_neg Bool.false_ne_true, h]

/-- A last frame is a frame like any other. -/
theorem decodeLast_eq_ok_iff :
    decodeLast limits buffer = .ok (f, rest) ↔ decode limits buffer = .ok (some (f, rest)) := by
  refine ⟨fun h => ?_, decodeLast_of_frame⟩
  by_cases hb : buffer = []
  · rw [hb, decodeLast_nil] at h
    cases h
  · cases hd : decode limits buffer with
    | error e =>
      rw [decodeLast_of_error hd] at h
      cases h
    | ok taken =>
      cases taken with
      | none =>
        rw [decodeLast_of_none hb hd] at h
        cases h
      | some p =>
        obtain ⟨g, r⟩ := p
        rw [decodeLast_of_frame hd] at h
        cases h
        rfl

/-- The clean end of a stream is the end of a buffer in which nothing is left. -/
theorem decodeLast_eq_closed_iff :
    decodeLast limits buffer = .error .connectionClosed ↔ buffer = [] := by
  constructor
  · intro h
    by_contra hb
    -- an error of the decoder is none of the ends, and a frame cut short is not a clean end
    cases hd : decode limits buffer with
    | error e =>
      rw [decodeLast_of_error hd] at h
      obtain rfl := Except.error.inj h
      rcases arisesInReading_of_decode hd with he | he <;> cases he
    | ok taken =>
      cases taken with
      | none =>
        rw [decodeLast_of_none hb hd] at h
        have hcut := arisesInReading_cutShort limits buffer
        rw [Except.error.inj h] at hcut
        cases hcut
      | some p =>
        rw [decodeLast_of_frame hd] at h
        cases h
  · rintro rfl
    exact decodeLast_nil limits

theorem decodeEnd_of_frame (h : decodeLast limits buffer = .ok (f, rest)) :
    decodeEnd limits buffer = .ok (some (f, rest)) := by
  rw [decodeEnd, h]

theorem decodeEnd_of_error (h : decodeLast limits buffer = .error e) :
    decodeEnd limits buffer = if e.isStreamEnd then .ok none else .error e := by
  rw [decodeEnd, h]
  cases e <;> rfl

/-- Nothing more is to come exactly if all octets have been taken. -/
theorem decodeEnd_eq_none_iff : decodeEnd limits buffer = .ok none ↔ buffer = [] := by
  rw [← @decodeLast_eq_closed_iff limits buffer]
  cases hl : decodeLast limits buffer with
  | error e =>
    rw [decodeEnd_of_error hl]
    cases e <;> simp [FrameError.isStreamEnd]
  | ok taken =>
    obtain ⟨f, rest⟩ := taken
    rw [decodeEnd_of_frame hl]
    simp

theorem decodeEndAll_of_frame (h : decodeLast limits buffer = .ok (f, rest)) :
    decodeEndAll limits buffer =
      { decodeEndAll limits rest with frames := f :: (decodeEndAll limits rest).frames } :=
  takeWith_of_frame (decodeEnd_of_frame h)

theorem decodeEndAll_of_error (h : decodeLast limits buffer = .error e) :
    decodeEndAll limits buffer = ⟨[], if e.isStreamEnd then none else some e, buffer⟩ := by
  have hend := decodeEnd_of_error h
  by_cases he : e.isStreamEnd = true
  · rw [if_pos he] at hend ⊢
    exact takeWith_of_none hend
  · rw [if_neg he] at hend ⊢
    exact takeWith_of_error hend

theorem decodeEndAll_of_decode_error (h : decode limits buffer = .error e) :
    decodeEndAll limits buffer = ⟨[], some e, buffer⟩ := by
  have hend : e.isStreamEnd = false := by
    rcases arisesInReading_of_decode h with he | rfl
    · cases e <;> first | rfl | cases he
    · rfl
  rw [decodeEndAll_of_error (decodeLast_of_error h), hend, if_neg Bool.false_ne_true]

/-- Induction over the frames at the front of a buffer, up to the octets that hold no frame even if
nothing follows them. -/
theorem induction_on_frames {P : Bytes → Prop} (limits : Limits)
    (frame : ∀ buffer f rest, decode limits buffer = .ok (some (f, rest)) → P rest → P buffer)
    (last : ∀ buffer e, decodeLast limits buffer = .error e → P buffer)
    (buffer : Bytes) : P buffer := by
  induction hn : buffer.length using Nat.strong_induction_on generalizing buffer with
  | _ n ih =>
    cases hl : decodeLast limits buffer with
    | error e => exact last buffer e hl
    | ok taken =>
      obtain ⟨f, rest⟩ := taken
      have hd := decodeLast_eq_ok_iff.1 hl
      exact frame buffer f rest hd (ih _ (hn ▸ length_lt_of_decode hd) rest rfl)

/-- Once there are no more frames, the end of the stream decides about what is left. An error that
the decoder has found before the end stands. -/
theorem decodeEndAll_eq (limits : Limits) (buffer : Bytes) : decodeEndAll limits buffer =
      { decodeEndAll limits (decodeAll limits buffer).rest with
        frames := (decodeAll limits buffer).frames ++
          (decodeEndAll limits (decodeAll limits buffer).rest).frames } ∧
    ∀ e, (decodeAll limits buffer).failure = some e →
      decodeEndAll limits (decodeAll limits buffer).rest =
        ⟨[], some e, (decodeAll limits buffer).rest⟩ := by
  induction buffer using induction_on_frames limits with
  | frame buffer f rest h ih =>
    have hall : decodeAll limits buffer =
        { decodeAll limits rest with frames := f :: (decodeAll limits rest).frames } :=
      takeWith_of_frame h
    rw [decodeEndAll_of_frame (decodeLast_of_frame h), hall]
    refine ⟨?_, ih.2⟩
    rw [ih.1]
    rfl
  | last buffer e hl =>
    cases hd : decode limits buffer with
    | error e =>
      have hall : decodeAll limits buffer = ⟨[], some e, buffer⟩ := takeWith_of_error hd
      rw [hall]
      refine ⟨rfl, fun e' he => ?_⟩
      obtain rfl := Option.some.inj he
      exact decodeEndAll_of_decode_error hd
    | ok taken =>
      cases taken with
      | none =>
        have hall : decodeAll limits buffer = ⟨[], none, buffer⟩ := takeWith_of_none hd
        rw [hall]
        exact ⟨rfl, fun e he => by cases he⟩
      | some p =>
        rw [decodeLast_of_frame hd] at hl
        cases hl

end Pipework.Frame
