import Pipework.Frame.Decode
import Pipework.Proofs.Frame.Lines

/-! What the first octets of a buffer decide. A frame or an error that the decoder has found stays
when more octets come, so it does not matter how many of them are behind what has been found. -/

namespace Pipework.Frame

open Text

theorem decode_nil (limits : Limits) : decode limits [] = .ok none := by
  have hs : splitHead? [] = none := by
    rw [splitHead?]
    rfl
  rw [decode, hs]
  exact if_neg (Nat.not_lt_zero _)

variable {limits : Limits} {buffer rest : Bytes} {lines : List Bytes} {f : Frame} {e : FrameError}

/-- The answer of the decoder to a buffer whose header block has ended, with anything behind it. -/
theorem decode_append_of_splitHead? (h : splitHead? buffer = some (lines, rest)) (limits : Limits)
    (more : Bytes) : decode limits (buffer ++ more) =
      if buffer.length - rest.length > limits.maxHeader then
        .error (.headerTooLarge limits.maxHeader)
      else match FrameHead.ofLines limits lines with
        | .error e => .error e
        | .ok head =>
          if buffer.length - rest.length + head.contentLength ≥ memoryBound then
            .error .unaddressable
          else if (rest ++ more).length < head.contentLength then .ok none
          else .ok (some (head.toFrame ((rest ++ more).take head.contentLength),
            (rest ++ more).drop head.contentLength)) := by
  have hlt := length_lt_of_splitHead? h
  have hblock : (buffer ++ more).length - (rest ++ more).length = buffer.length - rest.length := by
    rw [List.length_append, List.length_append]
    omega
  rewrite [decode, splitHead?_append h more, ← hblock]
  rfl

/-- A header block that has not ended reaches beyond the octets at hand. -/
theorem length_lt_of_splitHead?_append (h : splitHead? buffer = none) {more : Bytes}
    (hs : splitHead? (buffer ++ more) = some (lines, rest)) : rest.length < more.length := by
  obtain ⟨raws, blank, hb, -⟩ := splitHead?_eq_some_iff.1 hs
  by_contra hlong
  have hblock : blockOf raws blank <+: buffer := by
    apply List.prefix_of_prefix_length_le ⟨rest, hb.buffer_eq.symm⟩ (List.prefix_append buffer more)
    have hlen := congrArg List.length hb.buffer_eq
    rw [List.length_append, List.length_append] at hlen
    omega
  obtain ⟨part, hpart⟩ := hblock
  have hstarts : StartsWith buffer raws blank part := ⟨hpart.symm, hb.blank, hb.line⟩
  have hsome := splitHead?_eq_some_iff.2 ⟨raws, blank, hstarts, rfl⟩
  rw [h] at hsome
  cases hsome

/-- The buffer starts with a frame: a header block of these lines, within its limit, and behind it
as many octets of body as the head announces. -/
structure StartsWithFrame (limits : Limits) (buffer : Bytes) (raws : List Bytes) (blank : Bytes)
    (head : FrameHead) (f : Frame) (rest : Bytes) : Prop where
  block : StartsWith buffer raws blank (f.body ++ rest)
  lines : FrameHead.ofLines limits (raws.map dropReturn) = .ok head
  frame : head.toFrame f.body = f
  length : f.body.length = head.contentLength
  header : (blockOf raws blank).length ≤ limits.maxHeader
  room : (blockOf raws blank).length + head.contentLength < memoryBound

/-- The decoder finds a frame exactly if the buffer starts with it. -/
theorem decode_eq_frame_iff : decode limits buffer = .ok (some (f, rest)) ↔
    ∃ raws blank head, StartsWithFrame limits buffer raws blank head f rest := by
  have hblock {raws : List Bytes} {blank body : Bytes} (hb : StartsWith buffer raws blank body) :
      buffer.length - body.length = (blockOf raws blank).length := by
    rw [hb.buffer_eq, List.length_append, Nat.add_sub_cancel]
  constructor
  · intro h
    unfold decode at h
    split at h
    · split at h <;> cases h
    · rename_i lines body hs
      obtain ⟨raws, blank, hb, rfl⟩ := splitHead?_eq_some_iff.1 hs
      rw [hblock hb] at h
      split at h
      · cases h
      · rename_i hheader
        split at h
        · cases h
        · rename_i head hhead
          split at h
          · cases h
          · rename_i hroom
            split at h
            · cases h
            · rename_i hbody
              obtain ⟨rfl, rfl⟩ := Prod.mk.inj (Option.some.inj (Except.ok.inj h))
              have hlen : (body.take head.contentLength).length = head.contentLength :=
                List.length_take_of_le (Nat.not_lt.1 hbody)
              refine ⟨raws, blank, head, ⟨?_, hhead, rfl, hlen, Nat.not_lt.1 hheader,
                Nat.not_le.1 hroom⟩⟩
              change StartsWith buffer raws blank
                (body.take head.contentLength ++ body.drop head.contentLength)
              rwa [List.take_append_drop]
  · rintro ⟨raws, blank, head, hb, hhead, hframe, hlen, hheader, hroom⟩
    have hbody : ¬(f.body ++ rest).length < head.contentLength := by
      rw [List.length_append]
      omega
    rw [decode, splitHead?_eq_some_iff.2 ⟨raws, blank, hb, rfl⟩]
    simp only [hblock hb, hhead]
    rw [if_neg (Nat.not_lt.2 hheader), if_neg (Nat.not_le.2 hroom), if_neg hbody, ← hlen,
      List.take_left, List.drop_left, hframe]

variable {raws : List Bytes} {blank : Bytes} {head : FrameHead}

/-- The octets of a frame are the same with anything behind them. -/
theorem StartsWithFrame.append (h : StartsWithFrame limits buffer raws blank head f rest)
    (later : Bytes) :
    StartsWithFrame limits (blockOf raws blank ++ (f.body ++ later)) raws blank head f later :=
  ⟨⟨rfl, h.block.blank, h.block.line⟩, h.lines, h.frame, h.length, h.header, h.room⟩

/-- The octets are those of one frame: whatever is behind them, the decoder takes just them and
finds the frame. -/
def Carries (limits : Limits) (f : Frame) (octets : Bytes) : Prop :=
  ∀ later, decode limits (octets ++ later) = .ok (some (f, later))

/-- A frame takes its own octets from the front of a buffer. -/
theorem exists_taken_of_decode (h : decode limits buffer = .ok (some (f, rest))) :
    ∃ taken, buffer = taken ++ rest ∧ Carries limits f taken := by
  obtain ⟨raws, blank, head, hf⟩ := decode_eq_frame_iff.1 h
  refine ⟨blockOf raws blank ++ f.body, ?_, fun later => ?_⟩
  · rw [hf.block.buffer_eq, List.append_assoc]
  · rw [List.append_assoc]
    exact decode_eq_frame_iff.2 ⟨raws, blank, head, hf.append later⟩

/-- A frame at the front of a buffer is found with anything behind it. -/
theorem decode_append_of_frame (h : decode limits buffer = .ok (some (f, rest))) (more : Bytes) :
    decode limits (buffer ++ more) = .ok (some (f, rest ++ more)) := by
  obtain ⟨taken, rfl, htaken⟩ := exists_taken_of_decode h
  rw [List.append_assoc]
  exact htaken _

/-- What is wrong with the front of a buffer stays wrong with anything behind it. -/
theorem decode_append_of_error (h : decode limits buffer = .error e) (more : Bytes) :
    decode limits (buffer ++ more) = .error e := by
  cases hs : splitHead? buffer with
  | none =>
    -- the header block is too large already, and it only grows
    rw [decode, hs] at h
    simp only [] at h
    split at h
    · rename_i hlarge
      rw [← h, decode]
      cases hm : splitHead? (buffer ++ more) with
      | none =>
        refine if_pos ?_
        rw [List.length_append]
        omega
      | some p =>
        obtain ⟨lines, rest⟩ := p
        have hlt := length_lt_of_splitHead?_append hs hm
        refine if_pos ?_
        rw [List.length_append]
        omega
    · cases h
  | some p =>
    obtain ⟨lines, body⟩ := p
    have hall := decode_append_of_splitHead? hs limits []
    rw [List.append_nil, List.append_nil, h] at hall
    rw [decode_append_of_splitHead? hs]
    split at hall
    · rename_i hheader
      rw [if_pos hheader, hall]
    · rename_i hheader
      rw [if_neg hheader]
      cases hl : FrameHead.ofLines limits lines with
      | error e' =>
        rw [hl] at hall
        exact hall.symm
      | ok head =>
        rw [hl] at hall
        simp only [] at hall ⊢
        split at hall
        · rename_i hroom
          rw [if_pos hroom, hall]
        · split at hall <;> cases hall

end Pipework.Frame
