import Pipework.Proofs.Frame.Receiving

/-! A receiver loses no octet. Whatever a source delivers, in pieces of any size, with failures and
ends of the stream between them, the frames that were given out and the octets at hand make up all
that was read, after every call. -/

namespace Pipework

/-- Does the error come from octets that were received, and not from their being too few? -/
def FrameError.isLasting : FrameError → Bool
  | .truncatedBody _ _ | .unexpectedEnd => false
  | e => e.arisesInReading

namespace Source

variable {s t u : Source} {part octets later : Bytes} {cause : IoError}

/-- Reading operations one after the other: the octets that they yield together, and the source
afterwards. -/
inductive Reads : Source → Bytes → Source → Prop where
  | none (s : Source) : Reads s [] s
  | octets {s t u : Source} {part later : Bytes} :
    s.read = (.ok part, t) → Reads t later u → Reads s (part ++ later) u
  | failure {s t u : Source} {cause : IoError} {later : Bytes} :
    s.read = (.error cause, t) → Reads t later u → Reads s later u

theorem Reads.trans (h : Reads s octets t) (hlater : Reads t later u) :
    Reads s (octets ++ later) u := by
  induction h with
  | none s => exact hlater
  | octets hr _ ih =>
    rw [List.append_assoc]
    exact Reads.octets hr (ih hlater)
  | failure hr _ ih => exact Reads.failure hr (ih hlater)

theorem reads_of_fill (h : s.fill = (.ok part, t)) : Reads s part t := by
  fun_induction fill s with
  | case1 s bs u hr =>
    cases h
    have hone := Reads.octets hr (Reads.none t)
    rwa [List.append_nil] at hone
  | case2 s cause u hr hlt hk ih => exact Reads.failure hr (ih h)
  | case3 => cases h

theorem reads_of_fill_error (h : s.fill = (.error cause, t)) : Reads s [] t := by
  fun_induction fill s with
  | case1 => cases h
  | case2 s cause u hr hlt hk ih => exact Reads.failure hr (ih h)
  | case3 s cause u hr hlt hk =>
    cases h
    exact Reads.failure hr (Reads.none t)

/-- What has been read and what is still to come are the octets of the stream. -/
theorem Reads.unread (h : Reads s octets t) : s.unread = octets ++ t.unread := by
  induction h with
  | none s => rfl
  | octets hr _ ih => rw [unread_of_read hr, ih, List.append_assoc]
  | failure hr _ ih => rw [unread_of_read_error hr, ih]

end Source

namespace Frame

variable {limits : Limits} {buffer : Bytes} {e : FrameError}

/-- What is wrong with a frame that is cut short is only that there are too few octets. -/
theorem isLasting_cutShort (h : decode limits buffer = .ok none) :
    (cutShort limits buffer).isLasting = false := by
  unfold cutShort
  cases hs : splitHead? buffer with
  | none => rfl
  | some p =>
    obtain ⟨lines, rest⟩ := p
    cases hl : FrameHead.ofLines limits lines with
    | ok head => simp only [hl, FrameError.isLasting]
    | error e =>
      -- the decoder would have refused the header block
      rw [decode, hs] at h
      simp only [hl] at h
      split at h <;> cases h

theorem frames_decodeAll_of_no_frame (h : ∀ f rest, decode limits buffer ≠ .ok (some (f, rest))) :
    (decodeAll limits buffer).frames = [] := by
  cases hd : decode limits buffer with
  | error e =>
    have hall : decodeAll limits buffer = ⟨[], some e, buffer⟩ := takeWith_of_error hd
    rw [hall]
  | ok taken =>
    cases taken with
    | none =>
      have hall : decodeAll limits buffer = ⟨[], none, buffer⟩ := takeWith_of_none hd
      rw [hall]
    | some p => exact absurd hd (h p.1 p.2)

theorem decode_of_isLasting (he : e.isLasting = true) (h : decodeLast limits buffer = .error e) :
    decode limits buffer = .error e := by
  have hne : buffer ≠ [] := by
    rintro rfl
    cases h
    cases he
  cases hd : decode limits buffer with
  | error e' =>
    rw [decodeLast_of_error hd] at h
    rw [Except.error.inj h]
  | ok taken =>
    cases taken with
    | none =>
      have hcut := isLasting_cutShort hd
      rw [decodeLast_of_none hne hd] at h
      rw [Except.error.inj h, he] at hcut
      cases hcut
    | some p =>
      rw [decodeLast_of_frame hd] at h
      cases h

end Frame

namespace FrameReceiver

open Pipework.Frame

/-- All that one call can do. It reads some octets; then it either takes a frame from the front of
what is at hand, or leaves everything there and reports an error, as no frame is complete. -/
theorem readFrame_cases (r : FrameReceiver) : ∃ taken source, r.source.Reads taken source ∧
    ((∃ f rest, decode r.limits (r.pending ++ taken) = .ok (some (f, rest)) ∧
        r.readFrame = (.ok f, ⟨source, rest, r.limits⟩)) ∨
      ∃ e, r.readFrame = (.error e, ⟨source, r.pending ++ taken, r.limits⟩) ∧
        (∀ f rest, decode r.limits (r.pending ++ taken) ≠ .ok (some (f, rest))) ∧
        (e.isLasting = true → decode r.limits (r.pending ++ taken) = .error e)) := by
  fun_induction readFrame r with
  | case1 r e hd =>
    refine ⟨[], r.source, .none _, Or.inr ⟨e, ?_, fun f rest hf => ?_, fun _ => ?_⟩⟩
    · rw [List.append_nil]
    · rw [List.append_nil, hd] at hf
      cases hf
    · rwa [List.append_nil]
  | case2 r f rest hd =>
    refine ⟨[], r.source, .none _, Or.inl ⟨f, rest, ?_, rfl⟩⟩
    rwa [List.append_nil]
  | case3 r hd cause source hf =>
    refine ⟨[], source, Source.reads_of_fill_error hf,
      Or.inr ⟨.io cause, ?_, fun f rest hframe => ?_, fun he => ?_⟩⟩
    · rw [List.append_nil]
    · rw [List.append_nil, hd] at hframe
      cases hframe
    · cases he
  | case4 r hd source hf =>
    -- the stream has ended for now, and what is at hand is taken for all of it
    refine ⟨[], source, Source.reads_of_fill hf, ?_⟩
    rw [List.append_nil]
    unfold finish
    cases hl : decodeLast r.limits r.pending with
    | ok taken =>
      obtain ⟨f, rest⟩ := taken
      exact Or.inl ⟨f, rest, decodeLast_eq_ok_iff.1 hl, rfl⟩
    | error e =>
      refine Or.inr ⟨e, rfl, fun f rest hframe => ?_, fun he => decode_of_isLasting he hl⟩
      rw [hd] at hframe
      cases hframe
  | case5 r hd b bs source hf hle ih =>
    obtain ⟨taken, last, hreads, hcall⟩ := ih
    rw [List.append_assoc] at hcall
    exact ⟨b :: bs ++ taken, last, (Source.reads_of_fill hf).trans hreads, hcall⟩

/-- Calls one after the other: all answers, and the receiver after the last of them. -/
def readFrames (r : FrameReceiver) : ℕ → List (Except FrameError Frame) × FrameReceiver
  | 0 => ([], r)
  | n + 1 =>
    let (answers, last) := r.readFrames n
    (answers ++ [last.readFrame.1], last.readFrame.2)

theorem readFrames_succ (r : FrameReceiver) (n : ℕ) :
    r.readFrames (n + 1) = ((r.readFrames n).1 ++ [(r.readFrames n).2.readFrame.1],
      (r.readFrames n).2.readFrame.2) :=
  rfl

theorem limits_readFrames (r : FrameReceiver) (n : ℕ) :
    (r.readFrames n).2.limits = r.limits := by
  induction n with
  | zero => rfl
  | succ n ih =>
    obtain ⟨taken, source, -, ⟨f, rest, -, hcall⟩ | ⟨e, hcall, -⟩⟩ :=
      readFrame_cases (r.readFrames n).2
    all_goals
      rw [readFrames_succ, hcall]
      exact ih

/-- After any number of calls, the octets of the frames that were given out and those at hand are
the octets that were at hand before and those that were read. -/
theorem conserved_readFrames (r : FrameReceiver) (n : ℕ) : ∃ taken, ∃ pieces : List Bytes,
    r.source.Reads taken (r.readFrames n).2.source ∧
    List.Forall₂ (Carries r.limits) ((r.readFrames n).1.filterMap Except.toOption) pieces ∧
    pieces.flatten ++ (r.readFrames n).2.pending = r.pending ++ taken := by
  -- every call adds what it reads to the octets at hand, and a frame that it takes to the pieces
  induction n with
  | zero => exact ⟨[], [], .none _, .nil, (List.append_nil _).symm⟩
  | succ n ih =>
    obtain ⟨taken, pieces, hreads, hpieces, hsum⟩ := ih
    have hlimits := limits_readFrames r n
    obtain ⟨more, source, hmore, hstep⟩ := readFrame_cases (r.readFrames n).2
    rw [hlimits] at hstep
    have hboth := hreads.trans hmore
    rcases hstep with ⟨f, rest, hd, hcall⟩ | ⟨e, hcall, -⟩
    · -- the octets of the frame move from those at hand to those given out
      obtain ⟨piece, hpiece, hframe⟩ := exists_taken_of_decode hd
      refine ⟨taken ++ more, pieces ++ [piece], ?_, ?_, ?_⟩
      · rw [readFrames_succ, hcall]
        exact hboth
      · rw [readFrames_succ, hcall, List.filterMap_append]
        exact List.rel_append hpieces (.cons hframe .nil)
      · rw [readFrames_succ, hcall, List.flatten_append, List.flatten_singleton, List.append_assoc,
          ← hpiece, ← List.append_assoc, hsum, List.append_assoc]
    · refine ⟨taken ++ more, pieces, ?_, ?_, ?_⟩
      · rw [readFrames_succ, hcall]
        exact hboth
      · have hno : [Except.error (α := Frame) e].filterMap Except.toOption = [] := rfl
        rw [readFrames_succ, hcall, List.filterMap_append, hno, List.append_nil]
        exact hpieces
      · rw [readFrames_succ, hcall, ← List.append_assoc, hsum, List.append_assoc]

/-- Pieces that are the octets of frames, one behind the other, are read as these frames. -/
theorem decodes_of_pieces {limits : Limits} {fs : List Frame} {pieces : List Bytes}
    (h : List.Forall₂ (Carries limits) fs pieces) (rest : Bytes) :
    Decodes limits (pieces.flatten ++ rest) fs rest := by
  induction h with
  | nil => exact Decodes.nil rest
  | cons hframe _ ih =>
    rw [List.flatten_cons, List.append_assoc]
    exact Decodes.cons (hframe _) ih

/-- An error that more octets cannot mend comes back at every call, and nothing is read for it. -/
theorem readFrames_of_error {r : FrameReceiver} {e : FrameError}
    (h : decode r.limits r.pending = .error e) (k : ℕ) :
    r.readFrames k = (List.replicate k (.error e), r) := by
  have hcall : r.readFrame = (.error e, r) := by
    rw [readFrame, h]
  induction k with
  | zero => rfl
  | succ k ih => rw [readFrames_succ, ih, hcall, List.replicate_succ']

theorem decode_of_failed_call {r : FrameReceiver} {n : ℕ} {e : FrameError}
    (h : (r.readFrames n).1.getLast? = some (.error e)) :
    (∀ f rest, decode (r.readFrames n).2.limits (r.readFrames n).2.pending ≠
      .ok (some (f, rest))) ∧
    (e.isLasting = true →
      decode (r.readFrames n).2.limits (r.readFrames n).2.pending = .error e) := by
  cases n with
  | zero => cases h
  | succ n =>
    obtain ⟨taken, source, -, ⟨f, rest, -, hcall⟩ | ⟨e', hcall, hfailed⟩⟩ :=
      readFrame_cases (r.readFrames n).2
    all_goals
      rw [readFrames_succ, hcall, List.getLast?_concat] at h
      cases h
    rw [readFrames_succ, hcall]
    exact hfailed

end FrameReceiver

namespace FrameRun

/-- The first items of a run, and the run after them. -/
def nexts (run : FrameRun) : ℕ → List (Option (Except FrameError Frame)) × FrameRun
  | 0 => ([], run)
  | n + 1 =>
    let (items, last) := run.nexts n
    (items ++ [last.next.1], last.next.2)

theorem nexts_succ (run : FrameRun) (n : ℕ) :
    run.nexts (n + 1) = ((run.nexts n).1 ++ [(run.nexts n).2.next.1], (run.nexts n).2.next.2) :=
  rfl

/-- A run gives out the frames that the calls would give. It ends at the first error, which it gives
out unless it is the end of the stream. -/
theorem nexts_frames (r : FrameReceiver) (n : ℕ) : ∃ fs : List Frame,
    ((r.readFrames n).1 = fs.map .ok ∧
      r.frames.nexts n = (fs.map (some <| .ok ·), ⟨(r.readFrames n).2, false⟩)) ∨
    ∃ e later reader, (r.readFrames n).1 = fs.map .ok ++ .error e :: later ∧
      r.frames.nexts n = (fs.map (some <| .ok ·) ++
        (if e.isStreamEnd then none else some (.error e)) :: List.replicate later.length none,
        ⟨reader, true⟩) := by
  induction n with
  | zero => exact ⟨[], Or.inl ⟨rfl, rfl⟩⟩
  | succ n ih =>
    obtain ⟨fs, ⟨hanswers, hitems⟩ | ⟨e, later, reader, hanswers, hitems⟩⟩ := ih
    · cases hcall : (r.readFrames n).2.readFrame with
      | mk answer last =>
        cases answer with
        | ok f =>
          have hnext : next ⟨(r.readFrames n).2, false⟩ = (some (.ok f), ⟨last, false⟩) := by
            simp [next, hcall]
          refine ⟨fs ++ [f], Or.inl ⟨?_, ?_⟩⟩
          · rw [FrameReceiver.readFrames_succ, hanswers, hcall, List.map_append, List.map_singleton]
          · rw [nexts_succ, hitems, hnext, FrameReceiver.readFrames_succ, hcall, List.map_append,
              List.map_singleton]
        | error e =>
          have hnext : next ⟨(r.readFrames n).2, false⟩ =
              (if e.isStreamEnd then none else some (.error e), ⟨last, true⟩) := by
            simp [next, hcall]
          refine ⟨fs, Or.inr ⟨e, [], last, ?_, ?_⟩⟩
          · rw [FrameReceiver.readFrames_succ, hanswers, hcall]
          · rw [nexts_succ, hitems, hnext]
            rfl
    · -- the run has ended, and stays as it is
      refine ⟨fs, Or.inr ⟨e, later ++ [(r.readFrames n).2.readFrame.1], reader, ?_, ?_⟩⟩
      · rw [FrameReceiver.readFrames_succ, hanswers, List.append_assoc, List.cons_append]
      · have hnext : next ⟨reader, true⟩ = (none, ⟨reader, true⟩) := rfl
        rw [nexts_succ, hitems, hnext, List.length_append, List.length_singleton,
          List.replicate_succ', List.append_assoc, List.cons_append]

end FrameRun

namespace FrameReceiver

open Pipework.Frame
open Text (toBytes)

/-- However a stream is delivered, and whatever failures and ends come between, a receiver loses
no octet: after any number of calls the octets of the frames it gave out, in order, and those at
hand are those it has read. So its frames are the first ones of the whole stream, and if the last
call failed they are all that the octets hold that were read. An error that lies in the octets and
not in their number comes back at every further call, and nothing is read for it. A run over the
frames gives out at most one error, as its last item. -/
theorem no_octet_lost (limits : Limits) (source : Source) (n : ℕ) :
    let fresh : FrameReceiver := { source := source, limits := limits }
    let answers := (fresh.readFrames n).1
    let last := (fresh.readFrames n).2
    let frames := answers.filterMap Except.toOption
    (∃ taken, ∃ pieces : List Bytes, source.Reads taken last.source ∧
      List.Forall₂ (Carries limits) frames pieces ∧ pieces.flatten ++ last.pending = taken ∧
      ∀ e, answers.getLast? = some (.error e) → frames = (decodeAll limits taken).frames) ∧
    frames <+: (decodeAll limits source.unread).frames ∧
    (∀ e, answers.getLast? = some (.error e) → e.isLasting = true →
      ∀ k, last.readFrames k = (List.replicate k (.error e), last)) ∧
    ∃ fs : List Frame,
      (answers = fs.map .ok ∧ (fresh.frames.nexts n).1 = fs.map (some <| .ok ·)) ∨
      ∃ e later, answers = fs.map .ok ++ .error e :: later ∧
        (fresh.frames.nexts n).1 = fs.map (some <| .ok ·) ++
          (if e.isStreamEnd then none else some (.error e)) ::
            List.replicate later.length none := by
  intro fresh answers last frames
  obtain ⟨taken, pieces, hreads, hpieces, hsum⟩ := conserved_readFrames fresh n
  have hsum : pieces.flatten ++ last.pending = taken := hsum
  have hlimits : last.limits = limits := limits_readFrames fresh n
  refine ⟨⟨taken, pieces, hreads, hpieces, hsum, fun e hlast => ?_⟩, ?_, fun e hlast he k => ?_, ?_⟩
  · -- the call failed, so no further frame is complete in what is at hand
    have hnone := frames_decodeAll_of_no_frame (decode_of_failed_call hlast).1
    rw [hlimits] at hnone
    rw [← hsum, decodeAll_of_decodes (decodes_of_pieces hpieces _), hnone, List.append_nil]
  · -- behind the frames, the decoder would find what is at hand and what is still to come
    have hunread : source.unread = pieces.flatten ++ (last.pending ++ last.source.unread) := by
      rw [← List.append_assoc, hsum]
      exact hreads.unread
    rw [hunread, decodeAll_of_decodes (decodes_of_pieces hpieces _)]
    exact List.prefix_append _ _
  · exact readFrames_of_error ((decode_of_failed_call hlast).2 he) k
  · obtain ⟨fs, ⟨hanswers, hitems⟩ | ⟨e, later, reader, hanswers, hitems⟩⟩ :=
      FrameRun.nexts_frames fresh n
    · exact ⟨fs, Or.inl ⟨hanswers, by rw [hitems]⟩⟩
    · exact ⟨fs, Or.inr ⟨e, later, hanswers, by rw [hitems]⟩⟩

/-- A frame that is cut within its header block, and between its parts an interruption, a failure
and an end of the stream; behind it a header block that is wrong. -/
theorem no_octet_lost_across_failures :
    let f : Frame := { category := "a", subtype := "b", body := [33, 10] }
    let bad := toBytes "Type: a\r\n\r\n"
    let source : Source := ⟨[.octets (toBytes "Type: a.b\r"), .failure (.os 4),
      .octets (toBytes "\nContent-"), .failure (.os 5), .octets (toBytes "Length: 2\n\r\n!"),
      .octets [], .octets (toBytes "\n" ++ bad)], 0⟩
    let fresh : FrameReceiver := { source := source }
    let last := (fresh.readFrames 4).2
    (fresh.readFrames 4).1 = [.error (.io (.os 5)), .error (.truncatedBody 2 1), .ok f,
      .error (.missingTypeSeparator "a")] ∧
    FrameError.isLasting (.missingTypeSeparator "a") = true ∧
    last.pending = bad ∧
    last.readFrames 3 = (List.replicate 3 (.error (.missingTypeSeparator "a")), last) ∧
    [f] <+: (decodeAll {} source.unread).frames := by
  intro f bad source fresh last
  obtain ⟨-, hprefix, hlasting, -⟩ := no_octet_lost {} source 4
  have hanswers : (fresh.readFrames 4).1 = [.error (.io (.os 5)), .error (.truncatedBody 2 1),
      .ok f, .error (.missingTypeSeparator "a")] := by
    decide +kernel
  refine ⟨hanswers, rfl, by decide +kernel, ?_, ?_⟩
  · exact hlasting _ (by rw [hanswers]; rfl) rfl 3
  · have hframes : (fresh.readFrames 4).1.filterMap Except.toOption = [f] := by
      rw [hanswers]
      rfl
    rwa [hframes] at hprefix

end FrameReceiver

end Pipework
