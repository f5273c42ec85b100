import Pipework.Frame.Receiver
import Pipework.Proofs.Frame.Stream

/-! A receiver whose source delivers the octets of whole frames. However the octets are cut into
deliveries and however often reading is interrupted, the receiver gives out these frames in order
and then sees the clean end of the stream. -/

namespace Pipework

namespace Source

variable {s t : Source} {bs : Bytes}

theorem unread_of_read {part : Bytes} (h : s.read = (.ok part, t)) :
    s.unread = part ++ t.unread := by
  unfold read at h
  split at h
  · rename_i hd
    cases h
    simp [unread, hd]
  · cases h
  · rename_i bs rest hd
    split at h <;> cases h
    · simp only [unread, hd, List.flatMap_cons]
      rw [← List.append_assoc, List.take_append_drop]
    · simp only [unread, hd, List.flatMap_cons]

theorem unread_of_read_error {cause : IoError} (h : s.read = (.error cause, t)) :
    s.unread = t.unread := by
  unfold read at h
  split at h
  · cases h
  · rename_i hd
    cases h
    simp [unread, hd]
  · split at h <;> cases h

/-- The source yields these octets in pieces that are not empty, with nothing but interruptions in
between, and then ends. -/
structure Delivers (s : Source) (bs : Bytes) : Prop where
  delivery : ∀ d ∈ s.deliveries, (∃ b more, d = .octets (b :: more)) ∨
    ∃ e : IoError, d = .failure e ∧ e.kind = .interrupted
  unread : s.unread = bs

theorem Delivers.of_read (h : s.Delivers bs) {part : Bytes} (hr : s.read = (.ok part, t)) :
    ∃ later, bs = part ++ later ∧ t.Delivers later ∧ (part = [] → bs = []) := by
  have hunread : bs = part ++ t.unread := h.unread.symm.trans (unread_of_read hr)
  unfold read at hr
  split at hr
  · rename_i hd
    cases hr
    refine ⟨_, hunread, ⟨h.delivery, rfl⟩, fun _ => ?_⟩
    rw [← h.unread, Source.unread, hd]
    rfl
  · cases hr
  · rename_i piece later hd
    have hrest (d : Delivery) (hm : d ∈ later) := h.delivery d (hd ▸ List.mem_cons_of_mem _ hm)
    obtain ⟨b, more, rfl⟩ : ∃ b more, piece = b :: more := by
      rcases h.delivery (.octets piece) (hd ▸ List.mem_cons_self) with ⟨b, more, he⟩ | ⟨e, he, -⟩
      · exact ⟨b, more, Delivery.octets.inj he⟩
      · cases he
    split at hr <;> cases hr
    · -- the piece does not fit, so something of it stays in front
      refine ⟨_, hunread, ⟨fun d hm => ?_, rfl⟩, fun he => by simp [readRoom] at he⟩
      rcases List.mem_cons.1 hm with rfl | hm
      · have hne : (b :: more).drop readRoom ≠ [] := by
          rw [Ne, List.drop_eq_nil_iff]
          omega
        obtain ⟨c, cs, hc⟩ := List.exists_cons_of_ne_nil hne
        exact Or.inl ⟨c, cs, congrArg Delivery.octets hc⟩
      · exact hrest d hm
    · exact ⟨_, hunread, ⟨hrest, rfl⟩, fun he => (nomatch he)⟩

theorem Delivers.of_read_error (h : s.Delivers bs) {e : IoError} (hr : s.read = (.error e, t)) :
    e.kind = .interrupted ∧ t.Delivers bs := by
  have hunread : t.unread = bs := (unread_of_read_error hr).symm.trans h.unread
  unfold read at hr
  split at hr
  · cases hr
  · rename_i cause later hd
    cases hr
    refine ⟨?_, fun d hm => h.delivery d (hd ▸ List.mem_cons_of_mem _ hm), hunread⟩
    rcases h.delivery (.failure e) (hd ▸ List.mem_cons_self) with ⟨b, more, hb⟩ | ⟨e, he, hk⟩
    · cases hb
    · rwa [Delivery.failure.inj he]
  · split at hr <;> cases hr

/-- Reading goes on after interruptions, so it always yields the next octets. -/
theorem Delivers.fill (h : s.Delivers bs) : ∃ part later t, s.fill = (.ok part, t) ∧
    bs = part ++ later ∧ t.Delivers later ∧ (part = [] → bs = []) := by
  fun_induction Source.fill s with
  | case1 s part t hr =>
    obtain ⟨later, hbs, ht, hend⟩ := h.of_read hr
    exact ⟨part, later, t, rfl, hbs, ht, hend⟩
  | case2 s e t hr hlt hk ih => exact ih (h.of_read_error hr).2
  | case3 s e t hr hlt hk => exact absurd (h.of_read_error hr).1 hk

end Source

namespace FrameReceiver

open Pipework.Frame

/-- A receiver answers as one that has the whole stream at hand and knows that it ends there. What
it has not used up is still to come, in the buffer or from the source. -/
theorem readFrame_of_delivers {r : FrameReceiver} {unread : Bytes}
    (hs : r.source.Delivers unread) : ∃ source pending later, source.Delivers later ∧
      ((∃ f, decodeLast r.limits (r.pending ++ unread) = .ok (f, pending ++ later) ∧
          r.readFrame = (.ok f, ⟨source, pending, r.limits⟩)) ∨
        ∃ e, decodeLast r.limits (r.pending ++ unread) = .error e ∧
          pending ++ later = r.pending ++ unread ∧
          r.readFrame = (.error e, ⟨source, pending, r.limits⟩)) := by
  -- every delivery moves octets from `unread` to `pending`; together they stay the stream
  fun_induction readFrame r generalizing unread with
  | case1 r e hd =>
    have hlast := decodeLast_of_error (decode_append_of_error hd unread)
    exact ⟨r.source, r.pending, unread, hs, Or.inr ⟨e, hlast, rfl, rfl⟩⟩
  | case2 r f rest hd =>
    have hlast := decodeLast_of_frame (decode_append_of_frame hd unread)
    exact ⟨r.source, rest, unread, hs, Or.inl ⟨f, hlast, rfl⟩⟩
  | case3 r hd e source hf =>
    obtain ⟨part, later, t, hfill, -⟩ := hs.fill
    cases hf.symm.trans hfill
  | case4 r hd source hf =>
    -- the stream ends here, so the buffer holds all that was left of it
    obtain ⟨part, later, t, hfill, hbs, ht, hend⟩ := hs.fill
    cases hf.symm.trans hfill
    obtain rfl := hend rfl
    obtain ⟨-, rfl⟩ := List.append_eq_nil_iff.1 hbs.symm
    rw [List.append_nil]
    unfold finish
    cases hl : decodeLast r.limits r.pending with
    | error e => exact ⟨source, r.pending, [], ht, Or.inr ⟨e, rfl, List.append_nil _, rfl⟩⟩
    | ok taken =>
      obtain ⟨f, rest⟩ := taken
      exact ⟨source, rest, [], ht, Or.inl ⟨f, by rw [List.append_nil], rfl⟩⟩
  | case5 r hd b bs source hf hle ih =>
    obtain ⟨part, later, t, hfill, hbs, ht, -⟩ := hs.fill
    cases hf.symm.trans hfill
    have h := ih ht
    rw [List.append_assoc, ← hbs] at h
    exact h

end FrameReceiver

namespace FrameRun

open Pipework.Frame

theorem toList_of_some {run after : FrameRun} {item : Except FrameError Frame}
    (h : run.next = (some item, after)) :
    run.toList = (item :: after.toList.1, after.toList.2) := by
  rw [toList]
  split
  · rename_i hn
    cases hn.symm.trans h
  · rename_i hn
    cases hn.symm.trans h
    rfl

theorem toList_of_none {run after : FrameRun} (h : run.next = (none, after)) :
    run.toList = ([], after) := by
  rw [toList]
  split
  · rename_i hn
    cases hn.symm.trans h
    rfl
  · rename_i hn
    cases hn.symm.trans h

theorem toList_of_done (reader : FrameReceiver) : toList ⟨reader, true⟩ = ([], ⟨reader, true⟩) :=
  toList_of_none rfl

/-- A run yields the frames of the stream and then the error at its end, if there is one. -/
theorem toList_eq_decodeEndAll {r : FrameReceiver} {unread : Bytes}
    (hs : r.source.Delivers unread) : ∃ source pending later, source.Delivers later ∧
      pending ++ later = (decodeEndAll r.limits (r.pending ++ unread)).rest ∧
      r.frames.toList = ((decodeEndAll r.limits (r.pending ++ unread)).frames.map .ok ++
          (decodeEndAll r.limits (r.pending ++ unread)).failure.toList.map .error,
        ⟨⟨source, pending, r.limits⟩, true⟩) := by
  obtain ⟨source, pending, later, hsource, hread⟩ := FrameReceiver.readFrame_of_delivers hs
  rcases hread with ⟨f, hlast, hread⟩ | ⟨e, hlast, hsame, hread⟩
  · -- the rest of the stream is shorter, and it is what the run goes on with
    let after : FrameReceiver := ⟨source, pending, r.limits⟩
    have hshort : (after.pending ++ later).length < (r.pending ++ unread).length :=
      length_lt_of_decode (decodeLast_eq_ok_iff.1 hlast)
    have hnext : r.frames.next = (some (.ok f), after.frames) := by
      simp [next, FrameReceiver.frames, hread, after]
    obtain ⟨last, kept, unseen, hl, hrest, hrun⟩ :=
      toList_eq_decodeEndAll (r := after) hsource
    refine ⟨last, kept, unseen, hl, ?_, ?_⟩
    · rw [decodeEndAll_of_frame hlast]
      exact hrest
    · rw [toList_of_some hnext, hrun, decodeEndAll_of_frame hlast]
      rfl
  · refine ⟨source, pending, later, hsource, ?_, ?_⟩
    · rw [decodeEndAll_of_error hlast, hsame]
    · have hnext : r.frames.next = (if e.isStreamEnd then none else some (.error e),
          ⟨⟨source, pending, r.limits⟩, true⟩) := by
        simp [next, FrameReceiver.frames, hread]
      rw [decodeEndAll_of_error hlast]
      by_cases he : e.isStreamEnd = true
      · rw [if_pos he] at hnext
        rw [toList_of_none hnext, if_pos he]
        rfl
      · rw [if_neg he] at hnext
        rw [toList_of_some hnext, toList_of_done, if_neg he]
        rfl
termination_by (r.pending ++ unread).length
decreasing_by simpa [after] using hshort

/-- The run over a source that delivers whole frames yields just these, and ends with the stream. -/
theorem toList_of_delivers {fs : List Frame} (hw : ∀ f ∈ fs, Writable f)
    (hm : ∀ f ∈ fs, FitsMemory f) {r : FrameReceiver} (ha : ∀ f ∈ fs, r.limits.Admits f)
    {unread : Bytes} (hs : r.source.Delivers unread) (h : r.pending ++ unread = fs.flatMap wire) :
    ∃ source, source.Delivers [] ∧
      r.frames.toList = (fs.map .ok, ⟨⟨source, [], r.limits⟩, true⟩) := by
  have hall : decodeEndAll r.limits (r.pending ++ unread) = ⟨fs, none, []⟩ := by
    have hd := decodes_wires hw hm ha []
    rw [List.append_nil, ← h] at hd
    exact decodeEndAll_of_decodes hd
  obtain ⟨source, pending, later, hsource, hrest, hrun⟩ := toList_eq_decodeEndAll hs
  rw [hall] at hrest hrun
  obtain ⟨rfl, rfl⟩ := List.append_eq_nil_iff.1 hrest
  refine ⟨source, hsource, hrun.trans ?_⟩
  simp

end FrameRun

end Pipework
