import Pipework.Proofs.Frame.Serving
import Pipework.Proofs.Frame.Stream

/-! A sender whose sink takes something of every write, sooner or later. However little each write
takes and however often it has to be tried again, the sink ends up with the wire forms of the frames
in order and nothing else. -/

namespace Pipework

namespace Sink

open SinkAnswer

variable {s t : Sink} {bs rest : Bytes} {e : IoError} {log : List SinkAnswer}

/-- Writes take at least one octet and flushes succeed, unless they fail for the moment. Only the
listed ones can fail, so each of them succeeds when it is tried often enough. -/
structure Willing (s : Sink) : Prop where
  write : ∀ r ∈ s.writeResults, (∃ n, r = .ok (n + 1)) ∨ ∃ e, r = .error e ∧ e.isTransient = true
  flush : ∀ r ∈ s.flushResults, r = .ok () ∨ ∃ e, r = .error e ∧ e.isTransient = true

theorem Willing.of_write (hs : s.Willing) {r : Except IoError ℕ} (h : s.write bs = (r, t)) :
    t.Willing := by
  unfold Sink.write at h
  split at h
  · obtain ⟨-, rfl⟩ := Prod.mk.inj h
    exact ⟨hs.write, hs.flush⟩
  all_goals
    rename_i hr
    obtain ⟨-, rfl⟩ := Prod.mk.inj h
    exact ⟨fun r hm => hs.write r (hr ▸ List.mem_cons_of_mem _ hm), hs.flush⟩

theorem Willing.of_flush (hs : s.Willing) {r : Except IoError Unit} (h : s.flush = (r, t)) :
    t.Willing := by
  unfold Sink.flush at h
  split at h
  · obtain ⟨-, rfl⟩ := Prod.mk.inj h
    exact ⟨hs.write, hs.flush⟩
  · rename_i hr
    obtain ⟨-, rfl⟩ := Prod.mk.inj h
    exact ⟨hs.write, fun r hm => hs.flush r (hr ▸ List.mem_cons_of_mem _ hm)⟩

theorem Willing.write_ne_zero (hs : s.Willing) (hne : bs ≠ []) : s.write bs ≠ (.ok 0, t) := by
  -- a write of nothing would make the sender give up
  have hpos : 0 < bs.length := List.length_pos_iff.2 hne
  intro h
  unfold Sink.write at h
  split at h
  · have hn := Except.ok.inj (Prod.mk.inj h).1
    omega
  · rename_i room later hr
    have hn := Except.ok.inj (Prod.mk.inj h).1
    rcases hs.write (.ok room) (hr ▸ List.mem_cons_self) with ⟨n, hroom⟩ | ⟨e, he, -⟩
    · have hroom := Except.ok.inj hroom
      omega
    · cases he
  · cases (Prod.mk.inj h).1

theorem Willing.transient_of_write (hs : s.Willing) (h : s.write bs = (.error e, t)) :
    e.isTransient = true := by
  unfold Sink.write at h
  split at h
  · cases h
  · cases h
  · rename_i cause later hr
    obtain ⟨he, -⟩ := Prod.mk.inj h
    rcases hs.write (.error cause) (hr ▸ List.mem_cons_self) with ⟨n, hn⟩ | ⟨c, hc, htr⟩
    · cases hn
    · rwa [← Except.error.inj he, Except.error.inj hc]

theorem Willing.transient_of_flush (hs : s.Willing) (h : s.flush = (.error e, t)) :
    e.isTransient = true := by
  unfold Sink.flush at h
  split at h
  · cases h
  · rename_i r later hr
    obtain ⟨he, -⟩ := Prod.mk.inj h
    rcases hs.flush r (hr ▸ List.mem_cons_self) with hn | ⟨c, hc, htr⟩
    · rw [hn] at he
      cases he
    · rw [hc] at he
      rwa [← Except.error.inj he]

/-- No answer of a willing sink ends a call. -/
theorem Willing.verdict_of_serves (hs : s.Willing) (h : s.Serves bs log t rest) :
    verdict log = .ok () ∧ t.Willing := by
  induction h with
  | idle => exact ⟨rfl, hs⟩
  | @took s t u bs rest n log hne hw _ ih =>
    cases n with
    | zero => exact absurd hw (hs.write_ne_zero hne)
    | succ n =>
      rw [verdict_took_cons]
      exact ih (hs.of_write hw)
  | refused hne hw _ ih =>
    rw [verdict_failed_cons (hs.transient_of_write hw)]
    exact ih (hs.of_write hw)
  | flushed hf _ ih =>
    rw [verdict_flushed_cons]
    exact ih (hs.of_flush hf)
  | unflushed hf _ ih =>
    rw [verdict_failed_cons (hs.transient_of_flush hf)]
    exact ih (hs.of_flush hf)

end Sink

namespace FrameSender

open Pipework.Frame

theorem writeFrame_of_willing {w : FrameSender} (hs : w.sink.Willing) {f : Frame}
    (hf : f.accepted = true) : ∃ t, t.Willing ∧ t.taken = w.sink.taken ++ f.wire ∧
      w.writeFrame f = (.ok (), ⟨t, w.sent + 1⟩) := by
  have hcheck : f.encode = .ok f.wire := encode_eq_ok_iff.2 ⟨accepted_iff.1 hf, rfl⟩
  obtain ⟨log, rest, hserves, hsent, hanswer, hok⟩ := serves_of_writeFrame w hcheck
  obtain ⟨hverdict, hafter⟩ := hs.verdict_of_serves hserves
  have hanswer : (w.writeFrame f).1 = .ok () := hanswer.trans hverdict
  -- a call that succeeds leaves nothing of the frame behind
  obtain ⟨rfl, -⟩ := hok.1 hanswer
  obtain ⟨part, hpart, htaken⟩ := hserves.exists_part
  rw [List.append_nil] at hpart
  refine ⟨(w.writeFrame f).2.sink, hafter, hpart ▸ htaken, ?_⟩
  exact Prod.ext hanswer (congrArg (FrameSender.mk _) hsent)

/-- Sends frames one after the other: all answers, and the sender afterwards. -/
def writeAll (w : FrameSender) : List Frame → List (Except FrameError Unit) × FrameSender
  | [] => ([], w)
  | f :: fs =>
    let (answer, w) := w.writeFrame f
    let (answers, w) := w.writeAll fs
    (answer :: answers, w)

/-- A willing sink takes the wire forms of all frames, and each of them counts as sent. -/
theorem writeAll_of_willing {fs : List Frame} (hf : ∀ f ∈ fs, f.accepted = true)
    {w : FrameSender} (hs : w.sink.Willing) : ∃ t, t.taken = w.sink.taken ++ fs.flatMap wire ∧
      w.writeAll fs = (fs.map fun _ => .ok (), ⟨t, w.sent + fs.length⟩) := by
  induction fs generalizing w with
  | nil => exact ⟨w.sink, by simp, rfl⟩
  | cons f fs ih =>
    obtain ⟨hhead, htail⟩ := List.forall_mem_cons.1 hf
    obtain ⟨s, hs, hsent, hwrite⟩ := writeFrame_of_willing hs hhead
    obtain ⟨t, htaken, hwrites⟩ := ih htail (w := ⟨s, w.sent + 1⟩) hs
    refine ⟨t, ?_, ?_⟩
    · rw [htaken, hsent, List.flatMap_cons, List.append_assoc]
    · simp only [writeAll, hwrite, hwrites, List.map_cons, List.length_cons, Nat.add_assoc,
        Nat.add_comm 1]

end FrameSender

end Pipework
