import Pipework.Proofs.Frame.Sending

/-! What a sink takes of a frame when anything can fail: the first octets of the wire form, each of
them once. -/

namespace Pipework.FrameSender

open Pipework.Frame SinkAnswer

/-- The octets that the sink takes during each of several calls. -/
def shares (w : FrameSender) : List Frame → List Bytes
  | [] => []
  | f :: fs =>
    (w.writeFrame f).2.sink.taken.drop w.sink.taken.length :: (w.writeFrame f).2.shares fs

theorem sent_writeFrame (w : FrameSender) (f : Frame) : ∃ part,
    (w.writeFrame f).2.sink.taken = w.sink.taken ++ part ∧
    (w.writeFrame f).2.sent =
      if f.encode.toOption = some part then w.sent + 1 else w.sent := by
  cases h : f.encode with
  | error e =>
    rw [writeFrame_of_rejected w h]
    exact ⟨[], (List.append_nil _).symm, rfl⟩
  | ok octets =>
    obtain ⟨log, rest, hserves, hsent, -⟩ := serves_of_writeFrame w h
    obtain ⟨part, rfl, htaken⟩ := hserves.exists_part
    refine ⟨part, htaken, hsent.trans ?_⟩
    simp [Except.toOption]

theorem sent_writeAll (w : FrameSender) (fs : List Frame) :
    (w.writeAll fs).2.sink.taken = w.sink.taken ++ (w.shares fs).flatten ∧
    (w.writeAll fs).2.sent = w.sent +
      (fs.zip (w.shares fs)).countP fun (f, part) => f.encode.toOption = some part := by
  induction fs generalizing w with
  | nil => exact ⟨(List.append_nil _).symm, rfl⟩
  | cons f fs ih =>
    obtain ⟨part, htaken, hsent⟩ := sent_writeFrame w f
    obtain ⟨hlater, hcount⟩ := ih (w.writeFrame f).2
    have hshare : (w.writeFrame f).2.sink.taken.drop w.sink.taken.length = part := by
      rw [htaken, List.drop_left]
    constructor
    · calc (w.writeAll (f :: fs)).2.sink.taken
          = w.sink.taken ++ part ++ ((w.writeFrame f).2.shares fs).flatten := by
            rw [← htaken, ← hlater]
            rfl
        _ = w.sink.taken ++ (w.shares (f :: fs)).flatten := by
            rw [shares, hshare, List.flatten_cons, List.append_assoc]
    · have hstep : (w.writeAll (f :: fs)).2.sent = (w.writeFrame f).2.sent +
          (fs.zip ((w.writeFrame f).2.shares fs)).countP
            fun (f, part) => f.encode.toOption = some part := hcount
      rw [hstep, hsent, shares, hshare, List.zip_cons_cons, List.countP_cons]
      by_cases hfull : f.encode.toOption = some part
      · simp only [hfull, if_true, decide_true]
        omega
      · simp only [hfull, if_false, decide_false, Bool.false_eq_true, Nat.add_zero]

/-- Whatever the sink takes of each write and however its operations fail, a sender sends a clean
beginning of each frame. A frame that is refused changes nothing at all. Of another one the sink
takes the first octets, each of them once; the frame counts as sent just if these are all. The call
succeeds if all octets were taken and a flush succeeded after that; otherwise it says that the other
side is gone, after a write that took nothing, or gives the first failure that is not to be tried
again. So the counter is the number of calls whose frames were taken in full. -/
theorem clean_prefix_sent (w : FrameSender) :
    (∀ f e, f.encode = .error e → w.writeFrame f = (.error e, w)) ∧
    (∀ f octets, f.encode = .ok octets →
      let answer := (w.writeFrame f).1
      let after := (w.writeFrame f).2
      ∃ log part rest, octets = part ++ rest ∧ after.sink.taken = w.sink.taken ++ part ∧
        w.sink.Serves octets log after.sink rest ∧
        after.sent = (if part = octets then w.sent + 1 else w.sent) ∧
        (answer = .ok () ↔ part = octets ∧ .flushed ∈ log) ∧
        ∀ e, answer = .error e → if .took 0 ∈ log then e = .connectionClosed
          else ∃ cause, log.findSome? fatal? = some cause ∧ e = .io cause) ∧
    ∀ fs, (w.writeAll fs).2.sink.taken = w.sink.taken ++ (w.shares fs).flatten ∧
      (w.writeAll fs).2.sent = w.sent +
        (fs.zip (w.shares fs)).countP fun (f, part) => f.encode.toOption = some part := by
  refine ⟨fun f e h => writeFrame_of_rejected w h, fun f octets h => ?_, sent_writeAll w⟩
  intro answer after
  obtain ⟨log, rest, hserves, hsent, hanswer, hok⟩ := serves_of_writeFrame w h
  obtain ⟨part, hsplit, htaken⟩ := hserves.exists_part
  -- nothing is left exactly if all octets were taken
  have hall : part = octets ↔ rest = [] := by
    rw [hsplit]
    simp
  refine ⟨log, part, rest, hsplit, htaken, hserves, ?_, ?_, fun e he => ?_⟩
  · rw [if_congr hall rfl rfl]
    exact hsent
  · rw [hall]
    exact hok
  · exact cause_of_verdict (hanswer.symm.trans he)

/-- A sink that is gone after twelve octets of the first frame and breaks down at the flush of the
second one, that is in full there already. The third frame is refused, and the fourth is cut off. -/
theorem clean_prefix_sent_through_failures :
    let f : Frame := { category := "a", subtype := "b", body := [33] }
    let bad := Frame.withExtension f "Type" "x"
    let sink : Sink := {
      writeResults := [.ok 5, .error (.os 4), .ok 7, .error (.os 11), .ok 0,
        .ok 20, .ok 100, .ok 9, .error (.os 32)]
      flushResults := [.error (.os 4), .error (.os 5)] }
    let w : FrameSender := { sink := sink }
    let fs := [f, f, bad, f, f]
    w.writeFrame bad = (.error (.reservedExtension "Type"), w) ∧
      (∃ rest, f.wire = f.wire.take 12 ++ rest ∧
        (w.writeFrame f).2.sink.taken = f.wire.take 12 ∧ (w.writeFrame f).2.sent = 0) ∧
      (w.writeAll fs).1 = [.error .connectionClosed, .error (.io (.os 5)),
        .error (.reservedExtension "Type"), .error (.io (.os 32)), .ok ()] ∧
      w.shares fs = [f.wire.take 12, f.wire, [], f.wire.take 9, f.wire] ∧
      (w.writeAll fs).2.sent = 2 := by
  intro f bad sink w fs
  obtain ⟨hrejected, haccepted, hall⟩ := clean_prefix_sent w
  have hbad : bad.encode = .error (.reservedExtension "Type") := by decide +kernel
  have hgood : f.encode = .ok f.wire := by decide +kernel
  have hshares : w.shares fs = [f.wire.take 12, f.wire, [], f.wire.take 9, f.wire] := by
    decide +kernel
  obtain ⟨log, part, rest, hsplit, htaken, -, hsent, -, -⟩ := haccepted f f.wire hgood
  have hpart : part = f.wire.take 12 := by
    rw [← List.nil_append part, ← htaken]
    decide +kernel
  refine ⟨hrejected bad _ hbad, ⟨rest, hpart ▸ hsplit, hpart ▸ htaken, ?_⟩, by decide +kernel,
    hshares, ?_⟩
  · rw [hsent, hpart]
    decide +kernel
  · rw [(hall fs).2, hshares]
    decide +kernel

end Pipework.FrameSender
