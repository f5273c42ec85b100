import Pipework.Proofs.Frame.Receiving
import Pipework.Proofs.Frame.Sending

/-! Frames on their way from a sender to a receiver. The sink may take the octets in pieces of any
size and the source may hand them on in others; the receiver gives out the frames that were sent. -/

namespace Pipework.Frame

/-- Accepted frames that are sent into a willing sink are all answered with success and counted, and
the sink takes their wire forms. A receiver to which these octets are delivered gives out the same
frames in order and ends with the stream. -/
theorem sent_frames_arrive {fs : List Frame} (hf : ∀ f ∈ fs, f.accepted = true)
    (hm : ∀ f ∈ fs, FitsMemory f) {limits : Limits} (ha : ∀ f ∈ fs, limits.Admits f)
    {sink : Sink} (hs : sink.Willing) :
    ∃ last : Sink, last.taken = sink.taken ++ fs.flatMap wire ∧
      FrameSender.writeAll { sink := sink } fs =
        (fs.map fun _ => .ok (), { sink := last, sent := fs.length }) ∧
      ∀ octets, last.taken = sink.taken ++ octets → ∀ source : Source, source.Delivers octets →
        ∃ rest : Source, rest.Delivers [] ∧
          (FrameReceiver.frames { source := source, limits := limits }).toList =
            (fs.map .ok, { reader := { source := rest, limits := limits }, done := true }) := by
  obtain ⟨last, htaken, hsend⟩ := FrameSender.writeAll_of_willing hf (w := { sink := sink }) hs
  refine ⟨last, htaken, ?_, ?_⟩
  · rw [hsend, Nat.zero_add]
  · intro octets ho source hd
    obtain rfl := List.append_cancel_left (ho.symm.trans htaken)
    exact FrameRun.toList_of_delivers (fun f hm => accepted_iff.1 (hf f hm)) hm ha hd
      (List.nil_append _)

/-- Two frames through a sink that takes one octet, is interrupted and would block, and through a
source that cuts the first header block and is interrupted there. -/
theorem sent_frames_arrive_in_pieces :
    let fs := [data "a.b" [13, 10, 13, 10], control "End" []]
    let sink : Sink := {
      writeResults := [.ok 1, .error (.plain .interrupted), .ok 40, .error (.plain .wouldBlock)]
      flushResults := [.error (.os 11)] }
    let octets := fs.flatMap wire
    let source : Source := {
      deliveries := [.octets (octets.take 5), .failure (.os 4), .octets (octets.drop 5)] }
    (∀ f ∈ fs, f.accepted = true) ∧ (∀ f ∈ fs, FitsMemory f) ∧
      (∀ f ∈ fs, Limits.Admits {} f) ∧ sink.Willing ∧ source.Delivers octets ∧
      (FrameSender.writeAll { sink := sink } fs).2.sent = 2 ∧
      (FrameReceiver.frames { source := source }).toList.1 = fs.map .ok := by
  intro fs sink octets source
  have hf : ∀ f ∈ fs, f.accepted = true := by decide +kernel
  have hm : ∀ f ∈ fs, FitsMemory f := by
    unfold FitsMemory
    decide +kernel
  have ha : ∀ f ∈ fs, Limits.Admits {} f := by
    intro f hf
    constructor <;> revert f <;> decide +kernel
  have hs : sink.Willing := by
    constructor
    · intro r hr
      simp only [sink, List.mem_cons, List.not_mem_nil, or_false] at hr
      rcases hr with rfl | rfl | rfl | rfl
      · exact Or.inl ⟨0, rfl⟩
      · exact Or.inr ⟨_, rfl, by decide⟩
      · exact Or.inl ⟨39, rfl⟩
      · exact Or.inr ⟨_, rfl, by decide⟩
    · intro r hr
      obtain rfl := List.mem_singleton.1 hr
      exact Or.inr ⟨_, rfl, by decide⟩
  have hd : source.Delivers octets := by
    obtain ⟨b, more, hfront⟩ := List.exists_cons_of_ne_nil
      (by decide +kernel : octets.take 5 ≠ [])
    obtain ⟨c, cs, hback⟩ := List.exists_cons_of_ne_nil (by decide +kernel : octets.drop 5 ≠ [])
    constructor
    · intro d hd
      simp only [source, List.mem_cons, List.not_mem_nil, or_false] at hd
      rcases hd with rfl | rfl | rfl
      · exact Or.inl ⟨b, more, congrArg Delivery.octets hfront⟩
      · exact Or.inr ⟨_, rfl, by decide⟩
      · exact Or.inl ⟨c, cs, congrArg Delivery.octets hback⟩
    · exact List.take_append_drop 5 octets
  obtain ⟨last, htaken, hsend, harrive⟩ := sent_frames_arrive hf hm ha hs
  obtain ⟨rest, -, hrun⟩ := harrive octets htaken source hd
  exact ⟨hf, hm, ha, hs, hd, by rw [hsend]; rfl, by rw [hrun]⟩

end Pipework.Frame
