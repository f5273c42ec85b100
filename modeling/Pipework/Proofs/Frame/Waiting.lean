import Mathlib.Order.Bounds.Defs
import Pipework.Proofs.Frame.Rounds

/-! A receiver never waits for more than it needs. A call makes the fewest reading operations after
which the octets at hand hold a frame or an error, or after which reading cannot go on. In a stream
that stays open but is silent behind a frame, that frame is given out. -/

namespace Pipework

namespace Source

/-- The source after a number of reading operations. -/
def after (s : Source) : ℕ → Source
  | 0 => s
  | n + 1 => s.read.2.after n

/-- The octets that a number of reading operations yield together. -/
def yielded (s : Source) : ℕ → Bytes
  | 0 => []
  | n + 1 => s.nextOctets ++ s.read.2.yielded n

theorem reads_read (s : Source) : s.read.2.reads = s.reads + 1 := by
  unfold read
  split
  · rfl
  · rfl
  · split <;> rfl

theorem reads_after (s : Source) (n : ℕ) : (s.after n).reads = s.reads + n := by
  induction n generalizing s with
  | zero => rfl
  | succ n ih =>
    rw [after, ih, reads_read]
    omega

theorem yielded_add (s : Source) (m n : ℕ) :
    s.yielded (m + n) = s.yielded m ++ (s.after m).yielded n := by
  induction m generalizing s with
  | zero =>
    rw [Nat.zero_add]
    rfl
  | succ m ih => rw [Nat.succ_add, yielded, ih, yielded, after, List.append_assoc]

end Source

namespace FrameReceiver

open Pipework.Frame

variable {r : FrameReceiver} {n : ℕ}

/-- What is at hand once a number of reading operations have been made. -/
def atHand (r : FrameReceiver) (n : ℕ) : Bytes := r.pending ++ r.source.yielded n

/-- May a call stop after this number of reading operations? It may if the octets at hand hold a
frame or an error, and if the last operation has met the end of the stream or a failure. -/
def MayStop (r : FrameReceiver) (n : ℕ) : Prop :=
  decode r.limits (r.atHand n) ≠ .ok none ∨
    ∃ k, n = k + 1 ∧ (r.source.after k).goesOn = false

/-- A call makes so many reading operations, and not one more or less: they are the fewest after
which it may stop. It takes a frame that is at hand then, and nothing else. -/
structure EndsAfter (r : FrameReceiver) (n : ℕ) : Prop where
  least : IsLeast {k | r.MayStop k} n
  bounded : n ≤ r.source.size + 1
  source : r.readFrame.2.source = r.source.after n
  frame : ∀ f rest, decode r.limits (r.atHand n) = .ok (some (f, rest)) →
    r.readFrame.1 = .ok f ∧ r.readFrame.2.pending = rest
  error : ∀ e, decode r.limits (r.atHand n) = .error e →
    r.readFrame.1 = .error e ∧ r.readFrame.2.pending = r.atHand n
  short : decode r.limits (r.atHand n) = .ok none →
    (∃ e, r.readFrame.1 = .error e) ∧ r.readFrame.2.pending = r.atHand n

theorem atHand_zero (r : FrameReceiver) : r.atHand 0 = r.pending := List.append_nil _

theorem atHand_succ (r : FrameReceiver) (n : ℕ) : r.atHand (n + 1) = r.afterRead.atHand n :=
  (List.append_assoc _ _ _).symm

theorem atHand_add (r : FrameReceiver) (m n : ℕ) :
    r.atHand (m + n) = r.atHand m ++ (r.source.after m).yielded n := by
  rw [atHand, Source.yielded_add, ← List.append_assoc]
  rfl

theorem mayStop_zero : r.MayStop 0 ↔ decode r.limits r.pending ≠ .ok none := by
  rw [MayStop, atHand_zero]
  refine or_iff_left ?_
  rintro ⟨k, hk, -⟩
  cases hk

theorem mayStop_succ (hgo : r.source.goesOn = true) :
    r.MayStop (n + 1) ↔ r.afterRead.MayStop n := by
  rw [MayStop, MayStop, atHand_succ]
  refine or_congr_right ⟨?_, ?_⟩
  · rintro ⟨k, hk, hstop⟩
    obtain rfl := Nat.succ.inj hk
    cases n with
    | zero => cases hgo.symm.trans hstop
    | succ k => exact ⟨k, rfl, hstop⟩
  · rintro ⟨k, rfl, hstop⟩
    exact ⟨k + 1, rfl, hstop⟩

/-- While the octets at hand hold a frame or an error, a call reads nothing. -/
theorem endsAfter_zero (hd : decode r.limits r.pending ≠ .ok none) : r.EndsAfter 0 := by
  have hleast : IsLeast {k | r.MayStop k} 0 := ⟨mayStop_zero.2 hd, fun k _ => Nat.zero_le k⟩
  cases hp : decode r.limits r.pending with
  | error e =>
    have hcall : r.readFrame = (.error e, r) := by rw [readFrame_eq_round, round_of_error hp]
    rw [← atHand_zero] at hp
    refine ⟨hleast, Nat.zero_le _, by rw [hcall]; rfl, fun f rest h => ?_, fun e' h => ?_,
      fun h => ?_⟩
    · cases hp.symm.trans h
    · cases hp.symm.trans h
      exact ⟨by rw [hcall], by rw [hcall, atHand_zero]⟩
    · cases hp.symm.trans h
  | ok taken =>
    cases taken with
    | none => exact absurd hp hd
    | some p =>
      obtain ⟨f, rest⟩ := p
      have hcall : r.readFrame = (.ok f, { r with pending := rest }) := by
        rw [readFrame_eq_round, round_of_frame hp]
      rw [← atHand_zero] at hp
      refine ⟨hleast, Nat.zero_le _, by rw [hcall]; rfl, fun f' rest' h => ?_, fun e h => ?_,
        fun h => ?_⟩
      · cases hp.symm.trans h
        exact ⟨by rw [hcall], by rw [hcall]⟩
      · cases hp.symm.trans h
      · cases hp.symm.trans h

/-- If reading cannot go on, a call ends with the operation that shows it. -/
theorem endsAfter_one (hd : decode r.limits r.pending = .ok none)
    (hgo : r.source.goesOn = false) : r.EndsAfter 1 := by
  have hnot : ¬r.MayStop 0 := fun h => mayStop_zero.1 h hd
  have hsame : r.atHand 1 = r.pending := by
    rw [atHand_succ, atHand_zero, afterRead_of_nil (Source.nextOctets_of_not_goesOn hgo)]
  obtain ⟨e, hcall⟩ : ∃ e, r.readFrame = (.error e, r.afterRead) := by
    rcases round_cases r with ⟨hne, -⟩ | ⟨-, hgo', -⟩ | ⟨-, -, e, he⟩
    · exact absurd hd hne
    · cases hgo.symm.trans hgo'
    · exact ⟨e, by rw [readFrame_eq_round, he]⟩
  have hpending : r.readFrame.2.pending = r.atHand 1 := by
    rw [hcall, atHand_succ, atHand_zero]
  refine ⟨⟨Or.inr ⟨0, rfl, hgo⟩, fun k hk => ?_⟩, Nat.le_add_left _ _, by rw [hcall]; rfl,
    fun f rest h => ?_, fun e' h => ?_, fun _ => ⟨⟨e, by rw [hcall]⟩, hpending⟩⟩
  · exact Nat.one_le_iff_ne_zero.2 fun hzero => hnot (hzero ▸ hk)
  · cases hd.symm.trans (hsame ▸ h)
  · cases hd.symm.trans (hsame ▸ h)

/-- A round that only reads counts for one operation more. -/
theorem EndsAfter.succ (hd : decode r.limits r.pending = .ok none) (hgo : r.source.goesOn = true)
    (hround : r.round = (none, r.afterRead)) (h : r.afterRead.EndsAfter n) :
    r.EndsAfter (n + 1) := by
  have hcall : r.readFrame = r.afterRead.readFrame := by rw [readFrame_eq_round, hround]
  refine ⟨⟨(mayStop_succ hgo).2 h.least.1, fun k hk => ?_⟩, ?_, ?_, ?_, ?_, ?_⟩
  · cases k with
    | zero => exact absurd hd (mayStop_zero.1 hk)
    | succ k => exact Nat.succ_le_succ (h.least.2 ((mayStop_succ hgo).1 hk))
  · have hsize : r.afterRead.source.size < r.source.size := Source.size_read_lt hgo
    have hbound := h.bounded
    omega
  · rw [hcall]
    exact h.source
  all_goals
    rw [hcall, atHand_succ]
  · exact h.frame
  · exact h.error
  · exact h.short

theorem exists_endsAfter (r : FrameReceiver) : ∃ n, r.EndsAfter n := by
  induction r using induction_on_rounds with
  | last r answer next h =>
    rcases round_cases r with ⟨hd, -⟩ | ⟨-, -, hr⟩ | ⟨hd, hgo, -⟩
    · exact ⟨0, endsAfter_zero hd⟩
    · cases h.symm.trans hr
    · exact ⟨1, endsAfter_one hd hgo⟩
  | more r hd hgo hr ih =>
    obtain ⟨n, hn⟩ := ih
    exact ⟨n + 1, hn.succ hd hgo hr⟩

/-- A frame that is complete after some reading operations is the answer of the call. -/
theorem EndsAfter.readFrame_eq (h : r.EndsAfter n) {k : ℕ} {f : Frame} {rest : Bytes}
    (hgo : ∀ j, j + 1 < k → (r.source.after j).goesOn = true)
    (hk : decode r.limits (r.atHand k) = .ok (some (f, rest))) :
    r.readFrame.1 = .ok f ∧ n ≤ k := by
  have hle : n ≤ k := h.least.2 (Or.inl (by rw [hk]; nofun))
  obtain ⟨m, rfl⟩ := Nat.exists_eq_add_of_le hle
  refine ⟨?_, hle⟩
  rw [atHand_add] at hk
  -- what was at hand when the call stopped is the front of those octets, so whatever the decoder
  -- found in it would be found in them
  cases hd : decode r.limits (r.atHand n) with
  | error e => cases hk.symm.trans (decode_append_of_error hd _)
  | ok taken =>
    cases taken with
    | some p =>
      cases hk.symm.trans (decode_append_of_frame hd _)
      exact (h.frame _ _ hd).1
    | none =>
      rcases h.least.1 with hne | ⟨j, rfl, hstop⟩
      · exact absurd hd hne
      · -- the operation that met the end of the stream is at most the last of them
        cases m with
        | zero =>
          rw [Source.yielded, List.append_nil, hd] at hk
          cases hk
        | succ m => cases hstop.symm.trans (hgo j (by omega))

/-- A call reads nothing while a frame or an error is at hand. Else it stops with the first reading
operation after which one is, or which meets the end of the stream or a failure; there is such an
operation in every stream. So a frame that some operations complete is given out without one
more. -/
theorem reads_no_further (r : FrameReceiver) :
    (decode r.limits r.pending ≠ .ok none → r.readFrame.2.source = r.source) ∧
    (∃ n, r.EndsAfter n ∧ r.readFrame.2.source.reads = r.source.reads + n) ∧
    ∀ k f rest, (∀ j, j + 1 < k → (r.source.after j).goesOn = true) →
      decode r.limits (r.atHand k) = .ok (some (f, rest)) →
      r.readFrame.1 = .ok f ∧ r.readFrame.2.source.reads ≤ r.source.reads + k := by
  obtain ⟨n, hn⟩ := exists_endsAfter r
  have hreads : r.readFrame.2.source.reads = r.source.reads + n := by
    rw [hn.source, Source.reads_after]
  refine ⟨fun hd => (endsAfter_zero hd).source, ⟨n, hn, hreads⟩, fun k f rest hgo hk => ?_⟩
  obtain ⟨hanswer, hle⟩ := hn.readFrame_eq hgo hk
  exact ⟨hanswer, by omega⟩

/-- A frame without a body in two pieces, between them an interruption, and behind it the start of
another one. The third operation completes it, so there is no fourth one; and while it is at hand
there is none at all. -/
theorem reads_no_further_in_pieces :
    let later := Text.toBytes "Ty"
    let source : Source := ⟨[.octets (Text.toBytes "Type: a.b\r\nContent-Len"), .failure (.os 4),
      .octets (Text.toBytes "gth: 0\r\n\r\n" ++ later), .octets (Text.toBytes "pe")], 0⟩
    let r : FrameReceiver := { source := source }
    let whole : FrameReceiver := { r with pending := r.atHand 3 }
    let f : Frame := { category := "a", subtype := "b", body := [] }
    (∀ j, j + 1 < 3 → (source.after j).goesOn = true) ∧
    decode {} (r.atHand 3) = .ok (some (f, later)) ∧
    r.readFrame.1 = .ok f ∧ r.readFrame.2.source.reads ≤ 3 ∧
    decode {} whole.pending ≠ .ok none ∧ whole.readFrame.2.source = source := by
  intro later source r whole f
  have hgo : ∀ j, j + 1 < 3 → (source.after j).goesOn = true := by
    intro j hj
    match j, hj with
    | 0, _ => decide +kernel
    | 1, _ => decide +kernel
  have hthird : decode {} (r.atHand 3) = .ok (some (f, later)) := by decide +kernel
  have hwhole : decode {} whole.pending ≠ .ok none := by
    change decode {} (r.atHand 3) ≠ .ok none
    rw [hthird]
    nofun
  obtain ⟨-, -, hframe⟩ := reads_no_further r
  obtain ⟨hanswer, hreads⟩ := hframe 3 f later hgo hthird
  exact ⟨hgo, hthird, hanswer, hreads, hwhole, (reads_no_further whole).1 hwhole⟩

end FrameReceiver

end Pipework
