import Pipework.Proofs.Frame.Conservation

/-! A call for a frame taken apart into rounds. In each round the receiver looks at the octets at
hand, and if they are too few it makes one reading operation. Calls are made of rounds, so what
holds after every round holds at every moment of a run. That way the octets at hand are bounded,
whatever the stream says. -/

namespace Pipework

namespace Source

variable {s t : Source} {bs : Bytes} {cause : IoError}

/-- The octets that the next reading operation yields. A failure yields none. -/
def nextOctets (s : Source) : Bytes := s.read.1.toOption.getD []

/-- Can reading go on after the next operation? It can after some octets and after an
interruption. -/
def goesOn (s : Source) : Bool :=
  match s.read.1 with
  | .ok bs => !bs.isEmpty
  | .error cause => cause.kind = .interrupted

theorem length_nextOctets_le (s : Source) : s.nextOctets.length ≤ readRoom := by
  unfold nextOctets read
  split
  · exact Nat.zero_le _
  · exact Nat.zero_le _
  · split
    · exact List.length_take_le _ _
    · rename_i hroom
      exact Nat.not_lt.1 hroom

theorem nextOctets_of_ok (h : s.read.1 = .ok bs) : s.nextOctets = bs := by
  rw [nextOctets, h]
  rfl

theorem nextOctets_of_error (h : s.read.1 = .error cause) : s.nextOctets = [] := by
  rw [nextOctets, h]
  rfl

theorem nextOctets_of_not_goesOn (h : s.goesOn = false) : s.nextOctets = [] := by
  unfold goesOn at h
  cases hr : s.read.1 with
  | error cause => exact nextOctets_of_error hr
  | ok bs =>
    have hnil : bs = [] := by simpa [hr] using h
    rw [nextOctets_of_ok hr, hnil]

theorem size_read_lt (h : s.goesOn = true) : s.read.2.size < s.size := by
  unfold goesOn at h
  cases hr : s.read with
  | mk result t =>
    rw [hr] at h
    cases result with
    | error cause => exact size_read_lt_of_error hr
    | ok bs =>
      have hne : bs ≠ [] := by simpa using h
      have hpos := List.length_pos_of_ne_nil hne
      have hle := size_read_add_le hr
      change t.size < s.size
      omega

theorem fill_of_ok (h : s.read = (.ok bs, t)) : s.fill = (.ok bs, t) := by
  rw [fill]
  split <;> rename_i hr <;> cases hr.symm.trans h
  rfl

theorem fill_of_error (h : s.read = (.error cause, t)) :
    s.fill = if cause.kind = .interrupted then t.fill else (.error cause, t) := by
  rw [fill]
  split <;> rename_i hr <;> cases hr.symm.trans h
  rfl

end Source

namespace FrameReceiver

open Pipework.Frame

variable {r : FrameReceiver}

/-- The receiver after one reading operation, with what that has yielded at hand. -/
def afterRead (r : FrameReceiver) : FrameReceiver where
  source := r.source.read.2
  pending := r.pending ++ r.source.nextOctets
  limits := r.limits

theorem afterRead_of_nil (h : r.source.nextOctets = []) :
    r.afterRead = { r with source := r.source.read.2 } := by
  rw [afterRead, h, List.append_nil]

/-- One round of a call. It gives the answer of the call, or none if the call goes on. -/
def round (r : FrameReceiver) : Option (Except FrameError Frame) × FrameReceiver :=
  match decode r.limits r.pending with
  | .error e => (some (.error e), r)
  | .ok (some (f, rest)) => (some (.ok f), { r with pending := rest })
  | .ok none =>
    match r.source.read.1 with
    | .ok [] => (some r.afterRead.finish.1, r.afterRead.finish.2)
    | .ok (_ :: _) => (none, r.afterRead)
    | .error cause =>
      (if cause.kind = .interrupted then none else some (.error (.io cause)), r.afterRead)

theorem round_of_error {e : FrameError} (h : decode r.limits r.pending = .error e) :
    r.round = (some (.error e), r) := by
  rw [round, h]

theorem round_of_frame {f : Frame} {rest : Bytes}
    (h : decode r.limits r.pending = .ok (some (f, rest))) :
    r.round = (some (.ok f), { r with pending := rest }) := by
  rw [round, h]

/-- A stream that ends before a frame is complete gives no frame, and what is at hand stays. -/
theorem finish_of_none (h : decode r.limits r.pending = .ok none) :
    ∃ e, r.finish = (.error e, r) := by
  unfold finish
  cases hl : decodeLast r.limits r.pending with
  | error e => exact ⟨e, rfl⟩
  | ok taken =>
    obtain ⟨f, rest⟩ := taken
    cases h.symm.trans (decodeLast_eq_ok_iff.1 hl)

/-- All that a round can do. If a frame or an error is at hand, it reads nothing and takes at most
that frame. Else it makes one reading operation; the call goes on as long as reading can, and ends
with an error if it cannot. -/
theorem round_cases (r : FrameReceiver) :
    (decode r.limits r.pending ≠ .ok none ∧ ∃ answer rest, rest.length ≤ r.pending.length ∧
      r.round = (some answer, { r with pending := rest })) ∨
    (decode r.limits r.pending = .ok none ∧ r.source.goesOn = true ∧
      r.round = (none, r.afterRead)) ∨
    decode r.limits r.pending = .ok none ∧ r.source.goesOn = false ∧
      ∃ e, r.round = (some (.error e), r.afterRead) := by
  cases hd : decode r.limits r.pending with
  | error e => exact Or.inl ⟨nofun, _, r.pending, le_rfl, round_of_error hd⟩
  | ok taken =>
    cases taken with
    | some p =>
      obtain ⟨f, rest⟩ := p
      have hlt := length_lt_of_decode hd
      exact Or.inl ⟨nofun, _, rest, hlt.le, round_of_frame hd⟩
    | none =>
      right
      rw [round, hd]
      unfold Source.goesOn
      cases hr : r.source.read.1 with
      | error cause =>
        by_cases hk : cause.kind = .interrupted
        · simp [hk]
        · simp [hk]
      | ok bs =>
        cases bs with
        | cons b bs => simp
        | nil =>
          -- nothing came, so the octets at hand still hold no frame
          have hlast := afterRead_of_nil (Source.nextOctets_of_ok hr)
          obtain ⟨e, he⟩ := finish_of_none (r := r.afterRead) (hlast ▸ hd)
          simp [he]

theorem readFrame_of_none (h : decode r.limits r.pending = .ok none) : r.readFrame =
    match r.source.fill with
    | (.error cause, source) => (.error (.io cause), { r with source := source })
    | (.ok [], source) => finish { r with source := source }
    | (.ok (b :: bs), source) =>
      readFrame { r with source := source, pending := r.pending ++ b :: bs } := by
  rw [readFrame, h]
  dsimp only
  split <;> rename_i hf <;> rw [hf]

/-- A call is its first round, and the rest of the call if that gives no answer. -/
theorem readFrame_eq_round (r : FrameReceiver) : r.readFrame =
    match r.round with
    | (some answer, last) => (answer, last)
    | (none, next) => next.readFrame := by
  cases hd : decode r.limits r.pending with
  | error e => rw [round_of_error hd, readFrame, hd]
  | ok taken =>
    cases taken with
    | some p => rw [round_of_frame hd, readFrame, hd]
    | none =>
      rw [readFrame_of_none hd, round, hd]
      cases hr : r.source.read with
      | mk result t =>
        cases result with
        | ok bs =>
          rw [Source.fill_of_ok hr]
          cases bs with
          | cons b bs =>
            have hnext : r.afterRead = ⟨t, r.pending ++ b :: bs, r.limits⟩ := by
              rw [afterRead, Source.nextOctets_of_ok (by rw [hr]), hr]
            simp only [hnext]
          | nil =>
            have hlast : r.afterRead = { r with source := t } := by
              rw [afterRead_of_nil (Source.nextOctets_of_ok (by rw [hr])), hr]
            simp only [hlast]
        | error cause =>
          have hnext : r.afterRead = { r with source := t } := by
            rw [afterRead_of_nil (Source.nextOctets_of_error (by rw [hr])), hr]
          rw [Source.fill_of_error hr]
          by_cases hk : cause.kind = .interrupted
          · -- the octets at hand are the same, so looking at them again finds nothing new
            simp only [hk, hnext, if_true]
            exact (readFrame_of_none (r := { r with source := t }) hd).symm
          · simp only [hk, hnext, if_false]

/-- Induction over the rounds of a call, from the last one. -/
theorem induction_on_rounds {P : FrameReceiver → Prop}
    (last : ∀ r answer next, r.round = (some answer, next) → P r)
    (more : ∀ r, decode r.limits r.pending = .ok none → r.source.goesOn = true →
      r.round = (none, r.afterRead) → P r.afterRead → P r)
    (r : FrameReceiver) : P r := by
  -- a call goes on only if the operation has made the source smaller
  induction hn : r.source.size using Nat.strong_induction_on generalizing r with
  | _ n ih =>
    rcases round_cases r with ⟨-, answer, rest, -, hr⟩ | ⟨hd, hgo, hr⟩ | ⟨-, -, e, hr⟩
    · exact last r answer _ hr
    · exact more r hd hgo hr (ih _ (hn ▸ Source.size_read_lt hgo) r.afterRead rfl)
    · exact last r _ _ hr

/-- The receiver after some rounds, of one call or of several. -/
def rounds (r : FrameReceiver) : ℕ → FrameReceiver
  | 0 => r
  | n + 1 => (r.rounds n).round.2

theorem rounds_succ (r : FrameReceiver) (n : ℕ) : r.rounds (n + 1) = r.round.2.rounds n := by
  induction n with
  | zero => rfl
  | succ n ih => rw [rounds, ih, rounds]

/-- A call is made of rounds, of which the last one gives its answer. -/
theorem readFrame_eq_rounds (r : FrameReceiver) : ∃ n, (∀ k < n, (r.rounds k).round.1 = none) ∧
    (r.rounds n).round = (some r.readFrame.1, r.readFrame.2) := by
  induction r using induction_on_rounds with
  | last r answer next h =>
    refine ⟨0, fun k hk => absurd hk (Nat.not_lt_zero k), ?_⟩
    rw [rounds, readFrame_eq_round, h]
  | more r hd hgo h ih =>
    obtain ⟨n, hnone, hlast⟩ := ih
    have hrest (k : ℕ) : r.rounds (k + 1) = r.afterRead.rounds k := by
      rw [rounds_succ, h]
    refine ⟨n + 1, fun k hk => ?_, ?_⟩
    · cases k with
      | zero => rw [rounds, h]
      | succ k =>
        rw [hrest]
        exact hnone k (Nat.lt_of_succ_lt_succ hk)
    · rw [hrest, readFrame_eq_round r, h]
      exact hlast

/-- The octets at hand are not more than a whole frame within the limits and one reading operation
can come to. -/
def WithinBounds (r : FrameReceiver) : Prop :=
  r.pending.length ≤ r.limits.maxHeader + r.limits.maxBody + readRoom

theorem limits_round (r : FrameReceiver) : r.round.2.limits = r.limits := by
  rcases round_cases r with ⟨-, answer, rest, -, hr⟩ | ⟨-, -, hr⟩ | ⟨-, -, e, hr⟩ <;>
    rw [hr] <;> rfl

/-- A round reads only while what is at hand is within the limits of a frame. -/
theorem WithinBounds.round (h : r.WithinBounds) : r.round.2.WithinBounds := by
  have hread (hd : decode r.limits r.pending = .ok none) : r.afterRead.WithinBounds := by
    have hpending := length_le_of_decode_none hd
    have hoctets := r.source.length_nextOctets_le
    calc r.afterRead.pending.length
        = r.pending.length + r.source.nextOctets.length := List.length_append
      _ ≤ r.limits.maxHeader + r.limits.maxBody + readRoom := Nat.add_le_add hpending hoctets
  rcases round_cases r with ⟨-, answer, rest, hle, hr⟩ | ⟨hd, -, hr⟩ | ⟨hd, -, e, hr⟩
  · rw [hr]
    exact hle.trans h
  · rw [hr]
    exact hread hd
  · rw [hr]
    exact hread hd

theorem WithinBounds.rounds (h : r.WithinBounds) (n : ℕ) : (r.rounds n).WithinBounds := by
  induction n with
  | zero => exact h
  | succ n ih => exact ih.round

theorem limits_rounds (r : FrameReceiver) (n : ℕ) : (r.rounds n).limits = r.limits := by
  induction n with
  | zero => rfl
  | succ n ih => exact (limits_round _).trans ih

theorem WithinBounds.readFrame (h : r.WithinBounds) : r.readFrame.2.WithinBounds := by
  obtain ⟨n, -, hlast⟩ := readFrame_eq_rounds r
  have hround := (h.rounds n).round
  rwa [hlast] at hround

theorem WithinBounds.readFrames (h : r.WithinBounds) (n : ℕ) :
    (r.readFrames n).2.WithinBounds := by
  induction n with
  | zero => exact h
  | succ n ih =>
    rw [readFrames_succ]
    exact ih.readFrame

/-- However a stream is delivered and whatever it says, at any moment of any number of calls the
octets at hand are at most those of a whole frame within the limits and of one reading operation
more. The moments of a call are those between its rounds. -/
theorem pending_bounded (limits : Limits) (source : Source) (calls : ℕ) :
    let fresh : FrameReceiver := { source := source, limits := limits }
    let r := (fresh.readFrames calls).2
    (∃ n, (∀ k < n, (r.rounds k).round.1 = none) ∧
      (r.rounds n).round = (some r.readFrame.1, r.readFrame.2)) ∧
    ∀ n, (r.rounds n).pending.length ≤ limits.maxHeader + limits.maxBody + 8192 := by
  intro fresh r
  have hfresh : fresh.WithinBounds := Nat.zero_le _
  have hlimits : r.limits = limits := limits_readFrames fresh calls
  refine ⟨readFrame_eq_rounds r, fun n => ?_⟩
  have hbound : (r.rounds n).WithinBounds := (hfresh.readFrames calls).rounds n
  rwa [WithinBounds, limits_rounds, hlimits] at hbound

end FrameReceiver

end Pipework
