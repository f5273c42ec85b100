import Pipework.Proofs.Run.Acts
import Pipework.Run.OutputLog

/-! A tally is not complete before every process is. The acts of the run are the evidence: where
among them the notice of a process was taken, how long the tally waited for its streams and where
the process was counted, or where the tally had to give it up. -/

namespace Pipework

theorem Outcome.failure?_ne_lost (o : Outcome) : o.failure? ≠ some .lost := by
  cases o <;> simp [failure?]

/-- The mark of a stream. -/
def DrainMarks.mark (m : DrainMarks) : OutputStream → DrainMark
  | .stdout => m.stdout
  | .stderr => m.stderr

theorem DrainMark.become_ne_pending_iff (m next : DrainMark) :
    m.become next ≠ .pending ↔ m ≠ .pending ∨ next ≠ .pending := by
  unfold become
  by_cases hm : m = .pending <;> simp [hm]

namespace Tally

/-- Does the event say that a stream of the process is at its end? -/
def Event.ends (process : String) (stream : OutputStream) : Event → Bool
  | .stdoutDrained p => p == process && stream == .stdout
  | .stdoutDropped p => p == process && stream == .stdout
  | .stderrDrained p => p == process && stream == .stderr
  | .stderrDropped p => p == process && stream == .stderr
  | .marksDropped p => p == process
  | _ => false

/-- Among these acts, which lead from `a` to `c`, the notice is taken as the first one of its
process. It is taken in the state `b`, and nothing else is taken since. -/
inductive Waiting (a : Tally) (n : Notice) (b : Tally) : List Act → Tally → Prop
  | intro {before since b' c} (start : a.after? before = some b)
      (first : n.process ∉ (a.takenBy before).map (·.process)) (taken : b.taken? = some n)
      (step : b.step? = some b') (wait : b'.after? since = some c)
      (alone : b'.takenBy since = []) : Waiting a n b (before ++ .step :: since) c

/-- After these acts, in the state `c`, the process of the notice is waited for and both of its
streams are at their ends. For a process that was killed the time may be over instead. -/
inductive Due (a : Tally) (n : Notice) (acts : List Act) (c : Tally) : Prop
  | intro {b m} (waiting : Waiting a n b acts c) (marks : c.marks.get? n.process = some m)
      (drained : (∀ s, m.mark s ≠ .pending) ∨
        n.outcome = .timedOut ∧ b.clock + a.grace ≤ c.clock)

/-- One of these acts is the step that counts the process, by its first notice and when it is
due. -/
inductive Retired (a : Tally) (process : String) : List Act → Prop
  | intro {n before c} (due : Due a n before c) (own : n.process = process)
      (count : c.step? = some (c.count n)) (later : List Act) :
      Retired a process (before ++ .step :: later)

/-- One of these acts is the step that gives the process up, when nobody is left who could tell of
it and all that was told has been taken up. -/
inductive GivenUp (a : Tally) (process : String) : List Act → Prop
  | intro {before b} (start : a.after? before = some b)
      (unheard : process ∉ (a.takenBy before).map (·.process)) (closed : b.closed = true)
      (drained : b.queue = []) (step : b.step? = some b.giveUp) (later : List Act) :
      GivenUp a process (before ++ .step :: later)

section

variable {a b c d : Tally} {n : Notice} {p : String} {es : List Event} {ns : List Notice}
  {acts : List Act}

theorem Run.grace_eq (h : Run a es ns c) : c.grace = a.grace := by
  induction h with
  | start => rfl
  | event _ e ih =>
    obtain ⟨marks, clock, heq, -⟩ := apply_eq _ e
    rw [heq]
    exact ih
  | step _ hs ih =>
    obtain ⟨-, t, -, hstep⟩ := step_cases hs
    cases hstep with
    | count r _ _ =>
      obtain ⟨succeeded, failed, heq⟩ := count_eq _ r.notice
      rw [heq]
      exact ih
    | _ => exact ih

theorem get?_updateMarks (c : Tally) (process p : String) (f : DrainMarks → DrainMarks) :
    (c.updateMarks process f).marks.get? p =
      (c.marks.get? p).map (if process = p then f else id) := by
  unfold updateMarks
  split
  · rename_i m hm
    rw [NameMap.get?_insert]
    by_cases hp : p = process
    · rw [if_pos hp, hp, hm, if_pos rfl, Option.map_some]
    · rw [if_neg hp, if_neg (Ne.symm hp), Option.map_id_fun, id]
  · rename_i hm
    by_cases hp : process = p
    · rw [← hp, hm, Option.map_none]
    · rw [if_neg hp, Option.map_id_fun, id]

/-- An event changes the marks that it is about, and only from pending. -/
theorem get?_marks_apply (c : Tally) (e : Event) (p : String) :
    ∃ f, (c.apply e).marks.get? p = (c.marks.get? p).map f ∧
      ∀ m s, (f m).mark s ≠ .pending ↔ m.mark s ≠ .pending ∨ e.ends p s = true := by
  have hsame (h : (c.apply e).marks = c.marks) (he : ∀ s, e.ends p s = false) :
      ∃ f, (c.apply e).marks.get? p = (c.marks.get? p).map f ∧
        ∀ m s, (f m).mark s ≠ .pending ↔ m.mark s ≠ .pending ∨ e.ends p s = true := by
    refine ⟨id, ?_, fun m s => ?_⟩
    · rw [h, Option.map_id_fun, id]
    · simp [he]
  cases e with
  | notice n =>
    refine hsame ?_ fun _ => rfl
    by_cases hc : c.closed = true <;> simp [apply, hc]
  | timePasses ms => exact hsame rfl fun _ => rfl
  | closed => exact hsame rfl fun _ => rfl
  | stdoutDrained q | stdoutDropped q | stderrDrained q | stderrDropped q | marksDropped q =>
    refine ⟨_, get?_updateMarks c q p _, fun m s => ?_⟩
    by_cases hq : q = p <;> cases s <;>
      simp [hq, DrainMarks.mark, Event.ends, DrainMark.become_ne_pending_iff]

theorem step_marks_closed (hs : c.step? = some d) : d.marks = c.marks ∧ d.closed = c.closed := by
  obtain ⟨-, t, -, hstep⟩ := step_cases hs
  cases hstep with
  | count r _ _ =>
    obtain ⟨succeeded, failed, heq⟩ := count_eq c r.notice
    rw [heq]
    exact ⟨rfl, rfl⟩
  | _ => exact ⟨rfl, rfl⟩

theorem Waiting.event (h : Waiting a n b acts c) (e : Event) :
    Waiting a n b (acts ++ [.event e]) (c.apply e) := by
  obtain ⟨start, first, taken, step, wait, alone⟩ := h
  rw [List.append_assoc, List.cons_append]
  refine .intro start first taken step (after?_concat wait _) ?_
  rw [takenBy_concat wait, alone]
  rfl

theorem Retired.append (h : Retired a p acts) (more : List Act) : Retired a p (acts ++ more) := by
  obtain ⟨due, own, count, later⟩ := h
  rw [List.append_assoc, List.cons_append]
  exact .intro due own count _

theorem GivenUp.append (h : GivenUp a p acts) (more : List Act) : GivenUp a p (acts ++ more) := by
  obtain ⟨start, unheard, closed, drained, step, later⟩ := h
  rw [List.append_assoc, List.cons_append]
  exact .intro start unheard closed drained step _

end

/-- Where every registered process stands after these acts. -/
structure Progress (processes : List String) (a : Tally) (acts : List Act) (c : Tally) :
    Prop where
  waiting : ∀ r, c.retiring = some r → r.notice.process ∈ processes ∧
    ∃ b, Waiting a r.notice b acts c ∧
      r.deadline = if r.notice.outcome = .timedOut then some (b.clock + a.grace) else none
  heard : ∀ p ∈ processes, p ∈ (a.takenBy acts).map (·.process) →
    (∃ r, c.retiring = some r ∧ r.notice.process = p) ∨ Retired a p acts
  lost : ∀ p, ⟨p, .lost⟩ ∈ c.failed → c.finished = true ∧ p ∈ processes ∧
    p ∉ (a.takenBy acts).map (·.process) ∧ GivenUp a p acts
  unheard : c.finished = true → ∀ p ∈ processes, p ∉ (a.takenBy acts).map (·.process) →
    ⟨p, .lost⟩ ∈ c.failed

section

variable {processes : List String} {a c d : Tally} {acts : List Act} {es : List Event}
  {ns : List Notice}

theorem progress_ofProcesses (grace : Nat) :
    Progress processes (ofProcesses grace processes) [] (ofProcesses grace processes) := by
  obtain ⟨outstanding, marks, heq, -⟩ := ofProcesses_eq grace processes
  rw [heq]
  exact ⟨nofun, nofun, nofun, nofun⟩

theorem Progress.event (h : Progress processes a acts c) (hacts : a.after? acts = some c)
    (e : Event) : Progress processes a (acts ++ [.event e]) (c.apply e) := by
  obtain ⟨marks, clock, heq, -⟩ := apply_eq c e
  have hretiring : (c.apply e).retiring = c.retiring := by rw [heq]
  have hfailed : (c.apply e).failed = c.failed := by rw [heq]
  have hfinished : (c.apply e).finished = c.finished := by rw [heq]
  have htaken : a.takenBy (acts ++ [.event e]) = a.takenBy acts := by
    rw [takenBy_concat hacts, takes, List.append_nil]
  refine ⟨fun r hr => ?_, fun p hp hm => ?_, fun p hp => ?_, fun hf => ?_⟩
  · obtain ⟨hp, b, hw, hd⟩ := h.waiting r (hretiring ▸ hr)
    exact ⟨hp, b, hw.event e, hd⟩
  · rw [hretiring]
    rw [htaken] at hm
    exact (h.heard p hp hm).imp id fun hr => hr.append _
  · rw [hfailed] at hp
    obtain ⟨hf, hm, hn, hg⟩ := h.lost p hp
    exact ⟨hfinished ▸ hf, hm, htaken ▸ hn, hg.append _⟩
  · rw [hfailed, htaken]
    exact h.unheard (hfinished ▸ hf)

/-- A mark is pending until an event ends its stream: the tally itself never touches it. -/
theorem Run.mark_ne_pending_iff {grace : Nat} (h : Run (ofProcesses grace processes) es ns c)
    {p : String} {m : DrainMarks} (hm : c.marks.get? p = some m) (s : OutputStream) :
    m.mark s ≠ .pending ↔ ∃ e ∈ es, e.ends p s = true := by
  induction h generalizing m with
  | start =>
    obtain ⟨outstanding, marks, heq, -, hmarks⟩ := ofProcesses_eq grace processes
    rw [heq] at hm
    change marks.get? p = some m at hm
    rw [hmarks] at hm
    by_cases hp : p ∈ processes
    · rw [if_pos hp] at hm
      cases hm
      cases s <;> simp [DrainMarks.mark]
    · rw [if_neg hp] at hm
      cases hm
  | @event es ns c _ e ih =>
    obtain ⟨f, hf, hends⟩ := get?_marks_apply c e p
    rw [hm] at hf
    obtain ⟨m', hm', rfl⟩ := Option.map_eq_some_iff.1 hf.symm
    rw [hends, ih hm']
    simp only [List.mem_append, List.mem_singleton, or_and_right, exists_or, exists_eq_left]
  | @step es ns c d _ hs ih =>
    apply ih
    rw [← hm, (step_marks_closed hs).1]

/-- While the tally goes on, it has lost nobody. -/
theorem Progress.not_lost (h : Progress processes a acts c) (hf : c.finished = false) (p : String) :
    ⟨p, .lost⟩ ∉ c.failed := by
  intro hp
  rw [(h.lost p hp).1] at hf
  cases hf

theorem lost_mem_failed_count {n : Notice} {p : String}
    (h : ⟨p, .lost⟩ ∈ (c.count n).failed) : ⟨p, .lost⟩ ∈ c.failed := by
  unfold count at h
  split at h
  · exact h
  · rename_i reason hreason
    rcases List.mem_append.1 h with hm | hm
    · exact hm
    · rw [List.mem_singleton] at hm
      cases hm
      exact absurd hreason (Outcome.failure?_ne_lost n.outcome)

/-- A process that may be counted is due. -/
theorem Progress.due (h : Progress processes a acts c) (hk : Kept processes es ns c)
    {r : Retiring} (hr : c.retiring = some r) (hm : c.mayCount r = true) :
    Due a r.notice acts c := by
  obtain ⟨hp, b, hw, hd⟩ := h.waiting r hr
  have hmarks := (hk.marks _).2 hp
  rw [NameMap.mem_names_iff, Option.isSome_iff_exists] at hmarks
  obtain ⟨m, hm'⟩ := hmarks
  refine .intro hw hm' ?_
  -- a registered process has marks of its own, so the default is not looked at
  unfold mayCount marksOf at hm
  rw [hm', Option.getD_some, Bool.or_eq_true] at hm
  rcases hm with hm | hm
  · unfold DrainMarks.drained at hm
    rw [Bool.and_eq_true, decide_eq_true_eq, decide_eq_true_eq] at hm
    exact .inl fun s => match s with
      | .stdout => hm.1
      | .stderr => hm.2
  · rw [hd] at hm
    by_cases ho : r.notice.outcome = .timedOut
    · rw [if_pos ho, Option.any_some, decide_eq_true_eq] at hm
      exact .inr ⟨ho, hm⟩
    · rw [if_neg ho] at hm
      cases hm

/-- Nobody is being waited for, so whoever has had a notice has been counted. -/
theorem Progress.retired_of_heard (h : Progress processes a acts c) (hr : c.retiring = none)
    {p : String} (hp : p ∈ processes) (hn : p ∈ (a.takenBy acts).map (·.process)) :
    Retired a p acts := by
  rcases h.heard p hp hn with ⟨r, hr', -⟩ | hretired
  · cases hr.symm.trans hr'
  · exact hretired

theorem Progress.step (h : Progress processes a acts c) (hacts : a.after? acts = some c)
    (hk : Kept processes es (a.takenBy acts) c) (hgrace : c.grace = a.grace)
    (hs : c.step? = some d) : Progress processes a (acts ++ [.step]) d := by
  obtain ⟨hf, t, ht, hstep⟩ := step_cases hs
  have hgoes := Bool.eq_false_iff.1 hf
  have htaken : a.takenBy (acts ++ [.step]) = a.takenBy acts ++ t.toList := by
    rw [takenBy_concat hacts, takes, ht]
  cases hstep with
  | count r hr hm =>
    obtain ⟨succeeded, failed, heq⟩ := count_eq c r.notice
    have hnone : (c.count r.notice).retiring = none := by rw [heq]
    have hfinished : (c.count r.notice).finished = c.finished := by rw [heq]
    rw [Option.toList_none, List.append_nil] at htaken
    refine ⟨fun r' hr' => ?_, fun p hp hn => .inr ?_, fun p hp => ?_, fun ht => ?_⟩
    · rw [hnone] at hr'
      cases hr'
    · rw [htaken] at hn
      rcases h.heard p hp hn with ⟨r', hr', rfl⟩ | hretired
      · -- the process at hand is the one that is counted
        obtain rfl := Option.some.inj (hr.symm.trans hr')
        exact .intro (h.due hk hr hm) rfl hs []
      · exact hretired.append _
    · exact absurd (lost_mem_failed_count hp) (h.not_lost hf p)
    · exact absurd (hfinished ▸ ht) hgoes
  | complete hr ho =>
    rw [Option.toList_none, List.append_nil] at htaken
    refine ⟨fun r hr' => ?_, fun p hp hn => .inr ?_, fun p hp => ?_, fun _ p hp hn => ?_⟩
    · cases hr.symm.trans hr'
    · rw [htaken] at hn
      exact (h.retired_of_heard hr hp hn).append _
    · exact absurd hp (h.not_lost hf p)
    · -- a process without a notice would still be outstanding
      rw [htaken] at hn
      have hm := (hk.outstanding hf p).2 ⟨hp, hn⟩
      rw [ho] at hm
      cases hm
  | takeUp n queue hr hq hn =>
    obtain ⟨hp, hfirst⟩ := (hk.outstanding hf _).1 hn
    refine ⟨fun r hr' => ?_, fun p hp hm => ?_, fun p hp => ?_, fun ht => absurd ht hgoes⟩
    · -- the wait begins here, and so does the time of grace
      obtain rfl := Option.some.inj hr'
      refine ⟨hp, c, .intro hacts hfirst ht hs rfl rfl, ?_⟩
      rw [hgrace]
    · rw [htaken, Option.toList_some, List.map_append, List.mem_append] at hm
      rcases hm with hm | hm
      · exact .inr ((h.retired_of_heard hr hp hm).append _)
      · exact .inl ⟨_, rfl, (List.mem_singleton.1 hm).symm⟩
    · exact absurd hp (h.not_lost hf p)
  | ignore n queue hr hq hn =>
    refine ⟨fun r hr' => ?_, fun p hp hm => .inr ?_, fun p hp => ?_, fun ht => absurd ht hgoes⟩
    · cases hr.symm.trans hr'
    · -- were this the first notice of `p`, then `p` would be outstanding and not be ignored
      have hm : p ∈ (a.takenBy acts).map (·.process) := by
        by_contra hc
        rw [htaken, Option.toList_some, List.map_append, List.mem_append] at hm
        obtain rfl := List.mem_singleton.1 (hm.resolve_left hc)
        exact hn ((hk.outstanding hf _).2 ⟨hp, hc⟩)
      exact (h.retired_of_heard hr hp hm).append _
    · exact absurd hp (h.not_lost hf p)
  | giveUp hr hq hc =>
    rw [Option.toList_none, List.append_nil] at htaken
    refine ⟨fun r hr' => ?_, fun p hp hn => .inr ?_, fun p hp => ?_, fun _ p hp hn => ?_⟩
    · cases hr.symm.trans hr'
    · rw [htaken] at hn
      exact (h.retired_of_heard hr hp hn).append _
    · rcases List.mem_append.1 hp with hp | hp
      · exact absurd hp (h.not_lost hf p)
      · obtain ⟨q, hq', hqp⟩ := List.mem_map.1 hp
        cases hqp
        obtain ⟨hp, hn⟩ := (hk.outstanding hf p).1 hq'
        exact ⟨rfl, hp, htaken ▸ hn, .intro hacts hn hc hq hs []⟩
    · rw [htaken] at hn
      have hm := (hk.outstanding hf p).2 ⟨hp, hn⟩
      exact List.mem_append_right _ (List.mem_map_of_mem hm)

theorem progress_of_after? {grace : Nat} (h : (ofProcesses grace processes).after? acts = some c) :
    Progress processes (ofProcesses grace processes) acts c := by
  induction acts using List.reverseRecOn generalizing c with
  | nil =>
    cases h
    exact progress_ofProcesses grace
  | append_singleton acts x ih =>
    obtain ⟨b, hb, hc⟩ := exists_of_after?_concat h
    have hrun := run_of_after? hb
    cases x with
    | event e =>
      obtain rfl := Option.some.inj hc
      exact (ih hb).event hb e
    | step => exact (ih hb).step hb hrun.kept hrun.grace_eq hc

theorem Run.exists_progress {grace : Nat} (h : Run (ofProcesses grace processes) es ns c) :
    ∃ acts, Progress processes (ofProcesses grace processes) acts c ∧
      (ofProcesses grace processes).takenBy acts = ns := by
  obtain ⟨acts, hacts, -, htaken⟩ := h.exists_acts
  exact ⟨acts, progress_of_after? hacts, htaken⟩

/-- A step that changes what has been counted counts a process that is due, or gives up all that
are left. -/
theorem Progress.counts (h : Progress processes a acts c) (hk : Kept processes es ns c)
    (hs : c.step? = some d) (hne : (d.succeeded, d.failed) ≠ (c.succeeded, c.failed)) :
    (∃ n, Due a n acts c ∧ d = c.count n) ∨ c.closed = true ∧ c.queue = [] ∧ d = c.giveUp := by
  obtain ⟨-, t, -, hstep⟩ := step_cases hs
  cases hstep with
  | count r hr hm => exact .inl ⟨r.notice, h.due hk hr hm, rfl⟩
  | giveUp hr hq hc => exact .inr ⟨hc, hq, rfl⟩
  | complete | takeUp | ignore => exact absurd rfl hne

/-- A notice of a process that is not registered, or has had its notice, leaves everything as it
is. -/
theorem step?_of_stray {n : Notice} (hk : Kept processes es ns c) (ht : c.taken? = some n)
    (hs : c.step? = some d)
    (hn : n.process ∉ processes ∨ n.process ∈ ns.map (·.process)) :
    d = { c with queue := c.queue.tail } := by
  obtain ⟨hf, t, ht', hstep⟩ := step_cases hs
  rw [ht] at ht'
  cases ht'
  cases hstep with
  | takeUp _ queue hr hq hm =>
    obtain ⟨hp, hfirst⟩ := (hk.outstanding hf _).1 hm
    exact absurd hn (not_or.2 ⟨not_not.2 hp, hfirst⟩)
  | ignore _ queue hr hq hm => rw [hq, List.tail_cons]

/-- When a tally is complete, every registered process has been counted on the way, by its first
notice and at the end of its streams, or has been given up at the end of all notices. No step counts
anybody else, no event counts anybody, and stray notices do nothing. -/
theorem no_early_completion {grace : Nat}
    (h : (ofProcesses grace processes).after? acts = some c) :
    (c.finished = true → ∀ p ∈ processes, ⟨p, .lost⟩ ∉ c.failed →
      Retired (ofProcesses grace processes) p acts) ∧
    (∀ p, ⟨p, .lost⟩ ∈ c.failed → c.finished = true ∧ p ∈ processes ∧
      p ∉ ((ofProcesses grace processes).takenBy acts).map (·.process) ∧
      GivenUp (ofProcesses grace processes) p acts) ∧
    (∀ d, c.step? = some d → (d.succeeded, d.failed) ≠ (c.succeeded, c.failed) →
      (∃ n, Due (ofProcesses grace processes) n acts c ∧ d = c.count n) ∨
        c.closed = true ∧ c.queue = [] ∧ d = c.giveUp) ∧
    (∀ e, (c.apply e).succeeded = c.succeeded ∧ (c.apply e).failed = c.failed) ∧
    (∀ p m s, c.marks.get? p = some m →
      (m.mark s ≠ .pending ↔ ∃ e, .event e ∈ acts ∧ e.ends p s = true)) ∧
    ∀ n d, c.taken? = some n → c.step? = some d → n.process ∉ processes ∨
      n.process ∈ ((ofProcesses grace processes).takenBy acts).map (·.process) →
      d = { c with queue := c.queue.tail } := by
  have hrun := run_of_after? h
  have hk := hrun.kept
  have hp := progress_of_after? h
  refine ⟨fun hf p hm hl => ?_, hp.lost, fun d hs hne => hp.counts hk hs hne, fun e => ?_,
    fun p m s hm => ?_, fun n d ht hs hn => step?_of_stray hk ht hs hn⟩
  · -- a process of which nothing was heard is lost when the tally is complete
    have hheard : p ∈ ((ofProcesses grace processes).takenBy acts).map (·.process) := by
      by_contra hn
      exact hl (hp.unheard hf p hm hn)
    exact hp.retired_of_heard (hk.counted hf) hm hheard
  · obtain ⟨marks, clock, heq, -⟩ := apply_eq c e
    rw [heq]
    exact ⟨rfl, rfl⟩
  · rw [hrun.mark_ne_pending_iff hm]
    apply exists_congr
    intro e
    rw [mem_filterMap_event?]

/-- One process ends and is drained, one is killed and its streams stay open, and nobody tells of
the third. -/
theorem no_early_completion_of_killed :
    let a := ofProcesses 100 ["A", "B", "C"]
    let events : List Event := [.notice ⟨"A", .exited ⟨0⟩⟩, .notice ⟨"B", .timedOut⟩,
      .notice ⟨"A", .timedOut⟩, .notice ⟨"Ghost", .exited ⟨0⟩⟩, .stderrDropped "A", .closed,
      .stdoutDrained "A", .timePasses 100]
    ∃ acts c, acts.filterMap Act.event? = events ∧ a.after? acts = some c ∧ c.finished = true ∧
      Retired a "A" acts ∧ Retired a "B" acts ∧ GivenUp a "C" acts := by
  intro a events
  obtain ⟨ns, hrun⟩ := run_foldl_react a events
  obtain ⟨acts, hacts, hevents, -⟩ := hrun.exists_acts
  have hf : (events.foldl react a.settle).finished = true := by decide +kernel
  have hfailed : (events.foldl react a.settle).failed = [⟨"B", .timedOut⟩, ⟨"C", .lost⟩] := by
    decide +kernel
  obtain ⟨hretired, hlost, -⟩ := no_early_completion hacts
  refine ⟨acts, _, hevents, hacts, hf, hretired hf "A" (by simp) ?_, hretired hf "B" (by simp) ?_,
    (hlost "C" ?_).2.2.2⟩
  · rw [hfailed]
    decide
  · rw [hfailed]
    decide
  · rw [hfailed]
    decide

theorem step?_isSome (hf : c.finished = false) (hc : c.closed = true)
    (hd : ∀ p, (c.marksOf p).drained = true) : c.step?.isSome = true := by
  unfold step?
  rw [hf, hc]
  cases c.retiring with
  | some r => simp [mayCount, hd]
  | none =>
    cases c.outstanding.isEmpty with
    | true => rfl
    | false => cases c.queue <;> rfl

/-- Nothing but open streams and senders of notices can hold up a tally. -/
theorem finished_settle (hc : c.closed = true) (hd : ∀ p, (c.marksOf p).drained = true) :
    c.settle.finished = true := by
  induction c using Tally.settle.induct with
  | case1 c hs =>
    rw [settle_of_none hs]
    by_contra hf
    have hsome := step?_isSome (Bool.eq_false_iff.2 hf) hc hd
    rw [hs] at hsome
    cases hsome
  | case2 c d hs _ ih =>
    obtain ⟨hmarks, hclosed⟩ := step_marks_closed hs
    rw [settle_of_some hs]
    apply ih
    · rw [hclosed, hc]
    · intro p
      rw [marksOf, hmarks]
      exact hd p

end

end Tally

end Pipework
