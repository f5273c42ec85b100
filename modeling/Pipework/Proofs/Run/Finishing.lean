import Pipework.Proofs.Run.Completion

/-! A tally comes to its end. Once the last notice has been sent, all it has to wait for are streams,
and for those of a process that was killed it does not wait for ever. -/

namespace Pipework

namespace Tally

variable {a b c d : Tally} {es es' : List Event} {ns ns' : List Notice}

theorem Run.trans (h : Run a es ns b) (h' : Run b es' ns' c) :
    Run a (es ++ es') (ns ++ ns') c := by
  induction h' with
  | start => rwa [List.append_nil, List.append_nil]
  | event _ e ih =>
    rw [← List.append_assoc]
    exact ih.event e
  | step _ hs ih =>
    rw [← List.append_assoc]
    exact ih.step hs

/-- Nothing but time can hold up the tally. -/
structure Unhindered (c : Tally) : Prop where
  closed : c.closed = true ∨ c.outstanding.names = []
  retiring : ∀ r, c.retiring = some r →
    (c.marksOf r.notice.process).drained = true ∨ r.deadline.isSome = true
  queue : ∀ n ∈ c.queue, (c.marksOf n.process).drained = true ∨ n.outcome = .timedOut

theorem Unhindered.timePasses (h : c.Unhindered) (ms : Nat) :
    (c.apply (.timePasses ms)).Unhindered := ⟨h.closed, h.retiring, h.queue⟩

theorem Unhindered.step (h : c.Unhindered) (hs : c.step? = some d) : d.Unhindered := by
  obtain ⟨-, t, -, hstep⟩ := step_cases hs
  cases hstep with
  | count r hr hm =>
    obtain ⟨succeeded, failed, heq⟩ := count_eq c r.notice
    rw [heq]
    exact ⟨h.closed, nofun, h.queue⟩
  | complete hr ho => exact ⟨h.closed, h.retiring, h.queue⟩
  | takeUp n queue hr hq hn =>
    refine ⟨h.closed.imp id fun ho => ?_, fun r hr' => ?_, fun m hm => h.queue m ?_⟩
    · rw [ho] at hn
      cases hn
    · obtain rfl := Option.some.inj hr'
      refine (h.queue n (hq ▸ List.mem_cons_self)).imp id fun ho => ?_
      change (if n.outcome = .timedOut then _ else none).isSome = true
      rw [if_pos ho]
      rfl
    · rw [hq]
      exact List.mem_cons_of_mem n hm
  | ignore n queue hr hq hn =>
    refine ⟨h.closed, h.retiring, fun m hm => h.queue m ?_⟩
    rw [hq]
    exact List.mem_cons_of_mem n hm
  | giveUp hr hq hc => exact ⟨.inl hc, h.retiring, h.queue⟩

/-- After some time the tally can go on. -/
theorem Unhindered.exists_step (h : c.Unhindered) (hf : c.finished = false) :
    ∃ ms d, (c.apply (.timePasses ms)).step? = some d := by
  cases hr : c.retiring with
  | none =>
    refine ⟨0, Option.isSome_iff_exists.1 ?_⟩
    change c.step?.isSome = true
    unfold step?
    rw [hf, hr]
    rcases h.closed with hc | ho
    · rw [hc]
      cases c.outstanding.isEmpty with
      | true => rfl
      | false => cases c.queue <;> rfl
    · rw [NameMap.isEmpty_iff.2 ho]
      rfl
  | some r =>
    -- at the deadline, if there is one, the streams do not matter any more
    refine ⟨r.deadline.getD 0, c.apply (.timePasses (r.deadline.getD 0)) |>.count r.notice, ?_⟩
    have hm : (c.apply (.timePasses (r.deadline.getD 0))).mayCount r = true := by
      unfold mayCount
      rw [Bool.or_eq_true]
      refine (h.retiring r hr).imp id fun hd => ?_
      obtain ⟨deadline, hd⟩ := Option.isSome_iff_exists.1 hd
      simp [hd, apply]
    have hf' : (c.apply (.timePasses (r.deadline.getD 0))).finished = false := hf
    have hr' : (c.apply (.timePasses (r.deadline.getD 0))).retiring = some r := hr
    simp [step?, hf', hr', hm]

/-- A tally that nothing but time can hold up becomes complete. -/
theorem Unhindered.exists_finished (h : c.Unhindered) : ∃ es ns d, Run c es ns d ∧
    (∀ e ∈ es, ∃ ms, e = .timePasses ms) ∧ d.finished = true := by
  -- each step that waiting makes possible leaves less work
  induction hw : c.work using Nat.strong_induction_on generalizing c with
  | _ w ih =>
    cases hf : c.finished with
    | true => exact ⟨[], [], c, .start, nofun, hf⟩
    | false =>
      obtain ⟨ms, d, hd⟩ := h.exists_step hf
      have hless : d.work < (c.apply (.timePasses ms)).work := work_lt_of_step? hd
      obtain ⟨es, ns, e, hrun, htime, hfinished⟩ := ih _ (hw ▸ hless) ((h.timePasses ms).step hd) rfl
      refine ⟨_, _, e, ((Run.start.event (.timePasses ms)).step hd).trans hrun, fun e he => ?_,
        hfinished⟩
      rcases List.mem_append.1 he with he | he
      · exact ⟨ms, List.mem_singleton.1 he⟩
      · exact htime e he

end Tally

theorem DrainMarks.drained_iff {m : DrainMarks} : m.drained = true ↔ ∀ s, m.mark s ≠ .pending := by
  rw [drained, Bool.and_eq_true, decide_eq_true_eq, decide_eq_true_eq]
  constructor
  · rintro ⟨hout, herr⟩ s
    cases s with
    | stdout => exact hout
    | stderr => exact herr
  · exact fun h => ⟨h .stdout, h .stderr⟩

namespace Tally

theorem drained_marksOf_apply {c : Tally} {p : String} (h : (c.marksOf p).drained = true)
    (e : Event) : ((c.apply e).marksOf p).drained = true := by
  obtain ⟨f, hf, hends⟩ := get?_marks_apply c e p
  rw [marksOf, hf]
  rw [marksOf] at h
  cases hm : c.marks.get? p with
  | none => rfl
  | some m =>
    rw [hm, Option.getD_some, DrainMarks.drained_iff] at h
    rw [Option.map_some, Option.getD_some, DrainMarks.drained_iff]
    exact fun s => (hends m s).2 (.inl (h s))

/-- The process that is being counted, by a notice that was taken, and those before it: their
streams are drained, unless they were killed. -/
structure Drained (processes : List String) (ns : List Notice) (c : Tally) : Prop where
  retiring : ∀ r, c.retiring = some r →
    r.notice ∈ ns ∧ (r.deadline.isSome = true → r.notice.outcome = .timedOut)
  heard : ∀ p ∈ processes, p ∈ ns.map (·.process) →
    (∃ r, c.retiring = some r ∧ r.notice.process = p) ∨ (c.marksOf p).drained = true ∨
      ∃ n ∈ ns, n.process = p ∧ n.outcome = .timedOut

section

variable {processes : List String} {grace : Nat} {es : List Event} {ns : List Notice} {c d : Tally}

theorem Drained.event (h : Drained processes ns c) (e : Event) :
    Drained processes ns (c.apply e) := by
  obtain ⟨marks, clock, heq, -⟩ := apply_eq c e
  have hretiring : (c.apply e).retiring = c.retiring := by rw [heq]
  refine ⟨hretiring ▸ h.retiring, fun p hp hn => ?_⟩
  rw [hretiring]
  exact (h.heard p hp hn).imp_right fun hd => hd.imp_left fun hm => drained_marksOf_apply hm e

theorem Drained.step (h : Drained processes ns c) (hk : Kept processes es ns c)
    (hs : c.step? = some d) : Drained processes (ns ++ c.taken?.toList) d := by
  have hmarks (p : String) : d.marksOf p = c.marksOf p := by
    rw [marksOf, (step_marks_closed hs).1, marksOf]
  obtain ⟨hf, t, ht, hstep⟩ := step_cases hs
  -- whoever is not the process at hand stays as it is
  have hothers (hnone : ∀ r, c.retiring = some r → r.notice ∈ ns ∧
      ((c.marksOf r.notice.process).drained = true ∨ r.notice.outcome = .timedOut)) (p : String)
      (hp : p ∈ processes) (hn : p ∈ ns.map (·.process)) : (d.marksOf p).drained = true ∨
        ∃ n ∈ ns ++ c.taken?.toList, n.process = p ∧ n.outcome = .timedOut := by
    rw [hmarks]
    rcases h.heard p hp hn with ⟨r, hr, rfl⟩ | hd | ⟨n, hm, hn⟩
    · obtain ⟨hm, hd | ho⟩ := hnone r hr
      · exact .inl hd
      · exact .inr ⟨r.notice, List.mem_append_left _ hm, rfl, ho⟩
    · exact .inl hd
    · exact .inr ⟨n, List.mem_append_left _ hm, hn⟩
  have hidle (hr : c.retiring = none) := hothers fun r hr' => absurd (hr'.symm.trans hr) (Option.some_ne_none r)
  have hnobody (hr : c.retiring = none) (r : Retiring) (hr' : c.retiring = some r) :
      r.notice ∈ ns ++ c.taken?.toList ∧
        (r.deadline.isSome = true → r.notice.outcome = .timedOut) :=
    absurd (hr'.symm.trans hr) (Option.some_ne_none r)
  rw [ht] at hothers hidle hnobody ⊢
  cases hstep with
  | count r hr hm =>
    rw [Option.toList_none, List.append_nil] at hothers ⊢
    obtain ⟨succeeded, failed, heq⟩ := count_eq c r.notice
    refine ⟨fun r' hr' => ?_, fun p hp hn => .inr (hothers (fun r' hr' => ?_) p hp hn)⟩
    · rw [heq] at hr'
      cases hr'
    · obtain rfl := Option.some.inj (hr.symm.trans hr')
      obtain ⟨hmem, hdeadline⟩ := h.retiring r hr
      refine ⟨hmem, ?_⟩
      rw [mayCount, Bool.or_eq_true] at hm
      refine hm.imp_right fun hd => hdeadline ?_
      cases hr' : r.deadline with
      | none => rw [hr'] at hd; cases hd
      | some _ => rfl
  | takeUp n queue hr hq hn =>
    refine ⟨fun r hr' => ?_, fun p hp hm => ?_⟩
    · obtain rfl := Option.some.inj hr'
      refine ⟨by simp, fun hd => ?_⟩
      by_contra ho
      rw [if_neg ho] at hd
      cases hd
    · rw [Option.toList_some, List.map_append, List.mem_append] at hm
      rcases hm with hm | hm
      · exact .inr (hidle hr p hp hm)
      · exact .inl ⟨_, rfl, (List.mem_singleton.1 hm).symm⟩
  | ignore n queue hr hq hn =>
    refine ⟨hnobody hr, fun p hp hm => .inr (hidle hr p hp ?_)⟩
    by_contra hc
    rw [Option.toList_some, List.map_append, List.mem_append] at hm
    obtain rfl := List.mem_singleton.1 (hm.resolve_left hc)
    exact hn ((hk.outstanding hf _).2 ⟨hp, hc⟩)
  | complete hr ho =>
    rw [Option.toList_none, List.append_nil] at hidle hnobody ⊢
    exact ⟨hnobody hr, fun p hp hn => .inr (hidle hr p hp hn)⟩
  | giveUp hr hq hc =>
    rw [Option.toList_none, List.append_nil] at hidle hnobody ⊢
    exact ⟨hnobody hr, fun p hp hn => .inr (hidle hr p hp hn)⟩

theorem Run.drained (h : Run (ofProcesses grace processes) es ns c) : Drained processes ns c := by
  induction h with
  | start =>
    obtain ⟨outstanding, marks, heq, -⟩ := ofProcesses_eq grace processes
    rw [heq]
    exact ⟨nofun, nofun⟩
  | event _ e ih => exact ih.event e
  | step h hs ih => exact ih.step h.kept hs

end

end Tally

end Pipework
