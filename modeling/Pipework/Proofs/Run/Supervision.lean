import Pipework.Proofs.Files.Tree
import Pipework.Proofs.Run.Accounting
import Pipework.Proofs.Run.Course
import Pipework.Proofs.Run.Finishing

/-! What a launch makes of its processes. Every task reports once, however the process ends or fails
to begin, and the summary has for each process what its own steps have reported. -/

namespace Pipework

/-- The outcomes that a process reports by its steps. -/
def Preparation.reports (x : Preparation) (ss : List LaunchStep) : List Outcome :=
  (ownSteps x.spec.name ss).filterMap x.report?

namespace Tally

theorem filter_filterMap_notice? (es : List Event) (p : String) :
    (es.filterMap Event.notice?).filter (·.process == p) =
      (es.filter (·.process? == some p)).filterMap Event.notice? := by
  rw [List.filter_filterMap, List.filterMap_filter]
  apply List.filterMap_congr
  intro e _
  cases e with
  | notice n => by_cases h : n.process = p <;> simp [Event.notice?, Event.process?, h]
  | _ => simp [Event.notice?]

/-- The notice of a process that has only one decides about it. -/
theorem failureOf?_of_filter {ns : List Notice} {p : String} {o : Outcome}
    (h : ns.filter (·.process == p) = [⟨p, o⟩]) :
    failureOf? ns p = Notice.failure? ⟨p, o⟩ := by
  have hfind : ns.find? (·.process == p) = some ⟨p, o⟩ := by
    rw [← List.head?_filter, h]
    rfl
  rw [failureOf?, verdict?, hfind]
  rfl

/-- In any order of the failures, each process has its own. -/
theorem filter_failed_of_perm {processes : List String} {ns : List Notice}
    {failed : List ProcessFailure} (hn : processes.Nodup)
    (h : failed.Perm (processes.filterMap (failureOf? ns))) {p : String} (hp : p ∈ processes) :
    failed.filter (·.process == p) = (failureOf? ns p).toList := by
  have hperm := h.filter (·.process == p)
  rw [filter_filterMap_failureOf? hn ns hp] at hperm
  cases hv : failureOf? ns p with
  | none =>
    rw [hv] at hperm
    exact hperm.eq_nil
  | some f =>
    rw [hv] at hperm
    exact List.perm_singleton.1 hperm

end Tally

namespace Launch

variable {σ : Type} [PipeStore σ] {l : Launch σ} {all prepared : List Preparation}
  {ss : List LaunchStep} {es : List Tally.Event} {ns : List Notice} {x : Preparation}

theorem Course.eq_all (h : Course all prepared ss es ns l) (hu : l.unprepared = []) :
    prepared = all := by
  have hall := h.all
  rwa [hu, preparations, List.append_nil] at hall

theorem Course.unprepared_of_finished (h : Course all prepared ss es ns l)
    (hf : l.tally.finished = true) : l.unprepared = [] := by
  by_contra hu
  obtain ⟨-, -, -, time, -, htally⟩ := h.early hu
  obtain ⟨outstanding, marks, heq, -⟩ :=
    Tally.ofProcesses_eq 2000 (prepared.map (·.spec.name))
  rw [htally, heq] at hf
  cases hf

theorem Course.standing (h : Course all prepared ss es ns l) (hx : x ∈ prepared) :
    ∃ t, l.tasks.get? x.spec.name = some t ∧ x.Standing (ownSteps x.spec.name ss) t := by
  obtain ⟨t, ht, hrun⟩ := h.tasks x hx
  exact ⟨t, ht, hrun.standing⟩

theorem Course.standing_of_get? (h : Course all prepared ss es ns l) (hx : x ∈ prepared)
    {t : LaunchTask} (ht : l.tasks.get? x.spec.name = some t) :
    x.Standing (ownSteps x.spec.name ss) t := by
  obtain ⟨t', ht', hstanding⟩ := h.standing hx
  rwa [Option.some.inj (ht.symm.trans ht')]

/-- The tally has heard, or is going to hear, what the process reports. -/
theorem Course.filter_notices (h : Course all prepared ss es ns l) (hx : x ∈ prepared) :
    (ns ++ l.tally.queue).filter (·.process == x.spec.name) =
      (x.reports ss).map (⟨x.spec.name, ·⟩) := by
  obtain ⟨t, -, hrun⟩ := h.tasks x hx
  rw [h.tally.kept.sent, h.sent, Tally.filter_filterMap_notice?, hrun.notices]
  rfl

theorem Course.length_reports (h : Course all prepared ss es ns l) (hx : x ∈ prepared) :
    (x.reports ss).length ≤ 1 := by
  obtain ⟨t, -, hstanding⟩ := h.standing hx
  cases hstanding with
  | waiting hs _ => rw [Preparation.reports, hs]; exact Nat.zero_le 1
  | running _ _ hr _ _ => rw [Preparation.reports, hr]; exact Nat.zero_le 1
  | reported _ hr _ _ => exact hr.le

theorem Course.reports_eq (h : Course all prepared ss es ns l) (hx : x ∈ prepared) {o : Outcome}
    (ho : o ∈ x.reports ss) : x.reports ss = [o] := by
  have hone := le_antisymm (h.length_reports hx) (List.length_pos_of_mem ho)
  obtain ⟨o', ho'⟩ := List.length_eq_one_iff.1 hone
  rw [ho', List.mem_singleton] at ho
  rw [ho', ho]

theorem Course.exists_report (h : Course all prepared ss es ns l) (hx : x ∈ prepared)
    {t : LaunchTask} (ht : l.tasks.get? x.spec.name = some t) (hr : t.stage = .reported) :
    ∃ o, x.reports ss = [o] := by
  cases h.standing_of_get? hx ht with
  | waiting _ hw => exact absurd (hw ▸ hr) x.stage_task_ne_reported
  | running _ _ _ _ hs => cases hs.symm.trans hr
  | reported _ hl _ _ => exact List.length_eq_one_iff.1 hl

/-- A complete tally has heard of every process. -/
theorem Course.heard_of_finished (h : Course all prepared ss es ns l)
    (hf : l.tally.finished = true) (hx : x ∈ prepared) :
    x.spec.name ∈ ns.map (·.process) := by
  obtain ⟨counted, lost, ha⟩ := h.tally.accounts
  have hp : x.spec.name ∈ prepared.map (·.spec.name) := List.mem_map_of_mem hx
  by_contra hn
  have hlost : lost ≠ [] := by
    rintro rfl
    have hm := Tally.mem_unheard_iff.2 ⟨hp, hn⟩
    rw [List.nil_perm.1 (ha.missing hf)] at hm
    cases hm
  obtain ⟨hclosed, hqueue⟩ := ha.ended hlost
  -- the way for reports is closed, so the process has reported, and the report was taken
  have hall := (h.closed.1 (h.tally.kept.closed.1 hclosed)).2
  obtain ⟨t, ht, -⟩ := h.tasks x hx
  obtain ⟨o, ho⟩ := h.exists_report hx ht ((allReported_iff.1 hall).2 _ t ht)
  have hfilter := h.filter_notices hx
  rw [hqueue, List.append_nil, ho] at hfilter
  have hm : (⟨x.spec.name, o⟩ : Notice) ∈ ns.filter (·.process == x.spec.name) := by
    rw [hfilter]
    exact List.mem_singleton_self _
  exact hn (List.mem_map_of_mem (List.mem_filter.1 hm).1)

theorem Course.exists_report_of_finished (h : Course all prepared ss es ns l)
    (hf : l.tally.finished = true) (hx : x ∈ prepared) : ∃ o, x.reports ss = [o] := by
  obtain ⟨n, hn, hname⟩ := List.mem_map.1 (h.heard_of_finished hf hx)
  have hm : n ∈ (ns ++ l.tally.queue).filter (·.process == x.spec.name) := by
    rw [List.mem_filter, beq_iff_eq]
    exact ⟨List.mem_append_left _ hn, hname⟩
  rw [h.filter_notices hx] at hm
  obtain ⟨o, ho, -⟩ := List.mem_map.1 hm
  exact ⟨o, h.reports_eq hx ho⟩

theorem Course.failureOf? (h : Course all prepared ss es ns l) (hx : x ∈ prepared) {o : Outcome}
    (ho : x.reports ss = [o]) :
    Tally.failureOf? (Tally.sent es) x.spec.name = Notice.failure? ⟨x.spec.name, o⟩ := by
  apply Tally.failureOf?_of_filter
  rw [← h.tally.kept.sent, h.filter_notices hx, ho]
  rfl

/-- Once a process has taken a step, all pipes have been made. -/
theorem Course.eq_all_of_mem (h : Course all prepared ss es ns l) {s : LaunchStep} {p : String}
    (hs : s ∈ ss) (hp : s.process? = some p) : prepared = all := by
  apply h.eq_all
  by_contra hu
  obtain ⟨-, -, hother, -⟩ := h.early hu
  cases (hother s hs).symm.trans hp

theorem Course.result_of_start (h : Course all prepared ss es ns l) (hx : x ∈ all)
    {r : StartResult} (hs : .start x.spec.name r ∈ ss) : x.result = .ok () := by
  obtain rfl := h.eq_all_of_mem hs rfl
  have hown := mem_ownSteps.2 ⟨hs, rfl⟩
  obtain ⟨t, -, hstanding⟩ := h.standing hx
  cases hstanding with
  | waiting hnil _ =>
    rw [hnil] at hown
    cases hown
  | running hok _ _ _ _ => exact hok
  | reported hok _ _ _ => exact hok r hown

/-- A process without its pipes reports just that. -/
theorem Course.reports_of_error (h : Course all prepared ss es ns l) (hx : x ∈ prepared)
    {cause : PipeError} (hc : x.result = .error cause) {o : Outcome} (ho : x.reports ss = [o]) :
    o = .failed (.pipe x.spec.name cause) := by
  obtain ⟨t, -, hrun⟩ := h.tasks x hx
  rw [Preparation.reports] at ho
  rcases hrun.eq_of_error hc with hs | ⟨hs, -⟩
  · rw [hs] at ho
    cases ho
  · rw [hs] at ho
    simp only [List.filterMap_cons, Preparation.report?, hc, List.filterMap_nil] at ho
    exact (List.singleton_inj.1 ho).symm

/-- A mark is pending as long as the stream is read. -/
theorem Course.mark_ne_pending_iff (h : Course all prepared ss es ns l) (hx : x ∈ prepared)
    {m : DrainMarks} (hm : l.tally.marks.get? x.spec.name = some m) (stream : OutputStream) :
    m.mark stream ≠ .pending ↔ ownSteps x.spec.name ss ≠ [] ∧
      (.start x.spec.name .started ∈ ss → .drained x.spec.name stream ∈ ss) := by
  obtain ⟨t, -, hrun⟩ := h.tasks x hx
  have hends : (∃ e ∈ es, e.ends x.spec.name stream = true) ↔
      ∃ e ∈ es.filter (·.process? == some x.spec.name), e.ends x.spec.name stream = true := by
    simp only [List.mem_filter, beq_iff_eq, and_assoc]
    refine exists_congr fun e => and_congr_right fun _ => ?_
    rw [iff_and_self]
    intro he
    cases e <;> simp [Tally.Event.ends] at he <;> simp [Tally.Event.process?, he]
  rw [h.tally.mark_ne_pending_iff hm, hends, hrun.ends_iff, hrun.idle_iff,
    mem_ownSteps_of_process? rfl, mem_ownSteps_of_process? rfl]

theorem Course.exists_marks (h : Course all prepared ss es ns l) (hx : x ∈ prepared) :
    ∃ m, l.tally.marks.get? x.spec.name = some m := by
  rw [← Option.isSome_iff_exists, ← NameMap.mem_names_iff, h.tally.kept.marks]
  exact List.mem_map_of_mem hx

theorem Course.exists_of_notice (h : Course all prepared ss es ns l) {n : Notice}
    (hn : n ∈ ns ++ l.tally.queue) : ∃ x ∈ prepared, x.spec.name = n.process ∧
      n.outcome ∈ x.reports ss := by
  have hheard := h.heard n (h.tally.kept.sent ▸ hn)
  obtain ⟨x, hx, hname⟩ := List.mem_map.1 hheard
  refine ⟨x, hx, hname, ?_⟩
  have hm : n ∈ (ns ++ l.tally.queue).filter (·.process == x.spec.name) := by
    rw [List.mem_filter, beq_iff_eq]
    exact ⟨hn, hname.symm⟩
  rw [h.filter_notices hx] at hm
  obtain ⟨o, ho, rfl⟩ := List.mem_map.1 hm
  exact ho

/-- The streams of a process that has reported are drained, if the process has not been started or
both of its marks have fired. -/
theorem Course.drained_or_timedOut (h : Course all prepared ss es ns l)
    (hdrained : ∀ x ∈ prepared, .start x.spec.name .started ∈ ss → .timeout x.spec.name ∉ ss →
      ∀ stream, .drained x.spec.name stream ∈ ss) {n : Notice} (hn : n ∈ ns ++ l.tally.queue) :
    (l.tally.marksOf n.process).drained = true ∨ n.outcome = .timedOut := by
  obtain ⟨x, hx, hname, ho⟩ := h.exists_of_notice hn
  by_cases htimeout : .timeout x.spec.name ∈ ss
  · -- the one report of the process is the timeout
    have hm : Outcome.timedOut ∈ x.reports ss :=
      List.mem_filterMap.2 ⟨_, mem_ownSteps.2 ⟨htimeout, rfl⟩, rfl⟩
    rw [h.reports_eq hx hm, List.mem_singleton] at ho
    exact .inr ho
  · obtain ⟨m, hm⟩ := h.exists_marks hx
    have hsteps : ownSteps x.spec.name ss ≠ [] := by
      intro hnil
      rw [Preparation.reports, hnil] at ho
      cases ho
    have hmark (stream : OutputStream) : m.mark stream ≠ .pending :=
      (h.mark_ne_pending_iff hx hm stream).2
        ⟨hsteps, fun hs => hdrained x hx hs htimeout stream⟩
    left
    rw [Tally.marksOf, ← hname, hm, Option.getD_some, DrainMarks.drained_iff]
    exact hmark

/-- What a tally does by itself and in time, a launch does. -/
theorem run_of_tally {c d : Tally} (h : Tally.Run c es ns d) (hc : l.tally = c)
    (hu : l.unprepared = []) (htime : ∀ e ∈ es, ∃ ms, e = .timePasses ms) :
    ∃ later, Run l later ns { l with tally := d } ∧
      ∀ s ∈ later, s = .tally ∨ ∃ ms, s = .timePasses ms := by
  induction h with
  | start =>
    subst hc
    exact ⟨[], .start, nofun⟩
  | @event es ns c h e ih =>
    obtain ⟨later, hrun, hlater⟩ := ih fun e he => htime e (List.mem_append_left _ he)
    obtain ⟨ms, rfl⟩ := htime e (List.mem_append_right _ (List.mem_singleton_self e))
    have hnext := hrun.step (s := .timePasses ms) rfl
    rw [if_neg nofun, List.append_nil] at hnext
    refine ⟨_, hnext, fun s hs => ?_⟩
    rcases List.mem_append.1 hs with hs | hs
    · exact hlater s hs
    · exact .inr ⟨ms, List.mem_singleton.1 hs⟩
  | @step es ns c d h hs ih =>
    obtain ⟨later, hrun, hlater⟩ := ih htime
    have hnext := hrun.step (s := .tally) (k := { l with tally := d }) (by simp [step?, hu, hs])
    rw [if_pos rfl] at hnext
    refine ⟨_, hnext, fun s hs => ?_⟩
    rcases List.mem_append.1 hs with hs | hs
    · exact hlater s hs
    · exact .inl (List.mem_singleton.1 hs)

/-- When every process has reported, nothing but streams that are read can hold up the tally. -/
theorem Course.unhindered (h : Course all prepared ss es ns l) (hu : l.unprepared = [])
    (hf : l.tally.finished = false) (hreports : ∀ x ∈ prepared, x.reports ss ≠ [])
    (hdrained : ∀ x ∈ prepared, .start x.spec.name .started ∈ ss → .timeout x.spec.name ∉ ss →
      ∀ stream, .drained x.spec.name stream ∈ ss) : l.tally.Unhindered := by
  have hkept := h.tally.kept
  refine ⟨?_, fun r hr => ?_, fun n hn => ?_⟩
  · -- nobody closes the way for reports if there are no processes, but then nobody is awaited
    by_cases hnil : prepared = []
    · right
      rw [List.eq_nil_iff_forall_not_mem]
      intro p hp
      have hm := ((hkept.outstanding hf p).1 hp).1
      rw [hnil] at hm
      cases hm
    · left
      rw [hkept.closed, h.closed]
      refine ⟨hnil, allReported_iff.2 ⟨hu, fun p t ht => ?_⟩⟩
      obtain ⟨x, hx, rfl⟩ := List.mem_map.1 (h.mem_names ht)
      cases h.standing_of_get? hx ht with
      | waiting hs _ => exact absurd (by rw [Preparation.reports, hs]; rfl) (hreports x hx)
      | running _ _ hr _ _ => exact absurd hr (hreports x hx)
      | reported _ _ _ hr => exact hr
  · obtain ⟨acts, hp, -⟩ := h.tally.exists_progress
    obtain ⟨-, b, -, hdeadline⟩ := hp.waiting r hr
    obtain ⟨counted, lost, ha⟩ := h.tally.accounts
    have hm : r.notice ∈ ns := by
      apply (Tally.firstNotices_sublist (prepared.map (·.spec.name)) ns).subset
      rw [ha.firsts, hr]
      exact List.mem_append_right _ (List.mem_singleton_self _)
    refine (h.drained_or_timedOut hdrained (List.mem_append_left _ hm)).imp id fun ho => ?_
    rw [hdeadline, if_pos ho]
    rfl
  · exact h.drained_or_timedOut hdrained (List.mem_append_right _ hn)

/-- Once every process has reported, and those that have not been killed are drained, the launch
comes to its summary by itself. -/
theorem Course.exists_summary (h : Course all prepared ss es ns l) (hu : l.unprepared = [])
    (hreports : ∀ x ∈ prepared, x.reports ss ≠ [])
    (hdrained : ∀ x ∈ prepared, .start x.spec.name .started ∈ ss → .timeout x.spec.name ∉ ss →
      ∀ stream, .drained x.spec.name stream ∈ ss) :
    ∃ later ns' k, Run l later ns' k ∧ (∀ s ∈ later, s = .tally ∨ ∃ ms, s = .timePasses ms) ∧
      k.summary?.isSome = true := by
  cases hf : l.tally.finished with
  | true =>
    refine ⟨[], [], l, .start, nofun, ?_⟩
    rw [summary?, Tally.summary?, if_pos hf]
    rfl
  | false =>
    obtain ⟨es', ns', d, hrun, htime, hd⟩ :=
      (h.unhindered hu hf hreports hdrained).exists_finished
    obtain ⟨later, hlater, hsteps⟩ := run_of_tally hrun rfl hu htime
    refine ⟨later, ns', _, hlater, hsteps, ?_⟩
    change d.summary?.isSome = true
    rw [Tally.summary?, if_pos hd]
    rfl

/-- A complete tally has for each process what the process has reported. -/
theorem Course.filter_failed (h : Course all prepared ss es ns l)
    (hn : (prepared.map (·.spec.name)).Nodup) {s : RunSummary} (hs : l.summary? = some s)
    (hx : x ∈ prepared) : ∃ o, x.reports ss = [o] ∧
      s.failed.filter (·.process == x.spec.name) =
        (Notice.failure? ⟨x.spec.name, o⟩).toList := by
  obtain ⟨hf, -⟩ := Tally.summary?_eq_some_iff.1 hs
  obtain ⟨o, ho⟩ := h.exists_report_of_finished hf hx
  obtain ⟨-, -, hfailed⟩ := h.tally.summary hs
  rw [hn.dedup] at hfailed
  refine ⟨o, ho, ?_⟩
  rw [Tally.filter_failed_of_perm hn hfailed (List.mem_map_of_mem hx), h.failureOf? hx ho]

/-- The task of a process can report whatever becomes of the process. -/
structure Attends (l : Launch σ) (x : Preparation) (ss : List LaunchStep) : Prop where
  refuse : ∀ cause, x.result = .error cause → (l.step? (.refuse x.spec.name)).isSome = true
  start : x.result = .ok () → .start x.spec.name .started ∉ ss →
    ∀ r, (l.step? (.start x.spec.name r)).isSome = true
  exit : .start x.spec.name .started ∈ ss →
    ∀ status, (l.step? (.exit x.spec.name status)).isSome = true
  waitFailure : .start x.spec.name .started ∈ ss →
    ∀ cause, (l.step? (.waitFailure x.spec.name cause)).isSome = true
  timeout : .start x.spec.name .started ∈ ss → (l.step? (.timeout x.spec.name)).isSome = true

theorem Course.attends (h : Course all prepared ss es ns l) (hu : l.unprepared = [])
    (hx : x ∈ prepared) (hr : x.reports ss = []) : Attends l x ss := by
  obtain ⟨t, ht, hstanding⟩ := h.standing hx
  have hown {p : String} {s : LaunchStep} {t' : LaunchTask} {lines : List OutputLine}
      {events : List Tally.Event} (hp : p = x.spec.name) (hs : t.Step p s t' lines events) :
      (l.step? s).isSome = true := by
    rw [step?_of_own (hp ▸ ht) hs hu]
    rfl
  cases hstanding with
  | waiting hs hw =>
    have hnone (r : StartResult) : .start x.spec.name r ∉ ss := by
      intro hm
      have hown := mem_ownSteps.2 ⟨hm, rfl⟩
      rw [hs] at hown
      cases hown
    refine ⟨fun cause hc => ?_, fun hok _ r => ?_, fun hm => absurd hm (hnone _),
      fun hm => absurd hm (hnone _), fun hm => absurd hm (hnone _)⟩
    · exact hown rfl (.refuse cause (hw ▸ Preparation.stage_task_eq_blocked_iff.2 hc))
    · have hready : t.stage = .ready := hw ▸ Preparation.stage_task_eq_ready_iff.2 hok
      cases r with
      | started => exact hown rfl (.start hready)
      | failed cause => exact hown rfl (.startFailure cause hready)
      | noCapture stream => exact hown rfl (.noCapture stream hready)
  | running hok hs _ _ hrunning =>
    refine ⟨fun cause hc => ?_, fun _ hm => absurd (mem_ownSteps.1 hs).1 hm,
      fun _ status => hown rfl (.exit status hrunning),
      fun _ cause => hown rfl (.waitFailure cause hrunning), fun _ => hown rfl (.timeout hrunning)⟩
    cases hok.symm.trans hc
  | reported _ hl _ _ =>
    rw [Preparation.reports] at hr
    rw [hr] at hl
    cases hl

/-- Before all pipes have been made, nothing has been reported. -/
theorem Course.notices (h : Course all prepared ss es ns l) (hx : x ∈ all) :
    (ns ++ l.tally.queue).filter (·.process == x.spec.name) =
        (x.reports ss).map (⟨x.spec.name, ·⟩) ∧ (x.reports ss).length ≤ 1 := by
  by_cases hu : l.unprepared = []
  · obtain rfl := h.eq_all hu
    exact ⟨h.filter_notices hx, h.length_reports hx⟩
  · obtain ⟨-, -, hother, time, rfl, -⟩ := h.early hu
    rw [Preparation.reports, ownSteps_eq_nil hother, h.tally.kept.sent]
    exact ⟨rfl, Nat.zero_le 1⟩

theorem Course.counts (h : Course all prepared ss es ns l)
    (hn : (prepared.map (·.spec.name)).Nodup) {s : RunSummary} (hs : l.summary? = some s) :
    s.launched = prepared.length ∧ s.succeeded + s.failed.length = prepared.length ∧
      s.succeeded = prepared.countP (fun x => (x.reports ss).all (·.failure?.isNone)) ∧
      ∀ f ∈ s.failed, f.process ∈ prepared.map (·.spec.name) ∧ f.reason ≠ .lost := by
  obtain ⟨hf, -⟩ := Tally.summary?_eq_some_iff.1 hs
  obtain ⟨hlaunched, hsucceeded, hfailed⟩ := h.tally.summary hs
  rw [hn.dedup] at hlaunched hsucceeded hfailed
  refine ⟨hlaunched.trans (List.length_map _), ?_, ?_, fun f hm => ?_⟩
  · rw [hsucceeded, hfailed.length_eq, Tally.countP_add_length_filterMap, List.length_map]
  · rw [hsucceeded, List.countP_map]
    apply List.countP_congr
    intro x hx
    obtain ⟨o, ho⟩ := h.exists_report_of_finished hf hx
    have hverdict : (Tally.verdict? (Tally.sent es) x.spec.name).isNone = o.failure?.isNone := by
      have hfailure := congrArg Option.isNone (h.failureOf? hx ho)
      rwa [Tally.failureOf?, Notice.failure?, Option.isNone_map, Option.isNone_map] at hfailure
    rw [Function.comp_apply, hverdict, ho, List.all_cons, List.all_nil, Bool.and_true]
  · obtain ⟨p, hp, hpf⟩ := List.mem_filterMap.1 (hfailed.mem_iff.1 hm)
    obtain ⟨reason, -, rfl⟩ := Option.map_eq_some_iff.1 hpf
    refine ⟨hp, ?_⟩
    -- the failure comes from a report, and no report says that its process is lost
    obtain ⟨x, hx, rfl⟩ := List.mem_map.1 hp
    obtain ⟨o, ho⟩ := h.exists_report_of_finished hf hx
    rw [h.failureOf? hx ho] at hpf
    obtain ⟨reason', hreason, heq⟩ := Option.map_eq_some_iff.1 hpf
    cases heq
    exact fun hlost => o.failure?_ne_lost (hlost ▸ hreason)

theorem Run.count_prepare_before_start {files : σ} {mode : Nat} {specs : List PlannedProcess}
    (hn : (specs.map (·.name)).Nodup) (h : Run (ofSpecs files mode specs) ss ns l)
    {before after : List LaunchStep} {p : String} {r : StartResult}
    (hs : ss = before ++ .start p r :: after) : before.count .prepare = specs.length := by
  obtain ⟨ns', m, m', hbefore, hstep⟩ := h.exists_before hs
  obtain ⟨prepared, es, hc⟩ := hbefore.course hn
  cases step_cases hstep with
  | own _ _ hb =>
    rw [hc.prepares, hc.eq_all (hb rfl), ← List.length_map (f := (·.spec)),
      map_spec_preparations]

/-- No process is started before the pipes of all have been tried. Every task reports once, and can
always get to its report; a process without its pipes reports that, and is never started. The
summary comes when all have reported and are drained, and it has for each process what follows from
the making of its pipes and its own steps. -/
theorem processes_supervised {files : σ} {mode : Nat} {specs : List PlannedProcess}
    (hn : (specs.map (·.name)).Nodup) (h : Run (ofSpecs files mode specs) ss ns l) :
    (∀ before p r after, ss = before ++ .start p r :: after →
      before.count .prepare = specs.length) ∧
    (∀ x ∈ preparations mode files specs,
      (∀ r, .start x.spec.name r ∈ ss → x.result = .ok ()) ∧
      (ns ++ l.tally.queue).filter (·.process == x.spec.name) =
        (x.reports ss).map (⟨x.spec.name, ·⟩) ∧
      (x.reports ss).length ≤ 1) ∧
    (∀ n ∈ ns ++ l.tally.queue, n.process ∈ specs.map (·.name)) ∧
    (l.unprepared ≠ [] → (l.step? .prepare).isSome = true) ∧
    (l.unprepared = [] → ∀ x ∈ preparations mode files specs, x.reports ss = [] →
      Attends l x ss) ∧
    (l.unprepared = [] → (∀ x ∈ preparations mode files specs, x.reports ss ≠ [] ∧
        (.start x.spec.name .started ∈ ss → .timeout x.spec.name ∉ ss →
          ∀ stream, .drained x.spec.name stream ∈ ss)) →
      ∃ later ns' k, Run l later ns' k ∧ (∀ s ∈ later, s = .tally ∨ ∃ ms, s = .timePasses ms) ∧
        k.summary?.isSome = true) ∧
    ∀ s, l.summary? = some s →
      s.launched = specs.length ∧ s.succeeded + s.failed.length = specs.length ∧
      s.succeeded = (preparations mode files specs).countP
        (fun x => (x.reports ss).all (·.failure?.isNone)) ∧
      (∀ f ∈ s.failed, f.process ∈ specs.map (·.name) ∧ f.reason ≠ .lost) ∧
      (∀ x ∈ preparations mode files specs,
        (∃ o, x.reports ss = [o] ∧ s.failed.filter (·.process == x.spec.name) =
          (Notice.failure? ⟨x.spec.name, o⟩).toList) ∧
        ∀ cause, x.result = .error cause → s.failed.filter (·.process == x.spec.name) =
          [⟨x.spec.name, .error .resource (RunError.pipe x.spec.name cause).message⟩]) ∧
      ∀ files' mode' specs' ss' ns' l' s', (specs'.map (·.name)).Nodup →
        Run (ofSpecs (σ := σ) files' mode' specs') ss' ns' l' → l'.summary? = some s' →
        ∀ x ∈ preparations mode files specs, x ∈ preparations mode' files' specs' →
          ownSteps x.spec.name ss' = ownSteps x.spec.name ss →
          s'.failed.filter (·.process == x.spec.name) =
            s.failed.filter (·.process == x.spec.name) := by
  obtain ⟨prepared, es, hc⟩ := h.course hn
  have hnames := map_name_preparations mode files specs
  have hlength : (preparations mode files specs).length = specs.length := by
    rw [← List.length_map, hnames, List.length_map]
  have hnodup : ((preparations mode files specs).map (·.spec.name)).Nodup := hnames ▸ hn
  refine ⟨fun before p r after hs => h.count_prepare_before_start hn hs, fun x hx => ?_,
    fun n hm => ?_, fun hu => ?_, fun hu x hx hr => ?_, fun hu hall => ?_, fun s hs => ?_⟩
  · obtain ⟨hfilter, hlength⟩ := hc.notices hx
    exact ⟨fun r hm => hc.result_of_start hx hm, hfilter, hlength⟩
  · obtain ⟨x, hx, hname, -⟩ := hc.exists_of_notice hm
    rw [← hname, ← hnames, ← hc.all, List.map_append]
    exact List.mem_append_left _ (List.mem_map_of_mem hx)
  · obtain ⟨spec, rest, hspec⟩ := List.exists_cons_of_ne_nil hu
    simp [step?, hspec]
  · obtain rfl := hc.eq_all hu
    exact hc.attends hu hx hr
  · obtain rfl := hc.eq_all hu
    exact hc.exists_summary hu (fun x hx => (hall x hx).1) fun x hx => (hall x hx).2
  · obtain rfl := hc.eq_all (hc.unprepared_of_finished (Tally.summary?_eq_some_iff.1 hs).1)
    obtain ⟨hlaunched, hsum, hsucceeded, hfailed⟩ := hc.counts hnodup hs
    refine ⟨hlaunched.trans hlength, hsum.trans hlength, hsucceeded, fun f hm => ?_,
      fun x hx => ⟨hc.filter_failed hnodup hs hx, fun cause hcause => ?_⟩,
      fun files' mode' specs' ss' ns' l' s' hn' h' hs' x hx hx' hown => ?_⟩
    · rw [← hnames]
      exact hfailed f hm
    · obtain ⟨o, ho, hfilter⟩ := hc.filter_failed hnodup hs hx
      rw [hfilter, hc.reports_of_error hx hcause ho]
      rfl
    · -- both launches have for the process what its report says, and the reports are the same
      obtain ⟨prepared', es', hc'⟩ := h'.course hn'
      obtain rfl := hc'.eq_all (hc'.unprepared_of_finished (Tally.summary?_eq_some_iff.1 hs').1)
      have hnodup' : ((preparations mode' files' specs').map (·.spec.name)).Nodup :=
        map_name_preparations mode' files' specs' ▸ hn'
      obtain ⟨o, ho, hfilter⟩ := hc.filter_failed hnodup hs hx
      obtain ⟨o', ho', hfilter'⟩ := hc'.filter_failed hnodup' hs' hx'
      rw [Preparation.reports, hown, ← Preparation.reports, ho] at ho'
      rw [hfilter, hfilter', List.singleton_inj.1 ho']

/-- One process ends well after its report has overtaken its output, the pipe of another is in the
way of a file, and the third cannot be started. -/
theorem processes_supervised_of_blocked :
    let pipes (name : String) : NodePipes := ⟨[⟨"IN", Text.toBytes name, .network⟩], []⟩
    let specs : List PlannedProcess := [⟨"A", "bin/a", pipes "A.IN", {}⟩,
      ⟨"B", "bin/b", pipes "B.IN", {}⟩, ⟨"C", "bin/c", {}, {}⟩]
    let files : FileTree := ⟨[([Text.toBytes "B.IN"], .regular [] 0o644)], []⟩
    let ss : List LaunchStep := [.prepare, .prepare, .prepare, .start "C" (.failed (.os 2)),
      .start "A" .started, .exit "A" (.ofCode 0), .tally, .tally, .tally, .timePasses 5,
      .output "A" .stderr [33], .streamEnd "A" .stdout, .drained "A" .stdout,
      .streamEnd "A" .stderr, .refuse "B", .drained "A" .stderr, .tally, .tally, .tally, .tally]
    (specs.map (·.name)).Nodup ∧ ∃ ns l s, Run (ofSpecs files 0o770 specs) ss ns l ∧
      l.summary? = some s ∧ s.launched = 3 ∧ s.succeeded + s.failed.length = 3 ∧
      s.failed.filter (·.process == "B") = [⟨"B", .error .resource
        "process B: refusing to replace B.IN: existing file is not a fifo"⟩] := by
  intro pipes specs files ss
  have hn : (specs.map (·.name)).Nodup := by decide
  have ha : files.Leads (Text.toBytes "A.IN") [] (Text.toBytes "A.IN") :=
    FileTree.leads_of_name ⟨by decide, by decide, by decide, by decide⟩ (by decide) (by decide) rfl
  have hb : (files.put [Text.toBytes "A.IN"] (.pipe 0o770)).Leads (Text.toBytes "B.IN") []
      (Text.toBytes "B.IN") :=
    FileTree.leads_of_name ⟨by decide, by decide, by decide, by decide⟩ (by decide) (by decide) rfl
  have hmade : NamedPipe.createAll files 0o770 [Text.toBytes "A.IN"] =
      (.ok (), files.put [Text.toBytes "A.IN"] (.pipe 0o770)) := by
    rw [NamedPipe.createAll, FileTree.create_eq ha (by decide)]
    rfl
  have hblocked : NamedPipe.createAll (files.put [Text.toBytes "A.IN"] (.pipe 0o770)) 0o770
      [Text.toBytes "B.IN"] = (.error (.notAFifo (Text.toBytes "B.IN")),
        files.put [Text.toBytes "A.IN"] (.pipe 0o770)) := by
    rw [NamedPipe.createAll, FileTree.create_eq hb (by decide)]
    rfl
  -- the pipes are made one by one, and the rest can be computed
  let l₃ : Launch FileTree :=
    { files := files.put [Text.toBytes "A.IN"] (.pipe 0o770), pipeMode := 0o770, unprepared := []
      tasks := NameMap.ofList [
        ("A", { spec := ⟨"A", "bin/a", pipes "A.IN", {}⟩, stage := .ready }),
        ("B", { spec := ⟨"B", "bin/b", pipes "B.IN", {}⟩
                stage := .blocked (.notAFifo (Text.toBytes "B.IN")) }),
        ("C", { spec := ⟨"C", "bin/c", {}, {}⟩, stage := .ready })]
      tally := .ofProcesses 2000 ["A", "B", "C"] }
  have hprepared : [LaunchStep.prepare, .prepare, .prepare].foldlM step?
      (ofSpecs files 0o770 specs) = some l₃ := by
    simp [step?, ofSpecs, prepareOne, NamedPipe.createAll, NodePipes.ownedPipes, Tally.ofProcesses,
      NameMap.ofList, specs, pipes, l₃, hmade, hblocked]
  have hrest : ((ss.foldlM step? (ofSpecs files 0o770 specs)).bind summary?).isSome = true := by
    have hsplit : ss = [.prepare, .prepare, .prepare] ++ ss.drop 3 := rfl
    rw [hsplit, List.foldlM_append, hprepared]
    decide +kernel
  obtain ⟨s, hs⟩ := Option.isSome_iff_exists.1 hrest
  obtain ⟨l, hl, hs⟩ := Option.bind_eq_some_iff.1 hs
  obtain ⟨ns, hrun⟩ := run_of_foldlM ss hl
  obtain ⟨-, -, -, -, -, -, hsummary⟩ := processes_supervised hn hrun
  obtain ⟨hlaunched, hsum, -, -, hown, -⟩ := hsummary s hs
  refine ⟨hn, ns, l, s, hrun, hs, hlaunched, hsum, ?_⟩
  have hpreparations : preparations 0o770 files specs = [⟨specs[0], .ok ()⟩,
      ⟨specs[1], .error (.notAFifo (Text.toBytes "B.IN"))⟩, ⟨specs[2], .ok ()⟩] := by
    simp [preparations, NamedPipe.createAll, NodePipes.ownedPipes, specs, pipes, hmade, hblocked]
  have hblocked := (hown ⟨specs[1], .error (.notAFifo (Text.toBytes "B.IN"))⟩
    (by rw [hpreparations]; simp)).2 _ rfl
  refine hblocked.trans ?_
  decide +kernel

end Launch

end Pipework
