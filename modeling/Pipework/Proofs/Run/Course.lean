import Pipework.Proofs.Run.Completion
import Pipework.Proofs.Run.Tasks

/-! A launch as its parts. A run of a launch is a run of the tally and a run of each task, which
share nothing but what the tally is told. While pipes are made, time passes and nothing else
happens. -/

namespace Pipework

/-- The process that an event is about. -/
def Tally.Event.process? : Tally.Event → Option String
  | .notice n => some n.process
  | .stdoutDrained p | .stderrDrained p | .stdoutDropped p | .stderrDropped p | .marksDropped p =>
    some p
  | .timePasses _ | .closed => none

namespace Tally

variable {a c : Tally} {es : List Event} {ns : List Notice}

theorem Run.foldl_apply (h : Run a es ns c) (events : List Event) :
    Run a (es ++ events) ns (events.foldl apply c) := by
  induction events using List.reverseRecOn with
  | nil => rwa [List.append_nil]
  | append_singleton events e ih =>
    rw [← List.append_assoc, List.foldl_append]
    exact ih.event e

theorem sent_append_of_closed (h : .closed ∈ es) (events : List Event) :
    sent (es ++ events) = sent es := by
  induction events using List.reverseRecOn with
  | nil => rw [List.append_nil]
  | append_singleton events e ih =>
    rw [← List.append_assoc, sent_append_of_mem (List.mem_append_left _ h), ih]

theorem sent_append_of_time (es : List Event) (ms : Nat) :
    sent (es ++ [.timePasses ms]) = sent es := by
  by_cases h : .closed ∈ es
  · exact sent_append_of_mem h _
  · rw [sent_append_of_not_mem h]
    exact List.append_nil _

theorem sent_append_of_open {events : List Event} (h : .closed ∉ es) (hevents : .closed ∉ events) :
    sent (es ++ events) = sent es ++ events.filterMap Event.notice? := by
  induction events using List.reverseRecOn with
  | nil => simp
  | append_singleton events e ih =>
    rw [List.mem_append, not_or] at hevents
    have hopen : .closed ∉ es ++ events := by
      rw [List.mem_append, not_or]
      exact ⟨h, hevents.1⟩
    rw [← List.append_assoc, sent_append_of_not_mem hopen, ih hevents.1, List.filterMap_append,
      List.append_assoc]
    cases e <;> rfl

end Tally

namespace LaunchTask.Step

variable {p : String} {t t' : LaunchTask} {s : LaunchStep} {lines : List OutputLine}
  {events : List Tally.Event}

theorem lines_process (h : t.Step p s t' lines events) : ∀ line ∈ lines, line.process = p := by
  cases h with
  | output stream octets line hd | streamEnd stream line hd =>
    intro line hm
    obtain ⟨text, -, rfl⟩ := List.mem_map.1 hm
    rfl
  | _ => nofun

theorem events_process (h : t.Step p s t' lines events) :
    ∀ e ∈ events, e.process? = some p := by
  cases h with
  | drained stream hd => cases stream <;> simp [Launch.drainEvent, Tally.Event.process?]
  | _ => simp [Tally.Event.process?]

/-- A step reports exactly if it is the one after which the task has reported. -/
theorem reports_iff (h : t.Step p s t' lines events) :
    events.any (·.notice?.isSome) = true ↔ t.stage ≠ .reported ∧ t'.stage = .reported := by
  cases h with
  | drained stream hd => cases stream <;> simp [Launch.drainEvent, Tally.Event.notice?]
  | output | streamEnd | readFailure => simp
  | _ => simp [Tally.Event.notice?, *]

theorem stage_of_reported (h : t.Step p s t' lines events) (ht : t.stage = .reported) :
    t'.stage = .reported := by
  cases h with
  | output | streamEnd | readFailure | drained => exact ht
  | start hs => cases hs.symm.trans ht
  | _ => rfl

/-- Nothing but its first step is open to a task that has not begun. -/
theorem begins_of_task {x : Preparation} (h : x.task.Step p s t' lines events) :
    s.begins = true := by
  cases h with
  | output stream octets line hd | streamEnd stream line hd | readFailure stream line hd
  | drained stream hd => cases (x.drains_task stream).symm.trans hd
  | exit status hs | waitFailure cause hs | timeout hs => exact absurd hs x.stage_task_ne_running
  | _ => rfl

end LaunchTask.Step

namespace Launch

variable {σ : Type} {l k : Launch σ} {s : LaunchStep}

theorem allReported_iff : l.allReported = true ↔
    l.unprepared = [] ∧ ∀ p t, l.tasks.get? p = some t → t.stage = .reported := by
  unfold allReported NameMap.values
  rw [Bool.and_eq_true, List.isEmpty_iff, List.all_map, List.all_eq_true]
  refine and_congr_right fun _ => ?_
  rw [NameMap.forall_entries_iff]
  simp

theorem filterMap_told (l : Launch σ) (p : String) (t : LaunchTask) (events : List Tally.Event) :
    (l.told p t events).filterMap Tally.Event.notice? = events.filterMap Tally.Event.notice? := by
  unfold told
  split
  · rw [List.filterMap_append]
    exact List.append_nil _
  · rw [List.append_nil]

theorem filter_told (l : Launch σ) (p q : String) (t : LaunchTask) (events : List Tally.Event) :
    (l.told p t events).filter (·.process? == some q) = events.filter (·.process? == some q) := by
  unfold told
  split
  · rw [List.filter_append]
    exact List.append_nil _
  · rw [List.append_nil]

theorem closed_mem_told {p : String} {t t' : LaunchTask} {lines : List OutputLine}
    {events : List Tally.Event} (hs : t.Step p s t' lines events) :
    .closed ∈ l.told p t' events ↔
      (t.stage ≠ .reported ∧ t'.stage = .reported) ∧ (l.setTask p t').allReported = true := by
  have hevents : .closed ∉ events := by
    intro hm
    cases hs.events_process _ hm
  rw [← hs.reports_iff, ← Bool.and_eq_true, told, List.mem_append, or_iff_right hevents]
  split
  · rename_i hall
    exact iff_of_true List.mem_cons_self hall
  · rename_i hall
    exact iff_of_false List.not_mem_nil hall

/-- All tasks have reported if the task at hand has and all others have. -/
theorem allReported_setTask_iff {p : String} {t : LaunchTask} :
    (l.setTask p t).allReported = true ↔ l.unprepared = [] ∧ t.stage = .reported ∧
      ∀ q u, q ≠ p → l.tasks.get? q = some u → u.stage = .reported := by
  rw [allReported_iff]
  refine and_congr_right fun _ => ?_
  change (∀ q u, (l.tasks.insert p t).get? q = some u → _) ↔ _
  constructor
  · intro h
    refine ⟨h p t (by rw [NameMap.get?_insert, if_pos rfl]), fun q u hq hu => h q u ?_⟩
    rw [NameMap.get?_insert, if_neg hq, hu]
  · rintro ⟨ht, hothers⟩ q u hu
    rw [NameMap.get?_insert] at hu
    split at hu
    · obtain rfl := Option.some.inj hu
      exact ht
    · rename_i hq
      exact hothers q u hq hu

/-- Where a launch stands after its steps, when the pipes of the processes in `prepared` have been
made: `es` is what the tally was told, and each task has run by itself. -/
structure Course [PipeStore σ] (all prepared : List Preparation) (ss : List LaunchStep)
    (es : List Tally.Event) (ns : List Notice) (l : Launch σ) : Prop where
  all : prepared ++ preparations l.pipeMode l.files l.unprepared = all
  prepares : ss.count .prepare = prepared.length
  tally : Tally.Run (.ofProcesses 2000 (prepared.map (·.spec.name))) es ns l.tally
  names : ∀ p, p ∈ l.tasks.names ↔ p ∈ prepared.map (·.spec.name)
  tasks : ∀ x ∈ prepared, ∃ t, l.tasks.get? x.spec.name = some t ∧
    LaunchTask.Run x.spec.name x.task (ownSteps x.spec.name ss)
      (l.log.filter (·.process == x.spec.name))
      (es.filter (·.process? == some x.spec.name)) t
  log : ∀ line ∈ l.log, line.process ∈ prepared.map (·.spec.name)
  sent : Tally.sent es = es.filterMap Tally.Event.notice?
  heard : ∀ n ∈ Tally.sent es, n.process ∈ prepared.map (·.spec.name)
  closed : .closed ∈ es ↔ prepared ≠ [] ∧ l.allReported = true
  early : l.unprepared ≠ [] → ns = [] ∧ l.log = [] ∧ (∀ s ∈ ss, s.process? = none) ∧
    ∃ time, es = [.timePasses time] ∧ l.tally =
      (Tally.ofProcesses 2000 (prepared.map (·.spec.name))).apply (.timePasses time)

section

variable [PipeStore σ] {all prepared : List Preparation} {ss : List LaunchStep}
  {es : List Tally.Event} {ns : List Notice}

theorem course_start (files : σ) (mode : Nat) (specs : List PlannedProcess) :
    Course (preparations mode files specs) [] [] [.timePasses 0] []
      (Launch.ofSpecs files mode specs) where
  all := rfl
  prepares := rfl
  tally := Tally.Run.start.event (.timePasses 0)
  names p := Iff.rfl
  tasks := nofun
  log := nofun
  sent := rfl
  heard := nofun
  closed := by simp
  early _ := ⟨rfl, rfl, nofun, 0, rfl, rfl⟩

theorem prepareOne_eq (l : Launch σ) (spec : PlannedProcess) :
    let made := NamedPipe.createAll l.files l.pipeMode (spec.pipes.ownedPipes.map (·.path))
    l.prepareOne spec = { l with
      files := made.2, unprepared := l.unprepared.drop 1
      tasks := l.tasks.insert spec.name (Preparation.task ⟨spec, made.1⟩)
      tally := l.tally.register spec.name } := rfl

theorem ofProcesses_append (grace : Nat) (processes : List String) (p : String) :
    Tally.ofProcesses grace (processes ++ [p]) =
      (Tally.ofProcesses grace processes).register p := by
  rw [Tally.ofProcesses, List.foldl_append]
  rfl

theorem Course.prepare (h : Course all prepared ss es ns l)
    (hn : (all.map (·.spec.name)).Nodup) {spec : PlannedProcess} {rest : List PlannedProcess}
    (hu : l.unprepared = spec :: rest) :
    ∃ x, Course all (prepared ++ [x]) (ss ++ [.prepare]) es ns (l.prepareOne spec) := by
  obtain ⟨rfl, hlog, hother, time, rfl, htally⟩ := h.early (by rw [hu]; nofun)
  let made := NamedPipe.createAll l.files l.pipeMode (spec.pipes.ownedPipes.map (·.path))
  let x : Preparation := ⟨spec, made.1⟩
  have hrest : l.unprepared.drop 1 = rest := by rw [hu]; rfl
  have hall : prepared ++ [x] ++ preparations l.pipeMode made.2 rest = all := by
    rw [← h.all, hu, List.append_assoc]
    rfl
  -- the name is a new one
  have hnew : ∀ y ∈ prepared, y.spec.name ≠ spec.name := by
    intro y hy he
    rw [← hall, List.map_append, List.map_append] at hn
    have hdisjoint := List.nodup_append.1 (List.nodup_append.1 hn).1
    exact hdisjoint.2.2 _ (List.mem_map_of_mem hy) _ (List.mem_singleton.2 rfl) he
  have hown (p : String) : ownSteps p (ss ++ [.prepare]) = ownSteps p ss :=
    ownSteps_append_of_none p rfl
  have hregister : l.tally.register spec.name =
      (Tally.ofProcesses 2000 ((prepared ++ [x]).map (·.spec.name))).apply (.timePasses time) := by
    rw [htally, List.map_append, List.map_singleton, ofProcesses_append]
    rfl
  refine ⟨x, ?_⟩
  rw [prepareOne_eq]
  refine ⟨?_, ?_, ?_, fun p => ?_, fun y hy => ?_, ?_, rfl, nofun, ?_, fun _ => ?_⟩
  · rw [← hall, ← hrest]
  · rw [List.count_append, h.prepares, List.length_append]
    rfl
  · rw [← List.nil_append [_]]
    change Tally.Run _ _ _ (l.tally.register spec.name)
    rw [hregister]
    exact Tally.Run.start.event _
  · rw [NameMap.mem_names_insert, h.names, List.map_append, List.mem_append, List.map_singleton,
      List.mem_singleton, or_comm]
  · change ∃ t, (l.tasks.insert spec.name x.task).get? y.spec.name = some t ∧ LaunchTask.Run _ _ _
      (l.log.filter _) _ t
    rw [hown, NameMap.get?_insert]
    rcases List.mem_append.1 hy with hy | hy
    · rw [if_neg (hnew y hy)]
      exact h.tasks y hy
    · obtain rfl := List.mem_singleton.1 hy
      rw [if_pos rfl, ownSteps_eq_nil hother, hlog]
      exact ⟨_, rfl, .start⟩
  · change ∀ line ∈ l.log, _
    rw [hlog]
    nofun
  · refine ⟨fun hc => by simp at hc, fun hr => ?_⟩
    have hreported := (allReported_iff.1 hr.2).2 spec.name x.task (by
      rw [NameMap.get?_insert, if_pos rfl])
    exact absurd hreported x.stage_task_ne_reported
  · refine ⟨rfl, hlog, fun s hs => ?_, time, rfl, hregister⟩
    rcases List.mem_append.1 hs with hs | hs
    · exact hother s hs
    · rw [List.mem_singleton.1 hs]
      rfl

theorem Course.timePasses (h : Course all prepared ss es ns l) (ms : Nat) :
    ∃ es', Course all prepared (ss ++ [.timePasses ms]) es' ns (l.tell (.timePasses ms)) := by
  have hown (p : String) : ownSteps p (ss ++ [.timePasses ms]) = ownSteps p ss :=
    ownSteps_append_of_none p rfl
  have hcount : (ss ++ [LaunchStep.timePasses ms]).count .prepare = prepared.length := by
    rw [List.count_append, h.prepares]
    rfl
  by_cases hu : l.unprepared = []
  · refine ⟨es ++ [.timePasses ms], h.all, hcount, h.tally.event _, h.names, fun x hx => ?_,
      h.log, ?_, ?_, ?_, fun he => absurd hu he⟩
    · obtain ⟨t, ht, hrun⟩ := h.tasks x hx
      refine ⟨t, ht, ?_⟩
      rw [hown, List.filter_append]
      exact (List.append_nil (es.filter _)).symm ▸ hrun
    · rw [Tally.sent_append_of_time, h.sent, List.filterMap_append]
      exact (List.append_nil _).symm
    · rw [Tally.sent_append_of_time]
      exact h.heard
    · rw [List.mem_append, or_iff_left (by simp)]
      exact h.closed
  · -- the pipes are still being made, and the time adds up
    obtain ⟨rfl, hlog, hother, time, rfl, htally⟩ := h.early hu
    have hsum : l.tally.apply (.timePasses ms) =
        (Tally.ofProcesses 2000 (prepared.map (·.spec.name))).apply (.timePasses (time + ms)) := by
      rw [htally]
      simp [Tally.apply, Nat.add_assoc]
    refine ⟨[.timePasses (time + ms)], h.all, hcount, ?_, h.names, fun x hx => ?_, h.log, rfl,
      fun n hn => absurd hn List.not_mem_nil, ?_,
      fun _ => ⟨rfl, hlog, fun s hs => ?_, _, rfl, hsum⟩⟩
    · change Tally.Run _ _ _ (l.tally.apply (.timePasses ms))
      rw [hsum, ← List.nil_append [_]]
      exact Tally.Run.start.event _
    · obtain ⟨t, ht, hrun⟩ := h.tasks x hx
      refine ⟨t, ht, ?_⟩
      rw [hown]
      exact hrun
    · refine ⟨fun hc => by simp at hc, fun hr => ?_⟩
      exact absurd (allReported_iff.1 hr.2).1 hu
    · rcases List.mem_append.1 hs with hs | hs
      · exact hother s hs
      · rw [List.mem_singleton.1 hs]
        rfl

theorem Course.tally_step (h : Course all prepared ss es ns l) {c : Tally}
    (hu : l.unprepared = []) (hs : l.tally.step? = some c) :
    Course all prepared (ss ++ [.tally]) es (ns ++ l.tally.taken?.toList)
      { l with tally := c } := by
  have hown (p : String) : ownSteps p (ss ++ [.tally]) = ownSteps p ss :=
    ownSteps_append_of_none p rfl
  refine ⟨h.all, ?_, h.tally.step hs, h.names, fun x hx => ?_, h.log, h.sent, h.heard, h.closed,
    fun he => absurd hu he⟩
  · rw [List.count_append, h.prepares]
    rfl
  · rw [hown]
    exact h.tasks x hx

theorem Course.mem_names (h : Course all prepared ss es ns l) {p : String} {t : LaunchTask}
    (ht : l.tasks.get? p = some t) : p ∈ prepared.map (·.spec.name) := by
  rw [← h.names, NameMap.mem_names_iff, ht]
  rfl

theorem Course.unprepared_of_step (h : Course all prepared ss es ns l) {p : String}
    {t t' : LaunchTask} {lines : List OutputLine} {events : List Tally.Event}
    (ht : l.tasks.get? p = some t) (hs : t.Step p s t' lines events)
    (hb : s.begins = true → l.unprepared = []) : l.unprepared = [] := by
  by_contra hu
  obtain ⟨-, -, hother, -⟩ := h.early hu
  obtain ⟨x, hx, rfl⟩ := List.mem_map.1 (h.mem_names ht)
  obtain ⟨t₀, ht₀, hrun⟩ := h.tasks x hx
  obtain rfl := Option.some.inj (ht₀.symm.trans ht)
  rw [ownSteps_eq_nil hother] at hrun
  obtain rfl := hrun.standing.eq_task
  exact hu (hb hs.begins_of_task)

section Own

variable {p : String} {t t' : LaunchTask} {lines : List OutputLine} {events : List Tally.Event}

/-- When the way for reports is closed, nobody is left to report. -/
theorem Course.sent_own (h : Course all prepared ss es ns l) (ht : l.tasks.get? p = some t)
    (hs : t.Step p s t' lines events) : Tally.sent (es ++ l.told p t' events) =
      (es ++ l.told p t' events).filterMap Tally.Event.notice? := by
  have hopen : .closed ∉ events := by
    intro hm
    cases hs.events_process _ hm
  rw [List.filterMap_append, filterMap_told, ← h.sent]
  by_cases hc : .closed ∈ es
  · -- the task at hand has reported like all others, so its step has no report
    have hreported := (allReported_iff.1 (h.closed.1 hc).2).2 p t ht
    have hsilent : events.filterMap Tally.Event.notice? = [] := by
      have hany := mt hs.reports_iff.1 fun hr => hr.1 hreported
      rw [List.filterMap_eq_nil_iff]
      intro e he
      by_contra hne
      exact hany (List.any_eq_true.2 ⟨e, he, Option.isSome_iff_ne_none.2 hne⟩)
    rw [hsilent, List.append_nil, Tally.sent_append_of_closed hc]
  · rw [told, ← List.append_assoc]
    split
    · rw [Tally.sent_append_of_not_mem, Tally.sent_append_of_open hc hopen]
      · exact List.append_nil _
      · rw [List.mem_append, not_or]
        exact ⟨hc, hopen⟩
    · rw [List.append_nil, Tally.sent_append_of_open hc hopen]

/-- One task goes on, and all others stay as they are. -/
theorem Course.tasks_own (h : Course all prepared ss es ns l) (ht : l.tasks.get? p = some t)
    (hs : t.Step p s t' lines events) {x : Preparation} (hx : x ∈ prepared) :
    ∃ u, (l.tasks.insert p t').get? x.spec.name = some u ∧
      LaunchTask.Run x.spec.name x.task (ownSteps x.spec.name (ss ++ [s]))
        ((l.log ++ lines).filter (·.process == x.spec.name))
        ((es ++ l.told p t' events).filter (·.process? == some x.spec.name)) u := by
  obtain ⟨u, hu, hrun⟩ := h.tasks x hx
  rw [NameMap.get?_insert, ownSteps_append, hs.process?_eq, List.filter_append,
    List.filter_append, filter_told]
  by_cases hxp : x.spec.name = p
  · obtain rfl := Option.some.inj (ht.symm.trans (hxp ▸ hu))
    have hlines : lines.filter (·.process == x.spec.name) = lines := by
      rw [List.filter_eq_self]
      intro line hm
      rw [hs.lines_process line hm, hxp]
      exact beq_self_eq_true p
    have hevents : events.filter (·.process? == some x.spec.name) = events := by
      rw [List.filter_eq_self]
      intro e hm
      rw [hs.events_process e hm, hxp]
      exact beq_self_eq_true (some p)
    rw [if_pos hxp, if_pos (by rw [hxp]), hlines, hevents]
    exact ⟨t', rfl, hrun.step (hxp ▸ hs)⟩
  · have hlines : lines.filter (·.process == x.spec.name) = [] := by
      rw [List.filter_eq_nil_iff]
      intro line hm
      rw [hs.lines_process line hm]
      simpa using Ne.symm hxp
    have hevents : events.filter (·.process? == some x.spec.name) = [] := by
      rw [List.filter_eq_nil_iff]
      intro e hm
      rw [hs.events_process e hm]
      simpa using Ne.symm hxp
    rw [if_neg hxp, if_neg (by simpa using Ne.symm hxp), hlines, hevents, List.append_nil,
      List.append_nil, List.append_nil]
    exact ⟨u, hu, hrun⟩

theorem Course.closed_own (h : Course all prepared ss es ns l) (ht : l.tasks.get? p = some t)
    (hs : t.Step p s t' lines events) (hu : l.unprepared = []) :
    .closed ∈ es ++ l.told p t' events ↔
      prepared ≠ [] ∧ (l.setTask p t').allReported = true := by
  have hne : prepared ≠ [] := by
    rintro rfl
    cases h.mem_names ht
  rw [List.mem_append, h.closed, closed_mem_told hs, allReported_iff, allReported_setTask_iff]
  -- the way has been closed before, or the step closes it
  constructor
  · rintro (⟨-, -, hall⟩ | ⟨-, hall⟩)
    · exact ⟨hne, hu, hs.stage_of_reported (hall p t ht), fun q u _ hq => hall q u hq⟩
    · exact ⟨hne, hall⟩
  · rintro ⟨-, hall⟩
    by_cases hreported : t.stage = .reported
    · refine Or.inl ⟨hne, hu, fun q u hq => ?_⟩
      by_cases hqp : q = p
      · obtain rfl := Option.some.inj (ht.symm.trans (hqp ▸ hq))
        exact hreported
      · exact hall.2.2 q u hqp hq
    · exact Or.inr ⟨⟨hreported, hall.2.1⟩, hall⟩

theorem Course.own (h : Course all prepared ss es ns l) (ht : l.tasks.get? p = some t)
    (hs : t.Step p s t' lines events) (hu : l.unprepared = []) :
    Course all prepared (ss ++ [s]) (es ++ l.told p t' events) ns
      (l.enact p t' lines events) := by
  have hp := h.mem_names ht
  have hsent := h.sent_own ht hs
  refine ⟨h.all, ?_, h.tally.foldl_apply _, fun q => ?_, fun x hx => h.tasks_own ht hs hx,
    fun line hm => ?_, hsent, fun n hm => ?_, h.closed_own ht hs hu, fun he => absurd hu he⟩
  · have hne : s ≠ .prepare := by
      rintro rfl
      cases hs.process?_eq
    rw [List.count_append, h.prepares, List.count_singleton, if_neg (by simpa using hne),
      Nat.add_zero]
  · change q ∈ (l.tasks.insert p t').names ↔ _
    rw [NameMap.mem_names_insert, h.names, or_iff_right_iff_imp]
    rintro rfl
    exact hp
  · rcases List.mem_append.1 hm with hm | hm
    · exact h.log line hm
    · rw [hs.lines_process line hm]
      exact hp
  · rw [hsent, List.filterMap_append, filterMap_told, ← h.sent, List.mem_append] at hm
    rcases hm with hm | hm
    · exact h.heard n hm
    · obtain ⟨e, he, hn⟩ := List.mem_filterMap.1 hm
      have hprocess := hs.events_process e he
      cases e <;> cases hn
      obtain rfl := Option.some.inj hprocess
      exact hp

end Own

/-- Every run of a launch has a course. -/
theorem Run.course {files : σ} {mode : Nat} {specs : List PlannedProcess}
    (hn : (specs.map (·.name)).Nodup)
    (h : Run (Launch.ofSpecs files mode specs) ss ns l) :
    ∃ prepared es, Course (preparations mode files specs) prepared ss es ns l := by
  have hnames : ((preparations mode files specs).map (·.spec.name)).Nodup := by
    rw [map_name_preparations]
    exact hn
  -- `prepared` grows while pipes are made, and is all from the first step of a process on
  induction h with
  | start => exact ⟨[], _, course_start files mode specs⟩
  | @step ss ns l s k h hs ih =>
    obtain ⟨prepared, es, hc⟩ := ih
    cases step_cases hs with
    | prepare spec rest hu =>
      obtain ⟨x, hx⟩ := hc.prepare hnames hu
      rw [if_neg nofun, List.append_nil]
      exact ⟨_, _, hx⟩
    | own ht hstep hb =>
      have hne : s ≠ .tally := by
        rintro rfl
        cases hstep.process?_eq
      rw [if_neg hne, List.append_nil]
      exact ⟨_, _, hc.own ht hstep (hc.unprepared_of_step ht hstep hb)⟩
    | tally c hu hc' =>
      rw [if_pos rfl]
      exact ⟨_, _, hc.tally_step hu hc'⟩
    | timePasses ms =>
      obtain ⟨es', hx⟩ := hc.timePasses ms
      rw [if_neg nofun, List.append_nil]
      exact ⟨_, _, hx⟩

end

end Launch

end Pipework
