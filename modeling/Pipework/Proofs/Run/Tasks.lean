import Pipework.Proofs.Run.Completion
import Pipework.Proofs.Run.Launching

/-! The task of one process. What it does and what it reports depends on how the making of its pipes
came out and on its own steps, and on nothing else. -/

namespace Pipework

/-- A process and what came of making its pipes. -/
structure Preparation where
  spec : PlannedProcess
  result : Except PipeError Unit

/-- What comes of making the pipes of each process, in order. -/
def preparations {σ : Type} [PipeStore σ] (mode : Nat) : σ → List PlannedProcess → List Preparation
  | _, [] => []
  | s, spec :: specs =>
    let made := NamedPipe.createAll s mode (spec.pipes.ownedPipes.map (·.path))
    ⟨spec, made.1⟩ :: preparations mode made.2 specs

theorem map_spec_preparations {σ : Type} [PipeStore σ] (mode : Nat) (s : σ)
    (specs : List PlannedProcess) : (preparations mode s specs).map (·.spec) = specs := by
  induction specs generalizing s with
  | nil => rfl
  | cons spec specs ih => rw [preparations, List.map_cons, ih]

theorem map_name_preparations {σ : Type} [PipeStore σ] (mode : Nat) (s : σ)
    (specs : List PlannedProcess) :
    (preparations mode s specs).map (·.spec.name) = specs.map (·.name) := by
  have h := congrArg (List.map (·.name)) (map_spec_preparations mode s specs)
  rwa [List.map_map] at h

namespace Preparation

/-- The task of the process before its first step. -/
def task (x : Preparation) : LaunchTask where
  spec := x.spec
  stage := match x.result with
    | .ok () => .ready
    | .error cause => .blocked cause

/-- The outcome that a step of the process reports, if it reports one. -/
def report? (x : Preparation) : LaunchStep → Option Outcome
  | .refuse _ => match x.result with
    | .ok () => none
    | .error cause => some (.failed (.pipe x.spec.name cause))
  | .start _ (.failed cause) => some (.failed (.spawn x.spec.name x.spec.component cause))
  | .start _ (.noCapture stream) => some (.failed (.noCapture x.spec.name stream.toText))
  | .exit _ status => some (.exited status)
  | .waitFailure _ cause => some (.failed (.wait x.spec.name cause))
  | .timeout _ => some .timedOut
  | _ => none

end Preparation

/-- The steps of one process. -/
def ownSteps (p : String) (ss : List LaunchStep) : List LaunchStep :=
  ss.filter (·.process? == some p)

section

variable {p : String} {ss : List LaunchStep} {s : LaunchStep}

theorem ownSteps_append (p : String) (ss : List LaunchStep) (s : LaunchStep) :
    ownSteps p (ss ++ [s]) = ownSteps p ss ++ if s.process? = some p then [s] else [] := by
  unfold ownSteps
  rw [List.filter_append, List.filter_singleton]
  by_cases h : s.process? = some p
  · simp [h]
  · rw [if_neg h, beq_eq_false_iff_ne.2 h]
    rfl

theorem ownSteps_append_of_none (p : String) (h : s.process? = none) :
    ownSteps p (ss ++ [s]) = ownSteps p ss := by
  rw [ownSteps_append, h, if_neg (Option.some_ne_none p).symm, List.append_nil]

theorem ownSteps_eq_nil (h : ∀ s ∈ ss, s.process? = none) : ownSteps p ss = [] := by
  rw [ownSteps, List.filter_eq_nil_iff]
  intro s hs
  rw [h s hs]
  nofun

theorem mem_ownSteps : s ∈ ownSteps p ss ↔ s ∈ ss ∧ s.process? = some p := by
  rw [ownSteps, List.mem_filter, beq_iff_eq]

theorem mem_ownSteps_of_process? (h : s.process? = some p) : s ∈ ownSteps p ss ↔ s ∈ ss := by
  rw [mem_ownSteps, and_iff_left h]

end

/-- A task from `a` on, with its steps, the lines that they logged and what they told the tally. -/
inductive LaunchTask.Run (p : String) (a : LaunchTask) :
    List LaunchStep → List OutputLine → List Tally.Event → LaunchTask → Prop
  | start : Run p a [] [] [] a
  | step {ss lines events t s t' lines' events'} (h : Run p a ss lines events t)
      (hs : t.Step p s t' lines' events') :
      Run p a (ss ++ [s]) (lines ++ lines') (events ++ events') t'

/-- Where the task of a process stands after its steps. -/
inductive Preparation.Standing (x : Preparation) (ss : List LaunchStep) (t : LaunchTask) : Prop
  | waiting (hs : ss = []) (ht : t = x.task)
  | running (hx : x.result = .ok ()) (hs : .start x.spec.name .started ∈ ss)
      (hr : ss.filterMap x.report? = []) (hspec : t.spec = x.spec) (ht : t.stage = .running)
  | reported (hx : ∀ r, .start x.spec.name r ∈ ss → x.result = .ok ())
      (hr : (ss.filterMap x.report?).length = 1) (hspec : t.spec = x.spec)
      (ht : t.stage = .reported)

namespace Preparation

variable {x : Preparation} {ss : List LaunchStep} {t t' : LaunchTask} {s : LaunchStep}
  {lines : List OutputLine} {events : List Tally.Event}

theorem stage_task_eq_ready_iff : x.task.stage = .ready ↔ x.result = .ok () := by
  unfold task
  cases x.result <;> simp

theorem stage_task_eq_blocked_iff {cause : PipeError} :
    x.task.stage = .blocked cause ↔ x.result = .error cause := by
  unfold task
  cases x.result <;> simp

theorem stage_task_ne_reported (x : Preparation) : x.task.stage ≠ .reported := by
  unfold task
  cases x.result <;> nofun

theorem stage_task_ne_running (x : Preparation) : x.task.stage ≠ .running := by
  unfold task
  cases x.result <;> nofun

/-- A process that has not been started has no streams. -/
theorem drains_task (x : Preparation) (stream : OutputStream) :
    x.task.drains.get stream = .idle := by
  cases stream <;> rfl

namespace Standing

theorem of_ready (h : x.Standing ss t) (ht : t.stage = .ready) :
    ss = [] ∧ t = x.task ∧ x.result = .ok () := by
  cases h with
  | waiting hs hw => exact ⟨hs, hw, stage_task_eq_ready_iff.1 (hw ▸ ht)⟩
  | running _ _ _ _ hr => cases hr.symm.trans ht
  | reported _ _ _ hr => cases hr.symm.trans ht

theorem of_blocked {cause : PipeError} (h : x.Standing ss t) (ht : t.stage = .blocked cause) :
    ss = [] ∧ t = x.task ∧ x.result = .error cause := by
  cases h with
  | waiting hs hw => exact ⟨hs, hw, stage_task_eq_blocked_iff.1 (hw ▸ ht)⟩
  | running _ _ _ _ hr => cases hr.symm.trans ht
  | reported _ _ _ hr => cases hr.symm.trans ht

theorem spec_eq (h : x.Standing ss t) : t.spec = x.spec := by
  cases h with
  | waiting _ hw => rw [hw, task]
  | running _ _ _ hspec _ => exact hspec
  | reported _ _ hspec _ => exact hspec

/-- A task that has taken no step is as it was. -/
theorem eq_task (h : x.Standing [] t) : t = x.task := by
  cases h with
  | waiting _ hw => exact hw
  | running _ hm _ _ _ => cases hm
  | reported _ hr _ _ => cases hr

/-- Reading a stream leaves a task where it stands. -/
theorem read (h : x.Standing ss t) {stream : OutputStream} (hd : t.drains.get stream ≠ .idle)
    (hs : x.report? s = none) (hstart : s.begins = false) (hspec : t'.spec = t.spec)
    (hstage : t'.stage = t.stage) : x.Standing (ss ++ [s]) t' := by
  have hreports : (ss ++ [s]).filterMap x.report? = ss.filterMap x.report? := by
    simp [hs]
  cases h with
  | waiting _ hw => exact absurd (hw ▸ drains_task x stream) hd
  | running hx hm hr hp ht =>
    exact .running hx (List.mem_append_left _ hm) (hreports.trans hr) (hspec.trans hp)
      (hstage.trans ht)
  | reported hx hr hp ht =>
    refine .reported (fun r hm => ?_) (hreports ▸ hr) (hspec.trans hp) (hstage.trans ht)
    rcases List.mem_append.1 hm with hm | hm
    · exact hx r hm
    · rw [← List.mem_singleton.1 hm] at hstart
      cases hstart

/-- The end of a process that is running. -/
theorem finish (h : x.Standing ss t) (ht : t.stage = .running) {o : Outcome}
    (hs : x.report? s = some o) : x.Standing (ss ++ [s]) { t with stage := .reported } := by
  cases h with
  | waiting _ hw => exact absurd (hw ▸ ht) x.stage_task_ne_running
  | running hx _ hr hp _ => exact .reported (fun _ _ => hx) (by simp [hr, hs]) hp rfl
  | reported _ _ _ hr => cases hr.symm.trans ht

theorem step (h : x.Standing ss t) (hs : t.Step x.spec.name s t' lines events) :
    x.Standing (ss ++ [s]) t' := by
  cases hs with
  | refuse cause ht =>
    obtain ⟨rfl, rfl, hx⟩ := h.of_blocked ht
    refine .reported (fun r hm => ?_) (by simp [report?, hx]) rfl rfl
    cases List.mem_singleton.1 hm
  | start ht =>
    obtain ⟨rfl, rfl, hx⟩ := h.of_ready ht
    exact .running hx (by simp) (by simp [report?]) rfl rfl
  | startFailure cause ht | noCapture stream ht =>
    obtain ⟨rfl, rfl, hx⟩ := h.of_ready ht
    exact .reported (fun _ _ => hx) (by simp [report?]) rfl rfl
  | output stream octets line hd | streamEnd stream line hd | readFailure stream line hd
  | drained stream hd => exact h.read (by rw [hd]; nofun) rfl rfl rfl rfl
  | exit status ht | waitFailure cause ht | timeout ht => exact h.finish ht rfl

/-- The tally hears of a process what the steps report. -/
theorem notices_step (h : x.Standing ss t) (hs : t.Step x.spec.name s t' lines events) :
    events.filterMap Tally.Event.notice? = ((x.report? s).map (⟨x.spec.name, ·⟩)).toList := by
  cases hs with
  | refuse cause ht =>
    obtain ⟨-, -, hx⟩ := h.of_blocked ht
    rw [report?, hx]
    rfl
  | startFailure cause ht =>
    rw [h.spec_eq]
    rfl
  | drained stream hd => cases stream <;> rfl
  | _ => rfl

end Standing

end Preparation

theorem Drains.get_set (d : Drains) (stage : DrainStage) (a b : OutputStream) :
    (d.set stage a).get b = if b = a then stage else d.get b := by
  cases a <;> cases b <;> rfl

theorem Launch.ends_drainEvent (p : String) (a b : OutputStream) :
    (Launch.drainEvent p a).ends p b = true ↔ b = a := by
  cases a <;> cases b <;> simp [Launch.drainEvent, Tally.Event.ends]

namespace LaunchTask.Run

variable {x : Preparation} {ss : List LaunchStep} {lines : List OutputLine}
  {events : List Tally.Event} {t : LaunchTask}

theorem standing (h : Run x.spec.name x.task ss lines events t) : x.Standing ss t := by
  induction h with
  | start => exact .waiting rfl rfl
  | step _ hs ih => exact ih.step hs

/-- What a process reports is a function of its own steps. -/
theorem notices (h : Run x.spec.name x.task ss lines events t) :
    events.filterMap Tally.Event.notice? = (ss.filterMap x.report?).map (⟨x.spec.name, ·⟩) := by
  induction h with
  | start => rfl
  | step h hs ih =>
    rw [List.filterMap_append, List.filterMap_append, List.map_append, ih,
      h.standing.notices_step hs, List.filterMap_cons, List.filterMap_nil]
    cases x.report? _ <;> rfl

/-- The marks of a process are pending while its streams are read, and before its first step. -/
theorem ends_iff (h : Run x.spec.name x.task ss lines events t) (stream : OutputStream) :
    (∃ e ∈ events, e.ends x.spec.name stream = true) ↔
      ss ≠ [] ∧ t.drains.get stream = .idle := by
  induction h with
  | start => simp
  | @step ss lines events t s t' lines' events' h hs ih =>
    simp only [List.mem_append, or_and_right, exists_or, ih]
    rw [and_iff_right (List.append_ne_nil_of_right_ne_nil _ (List.cons_ne_nil s []))]
    -- a task that runs or has a stream to read is not at its first step
    have hbegun (hd : t.stage = .running ∨ ∃ stream, t.drains.get stream ≠ .idle) : ss ≠ [] := by
      rintro rfl
      obtain rfl := h.standing.eq_task
      rcases hd with hd | ⟨stream, hd⟩
      · exact x.stage_task_ne_running hd
      · exact hd (x.drains_task stream)
    cases hs with
    | refuse cause ht =>
      obtain ⟨-, rfl, -⟩ := h.standing.of_blocked ht
      simp [Tally.Event.ends, x.drains_task stream]
    | start ht =>
      obtain ⟨rfl, -, -⟩ := h.standing.of_ready ht
      cases stream <;> simp [Drains.get]
    | startFailure cause ht | noCapture stream' ht =>
      obtain ⟨-, rfl, -⟩ := h.standing.of_ready ht
      simp [Tally.Event.ends, x.drains_task stream]
    | output stream' octets line hd | streamEnd stream' line hd | readFailure stream' line hd =>
      have hss := hbegun (.inr ⟨stream', by simp [hd]⟩)
      rw [and_iff_right hss, Drains.get_set]
      by_cases he : stream = stream'
      · simp [he, hd]
      · simp [he]
    | drained stream' hd =>
      have hss := hbegun (.inr ⟨stream', by simp [hd]⟩)
      rw [and_iff_right hss, Drains.get_set]
      simp only [List.mem_singleton, exists_eq_left, Launch.ends_drainEvent]
      by_cases he : stream = stream'
      · simp [he]
      · simp [he]
    | exit status ht | waitFailure cause ht | timeout ht =>
      rw [and_iff_right (hbegun (.inl ht))]
      simp [Tally.Event.ends]

/-- A stream is read from the start of its process until its mark fires. -/
theorem idle_iff (h : Run x.spec.name x.task ss lines events t) (stream : OutputStream) :
    t.drains.get stream = .idle ↔
      (.start x.spec.name .started ∈ ss → .drained x.spec.name stream ∈ ss) := by
  induction h with
  | start => simp [x.drains_task stream]
  | @step ss lines events t s t' lines' events' h hs ih =>
    simp only [List.mem_append, List.mem_singleton]
    cases hs with
    | start ht =>
      obtain ⟨rfl, -, -⟩ := h.standing.of_ready ht
      cases stream <;> simp [Drains.get]
    | output stream' octets line hd | streamEnd stream' line hd | readFailure stream' line hd =>
      rw [Drains.get_set]
      by_cases he : stream = stream'
      · obtain rfl := he
        rw [hd] at ih
        simpa using ih
      · simpa [he] using ih
    | drained stream' hd =>
      rw [Drains.get_set]
      by_cases he : stream = stream'
      · simp [he]
      · simpa [he] using ih
    | _ => simpa using ih

/-- All that a process without its pipes can do is to give up. -/
theorem eq_of_error (h : Run x.spec.name x.task ss lines events t) {cause : PipeError}
    (hx : x.result = .error cause) : ss = [] ∨ ss = [.refuse x.spec.name] ∧ t.stage = .reported ∧
      t.drains = x.task.drains := by
  induction h with
  | start => exact .inl rfl
  | @step ss lines events t s t' lines' events' h hs ih =>
    refine .inr ?_
    rcases ih with rfl | ⟨rfl, hstage, hdrains⟩
    · obtain rfl := h.standing.eq_task
      have hready : x.task.stage ≠ .ready := by
        rw [ne_eq, Preparation.stage_task_eq_ready_iff, hx]
        nofun
      cases hs with
      | refuse cause ht => exact ⟨rfl, rfl, rfl⟩
      | start ht | startFailure _ ht | noCapture _ ht => exact absurd ht hready
      | output stream _ _ hd | streamEnd stream _ hd | readFailure stream _ hd
      | drained stream hd => cases (x.drains_task stream).symm.trans hd
      | exit _ ht | waitFailure _ ht | timeout ht => exact absurd ht x.stage_task_ne_running
    · cases hs with
      | output stream _ _ hd | streamEnd stream _ hd | readFailure stream _ hd
      | drained stream hd =>
        rw [hdrains] at hd
        cases (x.drains_task stream).symm.trans hd
      | refuse _ ht | start ht | startFailure _ ht | noCapture _ ht | exit _ ht
      | waitFailure _ ht | timeout ht => cases hstage.symm.trans ht

end LaunchTask.Run

end Pipework
