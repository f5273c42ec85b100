import Pipework.Proofs.Run.Steps
import Pipework.Run.Launch

/-! The steps of a launch. A step of a process is decided by the task of the process alone and
changes no other task; what the others see of it are the lines that it logs and what it tells the
tally. -/

namespace Pipework

/-- The process that takes a step. -/
def LaunchStep.process? : LaunchStep → Option String
  | .prepare | .tally | .timePasses _ => none
  | .refuse p | .start p _ | .output p _ _ | .streamEnd p _ | .readFailure p _ | .drained p _
  | .exit p _ | .waitFailure p _ | .timeout p => some p

/-- Is this the first step of a task? -/
def LaunchStep.begins : LaunchStep → Bool
  | .refuse _ | .start _ _ => true
  | _ => false

/-- What a step makes of the task of its process, with the lines that it logs and what it tells the
tally. -/
inductive LaunchTask.Step (p : String) (t : LaunchTask) :
    LaunchStep → LaunchTask → List OutputLine → List Tally.Event → Prop
  | refuse (cause : PipeError) (h : t.stage = .blocked cause) :
      Step p t (.refuse p) { t with stage := .reported } []
        [.marksDropped p, .notice ⟨p, .failed (.pipe p cause)⟩]
  | start (h : t.stage = .ready) :
      Step p t (.start p .started) { t with stage := .running, drains := {} } [] []
  | startFailure (cause : IoError) (h : t.stage = .ready) :
      Step p t (.start p (.failed cause)) { t with stage := .reported } []
        [.marksDropped p, .notice ⟨p, .failed (.spawn p t.spec.component cause)⟩]
  | noCapture (stream : OutputStream) (h : t.stage = .ready) :
      Step p t (.start p (.noCapture stream)) { t with stage := .reported } []
        [.marksDropped p, .notice ⟨p, .failed (.noCapture p stream.toText)⟩]
  | output (stream : OutputStream) (octets : Bytes) (line : LineBuffer)
      (h : t.drains.get stream = .reading line) :
      Step p t (.output p stream octets)
        { t with drains := t.drains.set (.reading (line.feed octets).2) stream }
        ((line.feed octets).1.map fun text => ⟨p, stream, text⟩) []
  | streamEnd (stream : OutputStream) (line : LineBuffer)
      (h : t.drains.get stream = .reading line) :
      Step p t (.streamEnd p stream) { t with drains := t.drains.set .ended stream }
        (line.finish.map fun text => ⟨p, stream, text⟩) []
  | readFailure (stream : OutputStream) (line : LineBuffer)
      (h : t.drains.get stream = .reading line) :
      Step p t (.readFailure p stream) { t with drains := t.drains.set .ended stream } [] []
  | drained (stream : OutputStream) (h : t.drains.get stream = .ended) :
      Step p t (.drained p stream) { t with drains := t.drains.set .idle stream } []
        [Launch.drainEvent p stream]
  | exit (status : WaitStatus) (h : t.stage = .running) :
      Step p t (.exit p status) { t with stage := .reported } [] [.notice ⟨p, .exited status⟩]
  | waitFailure (cause : IoError) (h : t.stage = .running) :
      Step p t (.waitFailure p cause) { t with stage := .reported } []
        [.notice ⟨p, .failed (.wait p cause)⟩]
  | timeout (h : t.stage = .running) :
      Step p t (.timeout p) { t with stage := .reported } [] [.notice ⟨p, .timedOut⟩]

theorem LaunchTask.Step.process?_eq {p : String} {t t' : LaunchTask} {s : LaunchStep}
    {lines : List OutputLine} {events : List Tally.Event} (h : t.Step p s t' lines events) :
    s.process? = some p := by
  cases h <;> rfl

namespace Launch

variable {σ : Type} {l k : Launch σ} {s : LaunchStep}

/-- What the tally hears of a step of a process. The last report also closes the way for
reports. -/
def told (l : Launch σ) (p : String) (t : LaunchTask) (events : List Tally.Event) :
    List Tally.Event :=
  events ++ if events.any (·.notice?.isSome) && (l.setTask p t).allReported then [.closed] else []

/-- The launch after a step of a process. -/
def enact (l : Launch σ) (p : String) (t : LaunchTask) (lines : List OutputLine)
    (events : List Tally.Event) : Launch σ :=
  { l with
    tasks := l.tasks.insert p t, log := l.log ++ lines
    tally := (l.told p t events).foldl Tally.apply l.tally }

/-- What a step of a launch can be. -/
inductive Step [PipeStore σ] (l : Launch σ) : LaunchStep → Launch σ → Prop
  | prepare (spec : PlannedProcess) (rest : List PlannedProcess)
      (hu : l.unprepared = spec :: rest) : Step l .prepare (l.prepareOne spec)
  | own {p s t t' lines events} (ht : l.tasks.get? p = some t)
      (h : t.Step p s t' lines events) (hb : s.begins = true → l.unprepared = []) :
      Step l s (l.enact p t' lines events)
  | tally (c : Tally) (hu : l.unprepared = []) (hs : l.tally.step? = some c) :
      Step l .tally { l with tally := c }
  | timePasses (ms : Nat) : Step l (.timePasses ms) (l.tell (.timePasses ms))

theorem report_eq_enact (l : Launch σ) (p : String) (t : LaunchTask) (o : Outcome) :
    l.report p t o = l.enact p { t with stage := .reported } [] [.notice ⟨p, o⟩] := by
  have hall : ((l.setTask p { t with stage := .reported }).tell (.notice ⟨p, o⟩)).allReported =
      (l.setTask p { t with stage := .reported }).allReported := rfl
  simp only [report, enact, told, hall, Tally.Event.notice?, List.any_cons, List.any_nil,
    Option.isSome_some, Bool.or_false, Bool.true_and, List.append_nil]
  split <;> rfl

theorem abandon_eq_enact (l : Launch σ) (p : String) (t : LaunchTask) (cause : RunError) :
    l.abandon p t cause = l.enact p { t with stage := .reported } []
      [.marksDropped p, .notice ⟨p, .failed cause⟩] := by
  rw [abandon, report_eq_enact]
  simp [enact, told, tell, setTask, allReported, Tally.Event.notice?]

theorem read_eq_some_iff {p : String} {stream : OutputStream}
    {f : LineBuffer → List String × DrainStage} : l.read p stream f = some k ↔
      ∃ t line, l.tasks.get? p = some t ∧ t.drains.get stream = .reading line ∧
        k = l.enact p { t with drains := t.drains.set (f line).2 stream }
          ((f line).1.map fun text => ⟨p, stream, text⟩) [] := by
  unfold read
  cases ht : l.tasks.get? p with
  | none => simp
  | some t =>
    cases hd : t.drains.get stream with
    | reading line => simp [hd, enact, told, setTask, logLines, eq_comm]
    | ended => simp [hd]
    | idle => simp [hd]

theorem finish_eq_some_iff {p : String} {o : Outcome} : l.finish p o = some k ↔
    ∃ t, l.tasks.get? p = some t ∧ t.stage = .running ∧
      k = l.enact p { t with stage := .reported } [] [.notice ⟨p, o⟩] := by
  unfold finish
  cases ht : l.tasks.get? p with
  | none => simp
  | some t => cases hs : t.stage <;> simp [hs, report_eq_enact, eq_comm]

/-- All that a step can be. -/
theorem step_cases [PipeStore σ] (h : l.step? s = some k) : l.Step s k := by
  cases s with
  | prepare =>
    simp only [step?] at h
    split at h
    · rename_i spec rest hu
      obtain rfl := Option.some.inj h
      exact .prepare spec rest hu
    · cases h
  | refuse p =>
    simp only [step?] at h
    split at h
    · rename_i t ht
      split at h
      · rename_i cause hs
        split at h
        · rename_i hu
          obtain rfl := Option.some.inj h
          rw [abandon_eq_enact]
          exact .own ht (.refuse cause hs) fun _ => List.isEmpty_iff.1 hu
        · cases h
      · cases h
    · cases h
  | start p result =>
    simp only [step?] at h
    split at h
    · rename_i t ht
      split at h
      · rename_i hs
        split at h
        · rename_i hu
          obtain rfl := Option.some.inj h
          have hb (_ : (LaunchStep.start p result).begins = true) : l.unprepared = [] :=
            List.isEmpty_iff.1 hu
          cases result with
          | started =>
            have heq : l.begin p t .started =
                l.enact p { t with stage := .running, drains := {} } [] [] := by
              simp [begin, setTask, enact, told]
            rw [heq]
            exact .own ht (.start hs) hb
          | failed cause =>
            rw [begin, abandon_eq_enact]
            exact .own ht (.startFailure cause hs) hb
          | noCapture stream =>
            rw [begin, abandon_eq_enact]
            exact .own ht (.noCapture stream hs) hb
        · cases h
      · cases h
    · cases h
  | output p stream octets =>
    simp only [step?] at h
    obtain ⟨t, line, ht, hd, rfl⟩ := read_eq_some_iff.1 h
    exact .own ht (.output stream octets line hd) (by simp [LaunchStep.begins])
  | streamEnd p stream =>
    simp only [step?] at h
    obtain ⟨t, line, ht, hd, rfl⟩ := read_eq_some_iff.1 h
    exact .own ht (.streamEnd stream line hd) (by simp [LaunchStep.begins])
  | readFailure p stream =>
    simp only [step?] at h
    obtain ⟨t, line, ht, hd, rfl⟩ := read_eq_some_iff.1 h
    exact .own ht (.readFailure stream line hd) (by simp [LaunchStep.begins])
  | drained p stream =>
    simp only [step?] at h
    split at h
    · rename_i t ht
      split at h
      · rename_i hd
        obtain rfl := Option.some.inj h
        have heq : (l.setTask p { t with drains := t.drains.set .idle stream }).tell
            (drainEvent p stream) = l.enact p { t with drains := t.drains.set .idle stream } []
              [drainEvent p stream] := by
          cases stream <;> simp [tell, setTask, enact, told, drainEvent, Tally.Event.notice?]
        rw [heq]
        exact .own ht (.drained stream hd) (by simp [LaunchStep.begins])
      · cases h
    · cases h
  | exit p status =>
    simp only [step?] at h
    obtain ⟨t, ht, hs, rfl⟩ := finish_eq_some_iff.1 h
    exact .own ht (.exit status hs) (by simp [LaunchStep.begins])
  | waitFailure p cause =>
    simp only [step?] at h
    obtain ⟨t, ht, hs, rfl⟩ := finish_eq_some_iff.1 h
    exact .own ht (.waitFailure cause hs) (by simp [LaunchStep.begins])
  | timeout p =>
    simp only [step?] at h
    obtain ⟨t, ht, hs, rfl⟩ := finish_eq_some_iff.1 h
    exact .own ht (.timeout hs) (by simp [LaunchStep.begins])
  | tally =>
    simp only [step?] at h
    split at h
    · rename_i hu
      obtain ⟨c, hc, rfl⟩ := Option.map_eq_some_iff.1 h
      exact .tally c (List.isEmpty_iff.1 hu) hc
    · cases h
  | timePasses ms =>
    obtain rfl := Option.some.inj h
    exact .timePasses ms

/-- A step can be taken if the task of its process can take it. -/
theorem step?_of_own [PipeStore σ] {p : String} {t t' : LaunchTask} {lines : List OutputLine}
    {events : List Tally.Event} (ht : l.tasks.get? p = some t) (h : t.Step p s t' lines events)
    (hu : l.unprepared = []) : l.step? s = some (l.enact p t' lines events) := by
  cases h with
  | refuse cause hs => simp [step?, ht, hs, hu, abandon_eq_enact]
  | start hs => simp [step?, ht, hs, hu, begin, setTask, enact, told]
  | startFailure cause hs => simp [step?, ht, hs, hu, begin, abandon_eq_enact]
  | noCapture stream hs => simp [step?, ht, hs, hu, begin, abandon_eq_enact]
  | output stream octets line hd =>
    simp only [step?]
    exact read_eq_some_iff.2 ⟨t, line, ht, hd, rfl⟩
  | streamEnd stream line hd =>
    simp only [step?]
    exact read_eq_some_iff.2 ⟨t, line, ht, hd, rfl⟩
  | readFailure stream line hd =>
    simp only [step?]
    exact read_eq_some_iff.2 ⟨t, line, ht, hd, rfl⟩
  | drained stream hd =>
    cases stream <;>
      simp [step?, ht, hd, tell, setTask, enact, told, drainEvent, Tally.Event.notice?]
  | exit status hs => exact finish_eq_some_iff.2 ⟨t, ht, hs, rfl⟩
  | waitFailure cause hs => exact finish_eq_some_iff.2 ⟨t, ht, hs, rfl⟩
  | timeout hs => exact finish_eq_some_iff.2 ⟨t, ht, hs, rfl⟩

/-- A run from `a`, with its steps and the notices that its tally took. -/
inductive Run [PipeStore σ] (a : Launch σ) : List LaunchStep → List Notice → Launch σ → Prop
  | start : Run a [] [] a
  | step {ss ns l s k} (h : Run a ss ns l) (hs : l.step? s = some k) :
      Run a (ss ++ [s]) (ns ++ if s = .tally then l.tally.taken?.toList else []) k

section

variable [PipeStore σ] {a : Launch σ} {ss later : List LaunchStep} {ns ns' : List Notice}

theorem Run.trans (h : Run a ss ns l) (h' : Run l later ns' k) :
    Run a (ss ++ later) (ns ++ ns') k := by
  induction h' with
  | start => rwa [List.append_nil, List.append_nil]
  | step _ hs ih =>
    rw [← List.append_assoc, ← List.append_assoc]
    exact ih.step hs

/-- A run that takes a step has come to it by a run. -/
theorem Run.exists_before {before after : List LaunchStep}
    (h : Run a ss ns l) (hs : ss = before ++ s :: after) :
    ∃ ns' m m', Run a before ns' m ∧ m.step? s = some m' := by
  induction h generalizing after with
  | start => simp at hs
  | @step ss ns l s' k h hstep ih =>
    -- it is the last step of the run, or one of those before
    rcases List.eq_nil_or_concat after with rfl | ⟨after, last, rfl⟩
    · obtain ⟨rfl, hlast⟩ := List.append_inj' hs rfl
      obtain rfl := List.singleton_inj.1 hlast
      exact ⟨ns, l, k, h, hstep⟩
    · rw [List.concat_eq_append, ← List.cons_append, ← List.append_assoc] at hs
      exact ih (List.append_inj' hs rfl).1

/-- Steps that can be taken one after the other are a run. -/
theorem run_of_foldlM {k : Launch σ} (ss : List LaunchStep) (h : ss.foldlM step? a = some k) :
    ∃ ns, Run a ss ns k := by
  induction ss using List.reverseRecOn generalizing k with
  | nil =>
    obtain rfl := Option.some.inj h
    exact ⟨[], .start⟩
  | append_singleton ss s ih =>
    rw [List.foldlM_append] at h
    obtain ⟨l, hl, hs⟩ := Option.bind_eq_some_iff.1 h
    obtain ⟨ns, hrun⟩ := ih hl
    have hk : l.step? s = some k := by simpa using hs
    exact ⟨_, hrun.step hk⟩

end

end Launch

end Pipework
