import Pipework.Proofs.Run.Supervision
import Pipework.Rehearsal

/-! A rehearsal is a run. Whatever the machine tells, the launch takes it up in steps, so all that
holds of runs holds of the networks that the program runs. -/

namespace Pipework

namespace Launch

variable {σ : Type} [PipeStore σ] {a l k : Launch σ} {ss : List LaunchStep} {ns : List Notice}
  {s : LaunchStep}

theorem unprepared_of_step? (hs : l.step? s = some k) (hu : l.unprepared = []) :
    k.unprepared = [] := by
  cases step_cases hs with
  | prepare spec rest hspec =>
    rw [hu] at hspec
    cases hspec
  | own _ _ _ => exact hu
  | tally _ _ _ => exact hu
  | timePasses ms => exact hu

/-- The launch is on a run, and all pipes have been made. -/
structure Underway (a l : Launch σ) : Prop where
  run : ∃ ss ns, Run a ss ns l
  unprepared : l.unprepared = []

theorem Underway.settle (h : Underway a l) : Underway a l.settle := by
  obtain ⟨ss, ns, hrun⟩ := h.run
  obtain ⟨ns', hsettle⟩ := (Tally.Run.start (a := l.tally)).settle
  obtain ⟨later, hlater, -⟩ := run_of_tally hsettle rfl h.unprepared nofun
  exact ⟨⟨_, _, hrun.trans hlater⟩, h.unprepared⟩

theorem Underway.advance (h : Underway a l) (s : LaunchStep) : Underway a (l.advance s) := by
  unfold Launch.advance
  cases hs : l.step? s with
  | none => exact h.settle
  | some k =>
    obtain ⟨ss, ns, hrun⟩ := h.run
    exact Underway.settle ⟨⟨_, _, hrun.step hs⟩, unprepared_of_step? hs h.unprepared⟩

theorem Run.prepareAll (h : Run a ss ns l) : Underway a l.prepareAll := by
  -- each turn of the fold is a step, since the process at hand is the next one
  have hfold (specs : List PlannedProcess) : ∀ {ss ns} {l : Launch σ}, Run a ss ns l →
      l.unprepared = specs → Underway a (specs.foldl prepareOne l) := by
    induction specs with
    | nil => exact fun h hu => ⟨⟨_, _, h⟩, hu⟩
    | cons spec specs ih =>
      intro ss ns l h hu
      have hs : l.step? .prepare = some (l.prepareOne spec) := by simp [step?, hu]
      refine ih (h.step hs) ?_
      rw [prepareOne_eq, hu]
      rfl
  exact (hfold _ h rfl).settle

end Launch

namespace Rehearsal

open Launch

variable {a : Launch FileTree} {r : Rehearsal}

theorem underway_foldl {β : Type} {f : Rehearsal → β → Rehearsal}
    (hf : ∀ r b, Underway a r.launch → Underway a (f r b).launch) (bs : List β)
    (h : Underway a r.launch) : Underway a (bs.foldl f r).launch := by
  induction bs generalizing r with
  | nil => exact h
  | cons b bs ih => exact ih (hf r b h)

theorem underway_advance (h : Underway a r.launch) (s : LaunchStep) :
    Underway a (r.advance s).launch := h.advance s

theorem underway_takeUp (h : Underway a r.launch) : Underway a r.takeUp.launch :=
  underway_foldl (fun _ s hr => underway_advance hr s) _ h

theorem underway_tellTime (h : Underway a r.launch) : Underway a r.tellTime.launch := by
  unfold tellTime
  dsimp only
  split
  · exact h
  · exact underway_advance h _

theorem underway_begin (limit : Option Duration) (task : String × LaunchTask)
    (h : Underway a r.launch) : Underway a (begin limit r task).launch := by
  unfold begin
  dsimp only
  split
  · split
    · exact h.advance _
    · exact h.advance _
  · exact h.advance _

theorem underway_kill (p : String) (h : Underway a r.launch) : Underway a (r.kill p).launch := by
  unfold kill
  dsimp only
  split
  · exact underway_takeUp (h.advance _)
  · exact h.advance _

theorem underway_enforce (h : Underway a r.launch) : Underway a r.enforce.launch :=
  underway_foldl (fun _ l hr => underway_kill l.1 hr) _ h

theorem underway_round? {r' : Rehearsal} (h : Underway a r.launch) (hr : r.round? = some r') :
    Underway a r'.launch := by
  have hround (m : Machine) : Underway a
      ({ r with machine := m }.takeUp).tellTime.enforce.launch :=
    underway_enforce (underway_tellTime (underway_takeUp h))
  unfold round? at hr
  dsimp only at hr
  split at hr
  · obtain rfl := Option.some.inj hr
    exact hround _
  · obtain ⟨time, -, rfl⟩ := Option.map_eq_some_iff.1 hr
    exact underway_enforce (underway_tellTime (hround _))

theorem underway_goOn (rounds : Nat) (h : Underway a r.launch) :
    Underway a (goOn rounds r).launch := by
  induction rounds generalizing r with
  | zero => exact h
  | succ rounds ih =>
    unfold goOn
    split
    · exact h
    · split
      · rename_i r' hr
        exact ih (underway_round? h hr)
      · exact h

/-- What the program does with a network is a run of its launch. -/
theorem underway_run (files : FileTree) (mode : Nat) (limit : Option Duration)
    (specs : List PlannedProcess) :
    Underway (ofSpecs files mode specs) (run files mode limit specs).launch := by
  have hstart : Underway (ofSpecs files mode specs) (start files mode limit specs).launch :=
    underway_foldl (fun _ task hr => underway_begin limit task hr) _ Run.start.prepareAll
  exact underway_goOn maxRounds hstart

end Rehearsal

end Pipework
