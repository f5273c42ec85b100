import Pipework.Proofs.Files.Tree
import Pipework.Proofs.Run.Preparing

/-! Launches over two stores of files. A launch asks its store for nothing but pipes, so where two
stores answer alike, the launches over them take the same steps. A tree of files answers as the
table of the directory does in which the pipes of a network are made. -/

namespace Pipework

namespace Launch

variable {σ τ : Type} {l : Launch σ} {files : τ}

/-- The launch over another store. -/
def withFiles (l : Launch σ) (files : τ) : Launch τ :=
  { l with files := files }

theorem report_withFiles (l : Launch σ) (files : τ) (p : String) (t : LaunchTask) (o : Outcome) :
    (l.withFiles files).report p t o = (l.report p t o).withFiles files := by
  rw [report_eq_enact, report_eq_enact]
  rfl

theorem abandon_withFiles (l : Launch σ) (files : τ) (p : String) (t : LaunchTask)
    (cause : RunError) :
    (l.withFiles files).abandon p t cause = (l.abandon p t cause).withFiles files := by
  rw [abandon_eq_enact, abandon_eq_enact]
  rfl

theorem read_withFiles (l : Launch σ) (files : τ) (p : String) (stream : OutputStream)
    (f : LineBuffer → List String × DrainStage) :
    (l.withFiles files).read p stream f = (l.read p stream f).map (·.withFiles files) := by
  have htasks : (l.withFiles files).tasks = l.tasks := rfl
  simp only [read, htasks]
  cases l.tasks.get? p with
  | none => rfl
  | some t =>
    cases ht : t.drains.get stream with
    | reading line =>
      simp only [ht]
      rfl
    | ended | idle => simp [ht]

theorem finish_withFiles (l : Launch σ) (files : τ) (p : String) (o : Outcome) :
    (l.withFiles files).finish p o = (l.finish p o).map (·.withFiles files) := by
  have htasks : (l.withFiles files).tasks = l.tasks := rfl
  simp only [finish, htasks]
  cases l.tasks.get? p with
  | none => rfl
  | some t => cases ht : t.stage <;> simp [ht, report_withFiles]

/-- Only the making of pipes needs the store. -/
theorem step?_withFiles [PipeStore σ] [PipeStore τ] {step : LaunchStep} (h : step ≠ .prepare) :
    (l.withFiles files).step? step = (l.step? step).map (·.withFiles files) := by
  have htasks : (l.withFiles files).tasks = l.tasks := rfl
  have hunprepared : (l.withFiles files).unprepared = l.unprepared := rfl
  have htally : (l.withFiles files).tally = l.tally := rfl
  cases step with
  | prepare => exact absurd rfl h
  | refuse p =>
    simp only [step?, htasks, hunprepared, abandon_withFiles]
    cases l.tasks.get? p with
    | none => rfl
    | some t => cases ht : t.stage <;> simp [ht]
  | start p result =>
    simp only [step?, htasks, hunprepared]
    cases l.tasks.get? p with
    | none => rfl
    | some t =>
      have hbegin : (l.withFiles files).begin p t result =
          (l.begin p t result).withFiles files := by
        cases result with
        | started => rfl
        | failed cause => exact abandon_withFiles l files p t _
        | noCapture stream => exact abandon_withFiles l files p t _
      cases ht : t.stage <;> simp [ht, hbegin]
  | output p stream octets =>
    simp only [step?]
    exact read_withFiles l files p stream _
  | streamEnd p stream =>
    simp only [step?]
    exact read_withFiles l files p stream _
  | readFailure p stream =>
    simp only [step?]
    exact read_withFiles l files p stream _
  | drained p stream =>
    simp only [step?, htasks]
    cases l.tasks.get? p with
    | none => rfl
    | some t =>
      cases ht : t.drains.get stream with
      | ended =>
        simp only [ht]
        rfl
      | reading | idle => simp [ht]
  | exit p status => exact finish_withFiles l files p _
  | waitFailure p cause => exact finish_withFiles l files p _
  | timeout p => exact finish_withFiles l files p _
  | tally =>
    simp only [step?, hunprepared, htally]
    cases l.tally.step? <;> split <;> rfl
  | timePasses ms => rfl

end Launch

variable {σ τ : Type} [PipeStore σ] [PipeStore τ] {R : σ → τ → Prop} {a : σ} {b : τ} {mode : Nat}
  {ps : List Path} {specs : List PlannedProcess} {s : PlannedProcess}

/-- Making a pipe at one of the paths has the same result in related stores, and they stay
related. -/
def Alike (R : σ → τ → Prop) (mode : Nat) (ps : List Path) : Prop :=
  ∀ a b, R a b → ∀ p ∈ ps,
    (NamedPipe.create a p mode).1 = (NamedPipe.create b p mode).1 ∧
      R (NamedPipe.create a p mode).2 (NamedPipe.create b p mode).2

theorem Alike.mono {qs : List Path} (h : Alike R mode ps) (hqs : qs ⊆ ps) : Alike R mode qs :=
  fun a b hab p hp => h a b hab p (hqs hp)

theorem Alike.createAll (h : Alike R mode ps) (hab : R a b) :
    (NamedPipe.createAll a mode ps).1 = (NamedPipe.createAll b mode ps).1 ∧
      R (NamedPipe.createAll a mode ps).2 (NamedPipe.createAll b mode ps).2 := by
  induction ps generalizing a b with
  | nil => exact ⟨rfl, hab⟩
  | cons p ps ih =>
    obtain ⟨hresult, hfiles⟩ := h a b hab p List.mem_cons_self
    unfold NamedPipe.createAll
    rcases hca : NamedPipe.create a p mode with ⟨ra, a'⟩
    rcases hcb : NamedPipe.create b p mode with ⟨rb, b'⟩
    rw [hca, hcb] at hresult hfiles
    obtain rfl : ra = rb := hresult
    cases ra with
    | ok u => exact ih (h.mono (List.subset_cons_self p ps)) hfiles
    | error e => exact ⟨rfl, hfiles⟩

namespace Launch

variable {l : Launch σ} {files : τ} {ss : List LaunchStep} {ns : List Notice}

theorem prepareOne_withFiles (h : Alike R l.pipeMode s.ownedPaths) (hfiles : R l.files files) :
    ∃ files', (l.withFiles files).prepareOne s = (l.prepareOne s).withFiles files' ∧
      R (l.prepareOne s).files files' := by
  obtain ⟨hresult, hfiles'⟩ := h.createAll hfiles
  refine ⟨_, ?_, hfiles'⟩
  unfold PlannedProcess.ownedPaths at hresult
  simp only [prepareOne, Launch.withFiles, PlannedProcess.ownedPaths]
  rw [hresult]

theorem step_withFiles (h : Alike R l.pipeMode (l.unprepared.flatMap (·.ownedPaths)))
    (hfiles : R l.files files) {step : LaunchStep} {k : Launch σ} (hk : l.step? step = some k) :
    ∃ files', (l.withFiles files).step? step = some (k.withFiles files') ∧
      R k.files files' := by
  by_cases hprepare : step = .prepare
  · subst hprepare
    rcases hu : l.unprepared with _ | ⟨s, rest⟩
    · simp [step?, hu] at hk
    · have hs : s.ownedPaths ⊆ l.unprepared.flatMap (·.ownedPaths) := by
        rw [hu, List.flatMap_cons]
        exact List.subset_append_left _ _
      obtain ⟨files', heq, hfiles'⟩ := prepareOne_withFiles (h.mono hs) hfiles
      have hk' : l.prepareOne s = k := by simpa [step?, hu] using hk
      rw [hk'] at heq hfiles'
      refine ⟨files', ?_, hfiles'⟩
      have hu' : (l.withFiles files).unprepared = s :: rest := hu
      simp only [step?, hu', heq]
  · have hkept : k.files = l.files := by
      cases step_cases hk with
      | prepare => exact absurd rfl hprepare
      | own | tally | timePasses => rfl
    refine ⟨files, ?_, hkept ▸ hfiles⟩
    rw [step?_withFiles hprepare, hk]
    rfl

theorem settings_of_step {step : LaunchStep} {k : Launch σ} (hk : l.step? step = some k) :
    k.pipeMode = l.pipeMode ∧ k.unprepared ⊆ l.unprepared := by
  cases step_cases hk with
  | prepare s rest hu => exact ⟨rfl, List.drop_subset 1 l.unprepared⟩
  | own | tally | timePasses => exact ⟨rfl, List.Subset.refl _⟩

/-- A launch over one store takes the steps of the launch over the other. -/
theorem Run.withFiles (h : Alike R mode (specs.flatMap (·.ownedPaths))) (hab : R a b)
    (hrun : Run (ofSpecs a mode specs) ss ns l) :
    ∃ files, Run (ofSpecs b mode specs) ss ns (l.withFiles files) ∧ R l.files files ∧
      l.pipeMode = mode ∧ l.unprepared ⊆ specs := by
  induction hrun with
  | start => exact ⟨b, .start, hab, rfl, List.Subset.refl specs⟩
  | @step ss ns l step k _ hstep ih =>
    obtain ⟨files, hrun, hfiles, hmode, hunprepared⟩ := ih
    obtain ⟨hmode', hunprepared'⟩ := settings_of_step hstep
    have halike : Alike R l.pipeMode (l.unprepared.flatMap (·.ownedPaths)) := by
      rw [hmode]
      apply h.mono
      intro p hp
      obtain ⟨s, hs, hp⟩ := List.mem_flatMap.1 hp
      exact List.mem_flatMap.2 ⟨s, hunprepared hs, hp⟩
    obtain ⟨files', hstep', hfiles'⟩ := step_withFiles halike hfiles hstep
    exact ⟨files', hrun.step hstep', hfiles', hmode'.trans hmode,
      List.Subset.trans hunprepared' hunprepared⟩

theorem foldl_prepareOne_alike {k : Launch τ} (h : Alike R mode (specs.flatMap (·.ownedPaths)))
    (hfiles : R l.files k.files) (hl : l.pipeMode = mode) (hk : k.pipeMode = mode) :
    R (specs.foldl prepareOne l).files (specs.foldl prepareOne k).files := by
  induction specs generalizing l k with
  | nil => exact hfiles
  | cons s specs ih =>
    rw [List.flatMap_cons] at h
    have hone : R (l.prepareOne s).files (k.prepareOne s).files := by
      change R (NamedPipe.createAll l.files l.pipeMode s.ownedPaths).2
        (NamedPipe.createAll k.files k.pipeMode s.ownedPaths).2
      rw [hl, hk]
      exact ((h.mono (List.subset_append_left _ _)).createAll hfiles).2
    exact ih (h.mono (List.subset_append_right _ _)) hone hl hk

theorem prepareAll_alike (h : Alike R mode (specs.flatMap (·.ownedPaths))) (hab : R a b) :
    R (ofSpecs a mode specs).prepareAll.files (ofSpecs b mode specs).prepareAll.files :=
  foldl_prepareOne_alike h hab rfl rfl

/-- A path that is not too long for a tree of files. -/
structure ShortPath (p : Path) : Prop where
  path : p.length ≤ FileTree.maxPathLength
  fileName : ∀ name ∈ Path.fileName? p, name.length ≤ FileTree.maxNameLength

variable {g : Graph} {n : Network} {dir : Path} {boundary : ComponentArgs} {l : Location}
  {t : FileTree}

open FileTree

theorem leads_of_planRun (hn : Network.ofGraph g = .ok n)
    (hp : planRun n dir boundary = .ok specs) (hdir : t.find false dir = .ok (l, .directory))
    (hshort : ∀ s ∈ specs, ∀ p ∈ s.ownedPaths, ShortPath p) :
    ∀ p ∈ specs.flatMap (·.ownedPaths), ∃ name, t.Leads p l name := by
  intro p hm
  obtain ⟨s, hs, hps⟩ := List.mem_flatMap.1 hm
  obtain ⟨name, hname, hzero, rfl⟩ := exists_name_of_mem hn hp hm
  have hpath := hshort s hs _ hps
  have hfile := hpath.fileName name (Path.fileName?_join hname dir)
  exact ⟨name, leads_join hdir hname hzero hfile hpath.path⟩

/-- The pipes of a plan have places of their own. -/
theorem eq_of_place_eq (hn : Network.ofGraph g = .ok n) (hp : planRun n dir boundary = .ok specs)
    (l : Location) : ∀ p ∈ specs.flatMap (·.ownedPaths), ∀ q ∈ specs.flatMap (·.ownedPaths),
      place l p = place l q → p = q := by
  intro p hm q hm' heq
  obtain ⟨name, hname, -, rfl⟩ := exists_name_of_mem hn hp hm
  obtain ⟨other, hother, -, rfl⟩ := exists_name_of_mem hn hp hm'
  unfold place at heq
  rw [Path.fileName?_join hname, Path.fileName?_join hother] at heq
  have hlast := List.append_cancel_left heq
  rw [(List.cons.inj hlast).1]

theorem changesAt_prepareAll (t : FileTree) (l : Location) (mode : Nat) (h : PipesApart specs)
    (p : Path) : (ofSpecs (t.table l) mode specs).prepareAll.files.changesAt p ≠ [] ↔
      p ∈ (t.table l).cleared specs := by
  have hsub := cleared_sublist (t.table l) specs
  have hnone : (t.table l).changesAt p = [] := rfl
  rw [files_prepareAll _ _ h, FileTable.changesAt_renew (hsub.nodup h.nodup), hnone,
    List.nil_append]
  by_cases hm : p ∈ (t.table l).cleared specs <;> simp [hm, FileTable.renewal]

/-- In a directory of a tree, the launch of a network makes the pipes that its table shows, changes
nothing else, and takes only steps that it would take over the table. -/
theorem tree_prepared (hn : Network.ofGraph g = .ok n) (hp : planRun n dir boundary = .ok specs)
    (hdir : t.find false dir = .ok (l, .directory))
    (hshort : ∀ s ∈ specs, ∀ p ∈ s.ownedPaths, ShortPath p) (hmode : mode < 0o10000) :
    let cleared := (t.table l).cleared specs
    (∀ k, (ofSpecs t mode specs).prepareAll.files.lookup k =
      if k ∈ cleared.map (place l) then some (.pipe mode) else t.lookup k) ∧
    ∀ ss ns k, Run (ofSpecs t mode specs) ss ns k →
      ∃ table, Run (ofSpecs (t.table l) mode specs) ss ns (k.withFiles table) := by
  intro cleared
  have hplaces := eq_of_place_eq hn hp l
  have halike : Alike (Shown t l (specs.flatMap (·.ownedPaths)) mode) mode
      (specs.flatMap (·.ownedPaths)) :=
    fun a b hab p hm => hab.create hplaces hmode hm
  have hstart := shown_table (leads_of_planRun hn hp hdir hshort) mode
  constructor
  · intro k
    obtain ⟨hresolve, -⟩ := find_eq_ok_iff.1 hdir
    obtain ⟨u, hcheck, -⟩ := bind_eq_ok_iff.1 hresolve
    have hapart := pipesApart_of_planRun hn hp (checkPath_eq_ok_iff.1 hcheck).1
    have hsub := cleared_sublist (t.table l) specs
    rw [(prepareAll_alike halike hstart).lookup k]
    apply if_congr _ rfl rfl
    simp only [changesAt_prepareAll t l mode hapart, List.mem_map]
    constructor
    · rintro ⟨p, -, hplace, hm⟩
      exact ⟨p, hm, hplace⟩
    · rintro ⟨p, hm, hplace⟩
      exact ⟨p, hsub.subset hm, hplace, hm⟩
  · intro ss ns k hrun
    obtain ⟨table, hrun', -⟩ := hrun.withFiles halike hstart
    exact ⟨table, hrun'⟩

end Launch

end Pipework
