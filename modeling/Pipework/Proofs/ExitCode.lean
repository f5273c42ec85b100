import Pipework.Program.Basic
import Pipework.Proofs.Files.Ways

/-! The exit code of the program. It is settled by the first thing that is wrong: with the port
flags, with the timeout, with the network or with the plan of its run. Once a run is launched,
nothing that becomes of it changes the exit code. -/

namespace Pipework

/-- Is a network to be run, and not only shown? -/
def CommandLine.IsRun (c : CommandLine) : Prop := c.graph = false ∧ c.deps = false

/-- Is a timeout given that is no duration? -/
def CommandLine.HasBadTimeout (c : CommandLine) : Prop :=
  ∃ text e, c.timeout = some text ∧ Duration.parse text = .error e

namespace CommandLine

variable {c : CommandLine}

theorem action_of_not_isRun (h : ¬c.IsRun) (boundary : ComponentArgs) :
    c.action boundary = .ok .graph ∨ c.action boundary = .ok .deps := by
  unfold action
  cases hg : c.graph with
  | true => exact .inl rfl
  | false =>
    cases hd : c.deps with
    | true => exact .inr rfl
    | false => exact absurd ⟨hg, hd⟩ h

theorem action_of_hasBadTimeout (hrun : c.IsRun) (hbad : c.HasBadTimeout)
    (boundary : ComponentArgs) : ∃ message, c.action boundary = .error ⟨.usage, message⟩ := by
  obtain ⟨text, e, htext, he⟩ := hbad
  refine ⟨e.message, ?_⟩
  simp [action, hrun.1, hrun.2, htext, he]

theorem action_of_isRun (hrun : c.IsRun) (hgood : ¬c.HasBadTimeout) (boundary : ComponentArgs) :
    ∃ settings : RunSettings, c.action boundary = .ok (.run settings) ∧
      settings.boundary = boundary ∧ settings.pipeDir = c.pipeDir := by
  let settings (limit : Option Duration) : RunSettings :=
    { boundary, verbosity := c.verbosity, pipeDir := c.pipeDir, timeout := limit
      printTime := c.time }
  cases htext : c.timeout with
  | none => exact ⟨settings none, by simp [action, hrun.1, hrun.2, htext, settings], rfl, rfl⟩
  | some text =>
    cases he : Duration.parse text with
    | error e => exact absurd ⟨text, e, htext, he⟩ hgood
    | ok d =>
      exact ⟨settings (some d), by simp [action, hrun.1, hrun.2, htext, he, settings], rfl, rfl⟩

theorem exists_action (hgood : c.IsRun → ¬c.HasBadTimeout) (boundary : ComponentArgs) :
    ∃ a, c.action boundary = .ok a := by
  by_cases hrun : c.IsRun
  · obtain ⟨settings, ha, -⟩ := action_of_isRun hrun (hgood hrun) boundary
    exact ⟨_, ha⟩
  · exact (action_of_not_isRun hrun boundary).elim (⟨_, ·⟩) (⟨_, ·⟩)

end CommandLine

namespace Program

/-- The file at the path can be read, it holds a graph, and that describes the network. -/
def Loads (files : FileTree) (p : Path) (n : Network) : Prop :=
  ∃ text g, files.readText p = .ok text ∧ Graph.ofText text = .ok g ∧ Network.ofGraph g = .ok n

/-- Does the network load and, if it is to be run, can its run be planned? -/
def Feasible (files : FileTree) (c : CommandLine) (boundary : ComponentArgs) : Prop :=
  ∃ n, Loads files c.network n ∧ (c.IsRun → ∃ specs, planRun n c.pipeDir boundary = .ok specs)

section

variable {files : FileTree} {p : Path} {n n' : Network} {e : ExitError} {settings : RunSettings}
  {specs : List PlannedProcess}

theorem loadNetwork_eq_ok_iff : loadNetwork files p = .ok n ↔ Loads files p n := by
  unfold loadNetwork Graph.load Loads
  cases files.readText p with
  | error e => simp
  | ok text =>
    cases hg : Graph.ofText text with
    | error fault => simp [hg]
    | ok g => cases hn : Network.ofGraph g <;> simp [hg, hn]

theorem Loads.unique (h : Loads files p n) (h' : Loads files p n') : n = n' :=
  Except.ok.inj ((loadNetwork_eq_ok_iff.2 h).symm.trans (loadNetwork_eq_ok_iff.2 h'))

theorem reason_of_loadNetwork (h : loadNetwork files p = .error e) :
    e.reason = .invalidConfiguration := by
  unfold loadNetwork at h
  split at h
  · obtain rfl := Except.error.inj h
    rfl
  · split at h
    · obtain rfl := Except.error.inj h
      rfl
    · cases h

theorem planNetwork_eq_ok_iff : planNetwork n settings = .ok specs ↔
    planRun n settings.pipeDir settings.boundary = .ok specs := by
  unfold planNetwork
  cases planRun n settings.pipeDir settings.boundary <;> simp

/-- Only errors of a configuration come from planning. -/
theorem reason_of_planNetwork (h : planNetwork n settings = .error e) :
    e.reason = .invalidConfiguration := by
  unfold planNetwork at h
  split at h
  · obtain rfl := Except.error.inj h
    rfl
  · cases h

theorem code_report {r : LaunchReport} (h : r.isInterrupted = false) (opening : String)
    (settings : RunSettings) (format : Display.Format) :
    (report r opening settings format).code = 0 := by
  unfold report
  rw [h]
  rfl

end

/-- What carrying out a command line comes to on all systems. -/
inductive Carried (files : FileTree) (c : CommandLine) (boundary : ComponentArgs)
    (carry : LaunchSystem → Except ExitError ProgramOutcome) : Prop where
  | badTimeout (e : ExitError) (hrun : c.IsRun) (hbad : c.HasBadTimeout) (he : e.reason = .usage)
      (h : ∀ system, carry system = .error e)
  | unloaded (e : ExitError) (hgood : c.IsRun → ¬c.HasBadTimeout)
      (hn : ∀ n, ¬Loads files c.network n) (he : e.reason = .invalidConfiguration)
      (h : ∀ system, carry system = .error e)
  | unplanned (e : ExitError) (n : Network) (hrun : c.IsRun) (hgood : ¬c.HasBadTimeout)
      (hn : Loads files c.network n) (hp : ∀ specs, planRun n c.pipeDir boundary ≠ .ok specs)
      (he : e.reason = .invalidConfiguration) (h : ∀ system, carry system = .error e)
  | shown (n : Network) (hrun : ¬c.IsRun) (hn : Loads files c.network n) (stdout : String)
      (h : ∀ system, carry system = .ok { code := 0, stdout := stdout, files := files })
  | launched (n : Network) (specs : List PlannedProcess) (hrun : c.IsRun)
      (hgood : ¬c.HasBadTimeout) (hn : Loads files c.network n)
      (hp : planRun n c.pipeDir boundary = .ok specs) (opening : String) (settings : RunSettings)
      (format : Display.Format)
      (h : ∀ system : LaunchSystem, carry system = .ok
        (report (system files settings.pipeMode settings.timeout specs) opening settings format))

theorem carried (files : FileTree) (c : CommandLine) (boundary : ComponentArgs) :
    Carried files c boundary (carryOut · files c boundary) := by
  by_cases hbad : c.IsRun ∧ c.HasBadTimeout
  · obtain ⟨message, ha⟩ := CommandLine.action_of_hasBadTimeout hbad.1 hbad.2 boundary
    exact .badTimeout _ hbad.1 hbad.2 rfl fun system => by rw [carryOut, ha, error_bind]
  have hgood : c.IsRun → ¬c.HasBadTimeout := not_and.1 hbad
  cases hl : loadNetwork files c.network with
  | error e =>
    obtain ⟨a, ha⟩ := CommandLine.exists_action hgood boundary
    refine .unloaded e hgood (fun n hn => ?_) (reason_of_loadNetwork hl) fun system => ?_
    · rw [loadNetwork_eq_ok_iff.2 hn] at hl
      cases hl
    · rw [carryOut, ha, ok_bind, hl, error_bind]
  | ok n =>
    have hn := loadNetwork_eq_ok_iff.1 hl
    by_cases hrun : c.IsRun
    · obtain ⟨settings, ha, rfl, hdir⟩ := CommandLine.action_of_isRun hrun (hgood hrun) boundary
      let format := c.format.getD .plain
      have hcarry (system : LaunchSystem) : carryOut system files c settings.boundary =
          runNetwork system files n settings format := by
        rw [carryOut, ha, ok_bind, hl, ok_bind]
      cases hp : planNetwork n settings with
      | error e =>
        refine .unplanned e n hrun (hgood hrun) hn (fun specs hs => ?_) (reason_of_planNetwork hp)
          fun system => ?_
        · rw [planNetwork_eq_ok_iff.2 (hdir ▸ hs)] at hp
          cases hp
        · rw [hcarry, runNetwork, hp, error_bind]
      | ok specs =>
        let opening := if settings.verbosity = .debug then Display.network n specs format else ""
        refine .launched n specs hrun (hgood hrun) hn (hdir ▸ planNetwork_eq_ok_iff.1 hp) opening
          settings format fun system => ?_
        rw [hcarry, runNetwork, hp, ok_bind]
        rfl
    · rcases CommandLine.action_of_not_isRun hrun boundary with ha | ha <;>
        exact .shown n hrun hn _ fun system => by
          rw [carryOut, ha, ok_bind, hl, ok_bind]
          rfl

section

variable {args rest : List Bytes} {environment : Option Bytes} {boundary : ComponentArgs}

theorem runOn_of_refused {e : PipeError} (hx : ComponentArgs.extract args = .error e)
    (system : LaunchSystem) (files : FileTree) :
    runOn system files args environment = failed files ⟨.usage, e.message⟩ := by
  simp [runOn, Invocation.ofArguments, hx]

theorem runOn_of_stopped {s : UsageStop} (hx : ComponentArgs.extract args = .ok (boundary, rest))
    (hc : CommandLine.parse rest environment = .error s) (system : LaunchSystem)
    (files : FileTree) :
    runOn system files args environment = { code := s.exitCode, files := files } := by
  simp [runOn, Invocation.ofArguments, hx, hc]

variable {system : LaunchSystem} {files : FileTree} {c : CommandLine}

theorem runOn_of_ok {o : ProgramOutcome} (hx : ComponentArgs.extract args = .ok (boundary, rest))
    (hc : CommandLine.parse rest environment = .ok c)
    (h : carryOut system files c boundary = .ok o) :
    runOn system files args environment = o := by
  simp [runOn, Invocation.ofArguments, hx, hc, h]

theorem runOn_of_error {e : ExitError} (hx : ComponentArgs.extract args = .ok (boundary, rest))
    (hc : CommandLine.parse rest environment = .ok c)
    (h : carryOut system files c boundary = .error e) :
    runOn system files args environment = failed files e := by
  simp [runOn, Invocation.ofArguments, hx, hc, h]

theorem exitCode_eq_zero_or (s : UsageStop) : s.exitCode = 0 ∨ s.exitCode = 2 := by
  cases s <;> decide

theorem code_failed_of_usage {e : ExitError} (he : e.reason = .usage) :
    (failed files e).code = 64 := by
  rw [failed, he]
  rfl

theorem code_failed_of_invalidConfiguration {e : ExitError}
    (he : e.reason = .invalidConfiguration) : (failed files e).code = 60 := by
  rw [failed, he]
  rfl

/-- What the exit code of an accepted command line depends on. -/
theorem code_of_accepted (hx : ComponentArgs.extract args = .ok (boundary, rest))
    (hc : CommandLine.parse rest environment = .ok c)
    (hcalm : ∀ mode limit specs, (system files mode limit specs).isInterrupted = false) :
    (c.IsRun ∧ c.HasBadTimeout → (runOn system files args environment).code = 64) ∧
    (¬(c.IsRun ∧ c.HasBadTimeout) → ¬Feasible files c boundary →
      (runOn system files args environment).code = 60) ∧
    (¬(c.IsRun ∧ c.HasBadTimeout) → Feasible files c boundary →
      (runOn system files args environment).code = 0) := by
  cases carried files c boundary with
  | badTimeout e hrun hbad he h =>
    rw [runOn_of_error hx hc (h system), code_failed_of_usage he]
    exact ⟨fun _ => rfl, fun hgood => absurd ⟨hrun, hbad⟩ hgood,
      fun hgood => absurd ⟨hrun, hbad⟩ hgood⟩
  | unloaded e hgood hn he h =>
    rw [runOn_of_error hx hc (h system), code_failed_of_invalidConfiguration he]
    refine ⟨fun hb => absurd hb.2 (hgood hb.1), fun _ _ => rfl, fun _ hf => ?_⟩
    obtain ⟨n, hl, -⟩ := hf
    exact absurd hl (hn n)
  | unplanned e n hrun hgood hn hp he h =>
    rw [runOn_of_error hx hc (h system), code_failed_of_invalidConfiguration he]
    refine ⟨fun hb => absurd hb.2 hgood, fun _ _ => rfl, fun _ hf => ?_⟩
    obtain ⟨n', hl, hplan⟩ := hf
    obtain rfl := hn.unique hl
    obtain ⟨specs, hs⟩ := hplan hrun
    exact absurd hs (hp specs)
  | shown n hrun hn stdout h =>
    rw [runOn_of_ok hx hc (h system)]
    exact ⟨fun hb => absurd hb.1 hrun, fun _ hf => absurd ⟨n, hn, fun hr => absurd hr hrun⟩ hf,
      fun _ _ => rfl⟩
  | launched n specs hrun hgood hn hp opening settings format h =>
    rw [runOn_of_ok hx hc (h system), code_report (hcalm _ _ _)]
    exact ⟨fun hb => absurd hb.2 hgood, fun _ hf => absurd ⟨n, hn, fun _ => ⟨specs, hp⟩⟩ hf,
      fun _ _ => rfl⟩

/-- Either the program ends with an error before it asks the system for anything, or its exit code
is that of a success or of arguments that are not taken. -/
theorem failed_or_code (args : List Bytes) (environment : Option Bytes)
    (hcalm : ∀ mode limit specs, (system files mode limit specs).isInterrupted = false) :
    (∃ e, (e.reason = .usage ∨ e.reason = .invalidConfiguration) ∧
      ∀ system', runOn system' files args environment = failed files e) ∨
    (runOn system files args environment).code = 0 ∨
    (runOn system files args environment).code = 2 := by
  cases hx : ComponentArgs.extract args with
  | error e => exact .inl ⟨_, .inl rfl, fun system' => runOn_of_refused hx system' files⟩
  | ok r =>
    obtain ⟨boundary, rest⟩ := r
    cases hc : CommandLine.parse rest environment with
    | error s =>
      rw [runOn_of_stopped hx hc]
      exact .inr (exitCode_eq_zero_or s)
    | ok c =>
      cases carried files c boundary with
      | badTimeout e _ _ he h => exact .inl ⟨e, .inl he, fun _ => runOn_of_error hx hc (h _)⟩
      | unloaded e _ _ he h => exact .inl ⟨e, .inr he, fun _ => runOn_of_error hx hc (h _)⟩
      | unplanned e _ _ _ _ _ he h => exact .inl ⟨e, .inr he, fun _ => runOn_of_error hx hc (h _)⟩
      | shown n _ _ stdout h =>
        rw [runOn_of_ok hx hc (h system)]
        exact .inr (.inl rfl)
      | launched n specs _ _ _ _ opening settings format h =>
        rw [runOn_of_ok hx hc (h system)]
        exact .inr (.inl (code_report (hcalm _ _ _) _ _ _))

/-- Unless a second interrupt comes, the exit code is settled before anything is launched: by the
port flags, by the timeout of a run, and by what the network and its plan are found to be. A program
that ends with an error has asked the system for nothing and has left all files as they were. -/
theorem exit_code_settled (system : LaunchSystem) (files : FileTree) (args : List Bytes)
    (environment : Option Bytes)
    (hcalm : ∀ mode limit specs, (system files mode limit specs).isInterrupted = false) :
    let o := runOn system files args environment
    (∀ e, ComponentArgs.extract args = .error e → o.code = 64) ∧
    (∀ boundary rest c, ComponentArgs.extract args = .ok (boundary, rest) →
      CommandLine.parse rest environment = .ok c →
      (c.IsRun ∧ c.HasBadTimeout → o.code = 64) ∧
      (¬(c.IsRun ∧ c.HasBadTimeout) → ¬Feasible files c boundary → o.code = 60) ∧
      (¬(c.IsRun ∧ c.HasBadTimeout) → Feasible files c boundary → o.code = 0)) ∧
    (o.code = 60 ∨ o.code = 64 → o.files = files ∧
      ∀ system', runOn system' files args environment = o) ∧
    o.code ≠ 1 ∧ o.code ≠ 3 := by
  intro o
  have hrefused (e : PipeError) (hx : ComponentArgs.extract args = .error e) : o.code = 64 := by
    have ho : o = failed files ⟨.usage, e.message⟩ := runOn_of_refused hx system files
    rw [ho]
    rfl
  refine ⟨hrefused, fun boundary rest c hx hc => code_of_accepted hx hc hcalm, ?_⟩
  rcases failed_or_code args environment hcalm with ⟨e, he, h⟩ | hcode
  · have ho : o = failed files e := h system
    have hcode : o.code = 60 ∨ o.code = 64 := by
      rw [ho]
      exact he.symm.imp code_failed_of_invalidConfiguration code_failed_of_usage
    refine ⟨fun _ => ⟨?_, fun system' => ?_⟩, ?_, ?_⟩
    · rw [ho]
      rfl
    · rw [h system', ho]
    · omega
    · omega
  · have hcode' : o.code = 0 ∨ o.code = 2 := hcode
    refine ⟨fun h => ?_, ?_, ?_⟩ <;> omega

/-- No process of the network can be started, and the program still succeeds. -/
theorem exit_code_of_failed_processes :
    let text := "\x7b\"processes\": \x7b\"A\": \x7b\"component\": \"bin/a\"\x7d\x7d\x7d"
    let name := Text.toBytes "net.json"
    let files : FileTree := ⟨[([name], .regular (Text.toBytes text) 0o644)], []⟩
    let system : LaunchSystem := fun files mode _ specs =>
      let launch := (Launch.ofSpecs files mode specs).prepareAll
      { launch := specs.foldl (fun l s => l.advance (.start s.name (.failed (.os 2)))) launch
        elapsed := .ofMilliseconds 0, files := files }
    (runOn system files [name] none).code = 0 ∧ ∃ n specs, Loads files name n ∧
      planRun n defaultPipeDir {} = .ok specs ∧
      (system files defaultPipeMode none specs).launch.tally.failed.map (·.process) = ["A"] := by
  intro text name files system
  have hx : ComponentArgs.extract [name] = .ok ({}, [name]) := by decide +kernel
  have hc : CommandLine.parse [name] none =
      .ok { network := name, pipeDir := defaultPipeDir } := by decide +kernel
  have hname : Path.IsName name := ⟨by decide, by decide, by decide, by decide⟩
  have hleads : files.Leads name [] name :=
    FileTree.leads_of_name hname (by decide) (by decide) (by decide)
  have hcontents : files.contents name = .ok (Text.toBytes text) :=
    hleads.contents_eq rfl (by decide)
  have hread : files.readText name = .ok text := by
    rw [FileTree.readText, hcontents, ok_bind, Text.ofBytes?_toBytes]
    rfl
  let n : Network := ⟨.ofList [("A", { name := "A", component := "bin/a" })], ∅, ∅⟩
  have hgraph : Graph.ofText text = .ok (Graph.empty.addProcess "A" "bin/a") := by decide +kernel
  have hnetwork : Network.ofGraph (Graph.empty.addProcess "A" "bin/a") = .ok n := by decide +kernel
  have hplan : planRun n defaultPipeDir {} = .ok [⟨"A", "bin/a", {}, {}⟩] := by decide +kernel
  have hloads : Loads files name n := ⟨text, _, hread, hgraph, hnetwork⟩
  have hgood : ¬(CommandLine.IsRun { network := name, pipeDir := defaultPipeDir } ∧
      CommandLine.HasBadTimeout { network := name, pipeDir := defaultPipeDir }) := by
    intro h
    obtain ⟨text, e, htext, -⟩ := h.2
    cases htext
  obtain ⟨-, hcode, -⟩ := exit_code_settled system files [name] none fun _ _ _ => rfl
  obtain ⟨-, -, hsuccess⟩ := hcode _ _ _ hx hc
  exact ⟨hsuccess hgood ⟨n, hloads, fun _ => ⟨_, hplan⟩⟩, n, _, hloads, hplan, by decide +kernel⟩

end

end Program

end Pipework
