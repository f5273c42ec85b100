import Mathlib.Data.List.Flatten
import Mathlib.Data.List.Pairwise
import Pipework.Proofs.Files.Table
import Pipework.Proofs.Run.Planning
import Pipework.Proofs.Run.Supervision

/-! The pipes of a run before its first process starts. No two pipes of a plan have one path, so
what is made for one process stays as it is while the others get theirs, and a file that is in the
way stops its own process only. -/

namespace Pipework

open FileTable

/-- The paths of the pipes that a process needs. -/
def PlannedProcess.ownedPaths (s : PlannedProcess) : List Path := s.pipes.ownedPipes.map (·.path)

/-- Where the pipes of a process come to an end: in front of `p`, where something else lies. -/
structure PlannedProcess.Blocked (t : FileTable) (s : PlannedProcess) (before : List Path)
    (p : Path) (after : List Path) : Prop where
  paths : s.ownedPaths = before ++ p :: after
  clear : ∀ q ∈ before, (t.look q).isOther = false
  other : (t.look p).isOther = true

/-- The paths of all pipes are usable and differ. -/
structure PipesApart (specs : List PlannedProcess) : Prop where
  usable : ∀ s ∈ specs, ∀ p ∈ s.ownedPaths,
    (Path.fileName? p).isSome = true ∧ Path.hasZero p = false
  nodup : (specs.flatMap (·.ownedPaths)).Nodup

variable {g : Graph} {n : Network} {dir : Path} {boundary : ComponentArgs}
  {specs : List PlannedProcess} {s : PlannedProcess} {t : FileTable} {mode : Nat} {p : Path}

theorem ownedPaths_of_starts {node : Node} (h : s.Starts g dir boundary node) :
    s.ownedPaths = node.internalInports.map fun e => (Wiring.claimOf dir e).1 := by
  rw [PlannedProcess.ownedPaths, h.pipes]
  unfold NodePipes.ownedPipes Wiring.nodePipes Node.internalInports
  induction node.inports with
  | nil => rfl
  | cons i is ih =>
    cases hb : i.boundary with
    | none => simpa [Wiring.inportBinding, Wiring.claimOf, hb] using ih
    | some name => simpa [Wiring.inportBinding, hb] using ih

/-- The pipes of a plan are those of the internal inports of the network. -/
theorem flatMap_ownedPaths {nodes : List Node}
    (h : List.Forall₂ (PlannedProcess.Starts g dir boundary) nodes specs) :
    specs.flatMap (·.ownedPaths) =
      (nodes.flatMap (·.internalInports)).map fun e => (Wiring.claimOf dir e).1 := by
  induction h with
  | nil => rfl
  | cons hs _ ih =>
    rw [List.flatMap_cons, List.flatMap_cons, List.map_append, ih, ownedPaths_of_starts hs]

/-- The pipes of a plan have names in its directory. -/
theorem exists_name_of_mem (hn : Network.ofGraph g = .ok n)
    (hp : planRun n dir boundary = .ok specs) (hm : p ∈ specs.flatMap (·.ownedPaths)) :
    ∃ name, Path.IsName name ∧ Path.hasZero name = false ∧ p = Path.join dir name := by
  rw [flatMap_ownedPaths (starts_of_planRun hn hp)] at hm
  obtain ⟨e, he, rfl⟩ := List.mem_map.1 hm
  obtain ⟨hprocess, hport⟩ := usable_of_mem_internalInports hn he
  obtain ⟨hname, hzero⟩ := Endpoint.isName_dotted hprocess hport
  exact ⟨Text.toBytes e.dotted, hname, hzero, rfl⟩

theorem pipesApart_of_planRun (hn : Network.ofGraph g = .ok n)
    (hp : planRun n dir boundary = .ok specs) (hdir : Path.hasZero dir = false) :
    PipesApart specs := by
  constructor
  · intro s hs p hm
    obtain ⟨name, hname, hzero, rfl⟩ := exists_name_of_mem hn hp (List.mem_flatMap.2 ⟨s, hs, hm⟩)
    rw [Path.fileName?_join hname, Path.hasZero_join hname, hdir, hzero]
    exact ⟨rfl, rfl⟩
  · obtain ⟨w, hw, -⟩ := bind_eq_ok_iff.1 hp
    have hclaims := (Wiring.plan_eq_ok_iff.1 hw).2.1
    rw [Wiring.allClaims_eq, List.map_map] at hclaims
    rw [flatMap_ownedPaths (starts_of_planRun hn hp)]
    exact hclaims

namespace PipesApart

theorem of_append_right {front back : List PlannedProcess} (h : PipesApart (front ++ back)) :
    PipesApart back where
  usable s hs := h.usable s (List.mem_append_right _ hs)
  nodup := by
    have hnodup := h.nodup
    rw [List.flatMap_append] at hnodup
    exact hnodup.of_append_right

theorem tail (h : PipesApart (s :: specs)) : PipesApart specs := by
  have happend : PipesApart ([s] ++ specs) := h
  exact happend.of_append_right

theorem nodup_owned (h : PipesApart specs) (hs : s ∈ specs) : s.ownedPaths.Nodup :=
  (List.nodup_flatMap.1 h.nodup).1 s hs

/-- A path belongs to one process. -/
theorem eq_of_mem (h : PipesApart specs) {s' : PlannedProcess} (hs : s ∈ specs) (hs' : s' ∈ specs)
    (hp : p ∈ s.ownedPaths) (hp' : p ∈ s'.ownedPaths) : s = s' := by
  have hpairwise := (List.nodup_flatMap.1 h.nodup).2
  have hsymm : Std.Symm (Function.onFun List.Disjoint PlannedProcess.ownedPaths) :=
    ⟨fun _ _ hd => hd.symm⟩
  by_contra hne
  exact hpairwise.forall hs hs' hne hp hp'

end PipesApart

/-- The paths at which pipes are made, process by process. -/
def FileTable.cleared (t : FileTable) (specs : List PlannedProcess) : List Path :=
  specs.flatMap fun s => t.clear s.ownedPaths

theorem cleared_sublist (t : FileTable) (specs : List PlannedProcess) :
    (t.cleared specs).Sublist (specs.flatMap (·.ownedPaths)) :=
  List.Sublist.flatMap_right specs fun _ _ => List.takeWhile_sublist _

/-- Which results there are depends only on what lay at the paths before. -/
theorem preparations_eq (h : PipesApart specs) :
    preparations mode t specs = specs.map fun s => ⟨s, t.verdict s.ownedPaths⟩ := by
  induction specs generalizing t with
  | nil => rfl
  | cons s specs ih =>
    have hmade : NamedPipe.createAll t mode s.ownedPaths =
        (t.verdict s.ownedPaths, t.renew mode (t.clear s.ownedPaths)) :=
      createAll_eq (h.usable s List.mem_cons_self) (h.nodup_owned List.mem_cons_self)
    have hverdict (qs : List Path) :
        (t.renew mode (t.clear s.ownedPaths)).verdict qs = t.verdict qs := by
      rw [verdict, blocker?_renew (fun q hq => (mem_clear_imp hq).2), ← verdict]
    rw [preparations, List.map_cons, ← PlannedProcess.ownedPaths, hmade]
    simp only
    rw [ih h.tail]
    simp only [hverdict]

namespace Launch

/-- After the pipes of some processes have been made, there are new pipes up to the first path of
each process where something else lies. -/
theorem files_foldl_prepareOne (l : Launch FileTable) (h : PipesApart specs) :
    (specs.foldl prepareOne l).files = l.files.renew l.pipeMode (l.files.cleared specs) := by
  induction specs generalizing l with
  | nil => exact (renew_nil _ _).symm
  | cons s specs ih =>
    have hfiles : (l.prepareOne s).files = l.files.renew l.pipeMode (l.files.clear s.ownedPaths) :=
      congrArg Prod.snd
        (createAll_eq (h.usable s List.mem_cons_self) (h.nodup_owned List.mem_cons_self))
    have hmode : (l.prepareOne s).pipeMode = l.pipeMode := rfl
    have hcleared : (l.prepareOne s).files.cleared specs = l.files.cleared specs := by
      unfold cleared
      rw [hfiles]
      apply List.flatMap_congr
      intro s' _
      exact clear_renew (fun q hq => (mem_clear_imp hq).2) _
    -- no other process needs one of these paths
    have hdisjoint : List.Disjoint (l.files.clear s.ownedPaths) (l.files.cleared specs) := by
      have hsplit := (cleared_sublist l.files (s :: specs)).nodup h.nodup
      rw [cleared, List.flatMap_cons, ← cleared] at hsplit
      exact List.disjoint_of_nodup_append hsplit
    rw [List.foldl_cons, ih _ h.tail, hmode, hcleared, hfiles, renew_append hdisjoint]
    rfl

theorem files_prepareAll (t : FileTable) (mode : Nat) (h : PipesApart specs) :
    (ofSpecs t mode specs).prepareAll.files = t.renew mode (t.cleared specs) :=
  files_foldl_prepareOne (ofSpecs t mode specs) h

end Launch

theorem PlannedProcess.Blocked.verdict_eq {before after : List Path}
    (h : s.Blocked t before p after) : t.verdict s.ownedPaths = .error (.notAFifo p) := by
  have hblocker : t.blocker? s.ownedPaths = some p := by
    rw [blocker?, List.find?_eq_some_iff_append]
    refine ⟨h.other, before, after, h.paths, fun q hq => ?_⟩
    rw [h.clear q hq, Bool.not_false]
  rw [verdict, hblocker]

theorem PlannedProcess.Blocked.clear_eq {before after : List Path}
    (h : s.Blocked t before p after) : t.clear s.ownedPaths = before := by
  have hbefore : ∀ q ∈ before, (!(t.look q).isOther) = true := by
    intro q hq
    rw [h.clear q hq, Bool.not_false]
  have hstop : (!(t.look p).isOther) = false := by
    rw [h.other, Bool.not_true]
  rw [FileTable.clear, h.paths, List.takeWhile_append_of_pos hbefore, List.takeWhile_cons, hstop]
  exact List.append_nil before

theorem verdict_eq_ok {ps : List Path} (h : ∀ p ∈ ps, (t.look p).isOther = false) :
    t.verdict ps = .ok () := by
  have hblocker : t.blocker? ps = none := by
    rw [blocker?, List.find?_eq_none]
    intro p hp
    rw [h p hp]
    exact Bool.false_ne_true
  rw [verdict, hblocker]

theorem exists_blocked (h : ∃ q ∈ s.ownedPaths, (t.look q).isOther = true) :
    ∃ before p after, s.Blocked t before p after := by
  obtain ⟨p, hp⟩ := Option.isSome_iff_exists.1 (List.find?_isSome.2 h)
  obtain ⟨hother, before, after, hpaths, hclear⟩ := List.find?_eq_some_iff_append.1 hp
  refine ⟨before, p, after, hpaths, fun q hq => ?_, hother⟩
  simpa using hclear q hq

theorem Preparation.result_of_pipe_report {x : Preparation} {ss : List LaunchStep} {name : String}
    {cause : PipeError} (h : .failed (.pipe name cause) ∈ x.reports ss) :
    x.result = .error cause := by
  obtain ⟨step, -, hstep⟩ := List.mem_filterMap.1 h
  unfold report? at hstep
  split at hstep <;> try cases hstep
  split at hstep
  · cases hstep
  · rename_i hresult
    cases hstep
    exact hresult

namespace Launch

variable {ss : List LaunchStep} {ns : List Notice} {k : Launch FileTable}

/-- What a run reports of the pipes of a process follows from what lay at their paths. -/
theorem reported_of_run (h : PipesApart specs) (hnames : (specs.map (·.name)).Nodup)
    (hrun : Run (ofSpecs t mode specs) ss ns k) (hs : s ∈ specs) :
    (∀ o, ⟨s.name, o⟩ ∈ ns ++ k.tally.queue →
      ((∀ p ∈ s.ownedPaths, (t.look p).isOther = false) →
        ∀ name cause, o ≠ .failed (.pipe name cause)) ∧
      ∀ before p after, s.Blocked t before p after →
        o = .failed (.pipe s.name (.notAFifo p))) ∧
    ∀ sum, k.summary? = some sum → ∀ before p after, s.Blocked t before p after →
      sum.failed.filter (·.process == s.name) =
        [⟨s.name, .error .resource (RunError.pipe s.name (.notAFifo p)).message⟩] := by
  obtain ⟨prepared, es, hc⟩ := hrun.course hnames
  have hall : prepared ++ preparations k.pipeMode k.files k.unprepared =
      specs.map fun s => ⟨s, t.verdict s.ownedPaths⟩ := by
    rw [hc.all, preparations_eq h]
  constructor
  · intro o hm
    obtain ⟨x, hx, hname, ho⟩ := hc.exists_of_notice hm
    have hxs : x ∈ prepared ++ preparations k.pipeMode k.files k.unprepared :=
      List.mem_append_left _ hx
    rw [hall] at hxs
    obtain ⟨s', hs', rfl⟩ := List.mem_map.1 hxs
    -- processes are told apart by their names
    obtain rfl : s' = s := List.inj_on_of_nodup_map hnames hs' hs hname
    constructor
    · rintro hclear name cause rfl
      have hresult := Preparation.result_of_pipe_report ho
      rw [verdict_eq_ok hclear] at hresult
      cases hresult
    · intro before p after hblocked
      exact hc.reports_of_error hx hblocked.verdict_eq (hc.reports_eq hx ho)
  · intro sum hsum before p after hblocked
    obtain rfl := hc.eq_all (hc.unprepared_of_finished (Tally.summary?_eq_some_iff.1 hsum).1)
    have hx : (⟨s, t.verdict s.ownedPaths⟩ : Preparation) ∈ preparations mode t specs := by
      rw [preparations_eq h]
      exact List.mem_map_of_mem hs
    have hnodup : ((preparations mode t specs).map (·.spec.name)).Nodup := by
      rw [map_name_preparations]
      exact hnames
    obtain ⟨o, ho, hfailed⟩ := hc.filter_failed hnodup hsum hx
    rw [hc.reports_of_error hx hblocked.verdict_eq ho] at hfailed
    exact hfailed

/-! What lies at a path before the first process starts. -/

/-- A path of a process is cleared by this process or not at all. -/
theorem mem_cleared_iff (h : PipesApart specs) (hs : s ∈ specs) (hp : p ∈ s.ownedPaths) :
    p ∈ t.cleared specs ↔ p ∈ t.clear s.ownedPaths := by
  constructor
  · intro hm
    obtain ⟨s', hs', hp'⟩ := List.mem_flatMap.1 hm
    rwa [h.eq_of_mem hs hs' hp (mem_clear_imp hp').1]
  · intro hm
    exact List.mem_flatMap.2 ⟨s, hs, hm⟩

theorem untouched_of_not_cleared (h : PipesApart specs) (hp : p ∉ t.cleared specs) :
    Untouched t (ofSpecs t mode specs).prepareAll.files p := by
  rw [files_prepareAll t mode h]
  exact untouched_of_not_mem ((cleared_sublist t specs).nodup h.nodup) hp

theorem renewed_of_clear (h : PipesApart specs) (hs : s ∈ specs) (hp : p ∈ t.clear s.ownedPaths) :
    Renewed t (ofSpecs t mode specs).prepareAll.files mode p := by
  rw [files_prepareAll t mode h]
  exact renewed_of_mem ((cleared_sublist t specs).nodup h.nodup) (List.mem_flatMap.2 ⟨s, hs, hp⟩)

theorem untouched_of_isOther (h : PipesApart specs) (hs : s ∈ specs) (hp : p ∈ s.ownedPaths)
    (ho : (t.look p).isOther = true) : Untouched t (ofSpecs t mode specs).prepareAll.files p := by
  apply untouched_of_not_cleared h
  rw [mem_cleared_iff h hs hp]
  intro hm
  rw [(mem_clear_imp hm).2] at ho
  cases ho

/-- A process gets its pipes in front of the path where something else lies, and none behind. -/
theorem prepared_of_blocked (h : PipesApart specs) (hs : s ∈ specs) {before after : List Path}
    (hblocked : s.Blocked t before p after) :
    (∀ q ∈ before, Renewed t (ofSpecs t mode specs).prepareAll.files mode q) ∧
      ∀ q ∈ p :: after, Untouched t (ofSpecs t mode specs).prepareAll.files q := by
  constructor
  · intro q hq
    apply renewed_of_clear h hs
    rw [hblocked.clear_eq]
    exact hq
  · intro q hq
    have hqs : q ∈ s.ownedPaths := by
      rw [hblocked.paths]
      exact List.mem_append_right _ hq
    have hsplit := h.nodup_owned hs
    rw [hblocked.paths] at hsplit
    apply untouched_of_not_cleared h
    rw [mem_cleared_iff h hs hqs, hblocked.clear_eq]
    intro hbefore
    exact List.disjoint_of_nodup_append hsplit hbefore hq

/-- What has been made for a process stays while later processes get their pipes. -/
theorem untouched_by_later {front back : List PlannedProcess} (l : Launch FileTable)
    (h : PipesApart (front ++ s :: back)) (hp : p ∈ s.ownedPaths) :
    Untouched ((front ++ [s]).foldl prepareOne l).files
      ((front ++ s :: back).foldl prepareOne l).files p := by
  let middle := (front ++ [s]).foldl prepareOne l
  have hsplit : front ++ s :: back = (front ++ [s]) ++ back := by simp
  have hlater : ((front ++ s :: back).foldl prepareOne l).files =
      middle.files.renew middle.pipeMode (middle.files.cleared back) := by
    rw [← files_foldl_prepareOne middle (hsplit ▸ h).of_append_right, hsplit, List.foldl_append]
  have hback : (middle.files.cleared back).Sublist (back.flatMap (·.ownedPaths)) :=
    cleared_sublist _ _
  have hnodup := h.nodup
  rw [List.flatMap_append, List.flatMap_cons, List.nodup_append'] at hnodup
  obtain ⟨-, hnodup, -⟩ := hnodup
  rw [hlater]
  apply untouched_of_not_mem (hback.nodup hnodup.of_append_right)
  intro hm
  exact List.disjoint_of_nodup_append hnodup hp (hback.subset hm)

/-- Before the first process starts, each process has new pipes at its paths, up to the first path
where something else lies. Such a file stays, and only its process reports it. All other paths are
as they were, and the pipes of a process stay as they are while those of later processes are
made. -/
theorem pipes_prepared (hn : Network.ofGraph g = .ok n) (hp : planRun n dir boundary = .ok specs)
    (hdir : Path.hasZero dir = false) (t : FileTable) (mode : Nat) :
    let start := ofSpecs t mode specs
    let files := start.prepareAll.files
    (∀ p, (∀ s ∈ specs, p ∉ s.ownedPaths) → Untouched t files p) ∧
    (∀ s ∈ specs, ∀ p ∈ s.ownedPaths, (t.look p).isOther = true → Untouched t files p) ∧
    (∀ s ∈ specs, (∀ p ∈ s.ownedPaths, (t.look p).isOther = false) →
      ∀ p ∈ s.ownedPaths, Renewed t files mode p) ∧
    (∀ s ∈ specs, (∃ p ∈ s.ownedPaths, (t.look p).isOther = true) →
      ∃ before p after, s.Blocked t before p after ∧
        (∀ q ∈ before, Renewed t files mode q) ∧ ∀ q ∈ p :: after, Untouched t files q) ∧
    (∀ front s back, specs = front ++ s :: back → ∀ p ∈ s.ownedPaths,
      Untouched ((front ++ [s]).foldl prepareOne start).files files p) ∧
    ∀ ss ns k, Run start ss ns k → ∀ s ∈ specs,
      (∀ o, ⟨s.name, o⟩ ∈ ns ++ k.tally.queue →
        ((∀ p ∈ s.ownedPaths, (t.look p).isOther = false) →
          ∀ name cause, o ≠ .failed (.pipe name cause)) ∧
        ∀ before p after, s.Blocked t before p after →
          o = .failed (.pipe s.name (.notAFifo p))) ∧
      ∀ sum, k.summary? = some sum → ∀ before p after, s.Blocked t before p after →
        sum.failed.filter (·.process == s.name) =
          [⟨s.name, .error .resource (RunError.pipe s.name (.notAFifo p)).message⟩] := by
  intro start files
  have hapart := pipesApart_of_planRun hn hp hdir
  have hnames : (specs.map (·.name)).Nodup := by
    rw [names_of_starts hn (starts_of_planRun hn hp)]
    exact n.processes.nodup_names
  refine ⟨?_, ?_, ?_, ?_, ?_, ?_⟩
  · intro p hnone
    apply untouched_of_not_cleared hapart
    intro hm
    obtain ⟨s, hs, hp⟩ := List.mem_flatMap.1 hm
    exact hnone s hs (mem_clear_imp hp).1
  · intro s hs p hp hother
    exact untouched_of_isOther hapart hs hp hother
  · intro s hs hclear p hp
    have hwhole : t.clear s.ownedPaths = s.ownedPaths := by
      rw [clear, List.takeWhile_eq_self_iff]
      intro q hq
      rw [hclear q hq, Bool.not_false]
    apply renewed_of_clear hapart hs
    rw [hwhole]
    exact hp
  · intro s hs hex
    obtain ⟨before, p, after, hblocked⟩ := exists_blocked hex
    exact ⟨before, p, after, hblocked, prepared_of_blocked hapart hs hblocked⟩
  · rintro front s back rfl p hp
    exact untouched_by_later start hapart hp
  · intro ss ns k hrun s hs
    exact reported_of_run hapart hnames hrun hs

/-- A stale pipe of one process, and a link in the way of the second pipe of another. -/
theorem pipes_prepared_around_link :
    let g := (((((Graph.empty.addProcess "A" "bin/a").addProcess "B" "bin/b").connect
      ⟨"B", "OUT"⟩ ⟨"A", "BACK"⟩).connect ⟨"A", "X"⟩ ⟨"B", "X"⟩).connect
      ⟨"A", "Y"⟩ ⟨"B", "Y"⟩).connect ⟨"A", "Z"⟩ ⟨"B", "Z"⟩
    let path (name : String) : Path := Text.toBytes ("/d/" ++ name)
    let a : NodePipes := ⟨[⟨"BACK", path "A.BACK", .network⟩], [⟨"X", path "B.X", .network⟩,
      ⟨"Y", path "B.Y", .network⟩, ⟨"Z", path "B.Z", .network⟩]⟩
    let b : NodePipes := ⟨[⟨"X", path "B.X", .network⟩, ⟨"Y", path "B.Y", .network⟩,
      ⟨"Z", path "B.Z", .network⟩], [⟨"OUT", path "A.BACK", .network⟩]⟩
    let specs : List PlannedProcess :=
      [⟨"A", "bin/a", a, a.componentArgs []⟩, ⟨"B", "bin/b", b, b.componentArgs []⟩]
    let look (p : Path) : Occupant := if p = path "A.BACK" then .pipe 0o600
      else if p = path "B.Y" then .other .link nofun else .nothing
    let t : FileTable := { look := look, mask := fun mode => mode &&& 0o755 }
    let files := (ofSpecs t 0o770 specs).prepareAll.files
    (∃ n, Network.ofGraph g = .ok n ∧ planRun n (path "") {} = .ok specs) ∧
      files.look (path "A.BACK") = .pipe 0o770 ∧
      files.changesAt (path "A.BACK") = [.removed, .made, .permitted 0o770] ∧
      files.look (path "B.X") = .pipe 0o770 ∧
      files.look (path "B.Y") = .other .link nofun ∧ files.look (path "B.Z") = .nothing := by
  intro g path a b specs look t files
  have hplan : (Network.ofGraph g >>= fun n => planRun n (path "") {}) = .ok specs := by
    decide +kernel
  obtain ⟨n, hn, hp⟩ := bind_eq_ok_iff.1 hplan
  have hdir : Path.hasZero (path "") = false := by decide
  obtain ⟨-, -, hclear, hblocked, -⟩ := pipes_prepared hn hp hdir t 0o770
  have hback : ∀ p ∈ specs[0].ownedPaths, (t.look p).isOther = false := by decide +kernel
  have hrenewed := hclear specs[0] List.mem_cons_self hback (path "A.BACK") (by decide +kernel)
  have hother : ∃ p ∈ specs[1].ownedPaths, (t.look p).isOther = true := by decide +kernel
  obtain ⟨before, p, after, hstop, hbefore, hafter⟩ :=
    hblocked specs[1] (List.mem_cons_of_mem _ List.mem_cons_self) hother
  have hfront : before = [path "B.X"] := by
    rw [← hstop.clear_eq]
    decide +kernel
  have hpaths : [path "B.X"] ++ p :: after = [path "B.X", path "B.Y", path "B.Z"] := by
    rw [← hfront, ← hstop.paths]
    decide +kernel
  obtain ⟨rfl, rfl⟩ := List.cons.inj (List.cons.inj hpaths).2
  refine ⟨⟨n, hn, hp⟩, hrenewed.look, ?_, ?_, ?_, ?_⟩
  · rw [hrenewed.changes]
    decide +kernel
  · exact (hbefore (path "B.X") (by rw [hfront]; exact List.mem_cons_self)).look
  · rw [(hafter (path "B.Y") List.mem_cons_self).look]
    decide +kernel
  · rw [(hafter (path "B.Z") (List.mem_cons_of_mem _ List.mem_cons_self)).look]
    decide +kernel

end Launch

end Pipework
