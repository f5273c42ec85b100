import Pipework.Proofs.Run.Stores
import Pipework.Proofs.Wiring.Containment

/-! The paths that are supplied for the ports of a network. Planning compares the pipes of a network
with each other, but not with these paths. A supplied path that is written like the pipe of an edge
is therefore planned twice, and what lies there is removed with the stale pipes. -/

namespace Pipework

open Text FileTable

/-- The path has other steps than any pipe of the graph. -/
def Graph.Avoids (g : Graph) (dir p : Path) : Prop :=
  ∀ e ∈ g.edges, p.components ≠ dir.components ++ [.name (toBytes e.target.dotted)]

/-- No path that is supplied for a declared port has the steps of a pipe. -/
structure Graph.SupplyApart (g : Graph) (dir : Path) (boundary : ComponentArgs) : Prop where
  inport : ∀ e ∈ g.inports.entries, ∀ p, boundary.inport? e.1 = some p → g.Avoids dir p
  outport : ∀ e ∈ g.outports.entries, ∀ p, boundary.outport? e.1 = some p → g.Avoids dir p

/-- The ports of the network, each with its process and its path. -/
def Wiring.suppliedPorts (w : Wiring) : List (String × BoundPort) := w.suppliedIn ++ w.suppliedOut

/-- No pipe that a run makes has the steps of a supplied path. -/
def Wiring.KeepsApart (w : Wiring) : Prop :=
  ∀ b ∈ w.suppliedPorts, ∀ o ∈ w.received, o.2.path.components ≠ b.2.path.components

variable {g : Graph} {n : Network} {dir : Path} {boundary : ComponentArgs} {w : Wiring}
  {specs : List PlannedProcess} {s : PlannedProcess} {p : Path}

theorem components_pipe (hn : Network.ofGraph g = .ok n) {e : Edge} (he : e ∈ g.edges)
    (dir : Path) : (e.pipe dir).components =
      dir.components ++ [.name (toBytes e.target.dotted)] :=
  (Wiring.inDirectory_of_edge hn he dir).child

namespace Wiring

theorem components_ne_of_avoids (hn : Network.ofGraph g = .ok n) (h : g.Avoids dir p) {e : Edge}
    (he : e ∈ g.edges) : (e.pipe dir).components ≠ p.components := by
  rw [components_pipe hn he dir]
  exact (h e he).symm

theorem avoids_iff (hn : Network.ofGraph g = .ok n) (hw : plan n dir boundary = .ok w) :
    g.Avoids dir p ↔ ∀ o ∈ w.received, o.2.path.components ≠ p.components := by
  have hreceived := received_perm hn hw
  constructor
  · intro h o ho
    obtain ⟨e, he, rfl⟩ := List.mem_map.1 (hreceived.mem_iff.1 ho)
    exact components_ne_of_avoids hn h he
  · intro h e he heq
    refine h _ (hreceived.mem_iff.2 (List.mem_map_of_mem he)) ?_
    rw [heq]
    exact components_pipe hn he dir

/-- The paths of the ports of the network are those that were supplied for the declared ports. -/
theorem forall_suppliedPorts_iff (hn : Network.ofGraph g = .ok n)
    (hw : plan n dir boundary = .ok w) {P : Path → Prop} :
    (∀ b ∈ w.suppliedPorts, P b.2.path) ↔
      (∀ e ∈ g.inports.entries, ∀ p, boundary.inport? e.1 = some p → P p) ∧
      ∀ e ∈ g.outports.entries, ∀ p, boundary.outport? e.1 = some p → P p := by
  obtain ⟨hsin, hsout⟩ := supplied_ofGraph hn hw
  -- a port that has been planned has a path, so the two ways to speak of it are one
  have hside {ports : NameMap Endpoint} {find : String → Option Path}
      {binding : String × Endpoint → String × BoundPort} {bs : List (String × BoundPort)}
      (hsupplied : ∀ e ∈ ports.entries, (find e.1).isSome = true)
      (hbinding : ∀ e, (binding e).2.path = (find e.1).getD [])
      (hperm : bs.Perm (ports.entries.map binding)) :
      (∀ b ∈ bs, P b.2.path) ↔ ∀ e ∈ ports.entries, ∀ p, find e.1 = some p → P p := by
    simp only [hperm.mem_iff, List.forall_mem_map, hbinding]
    refine forall₂_congr fun e he => ?_
    obtain ⟨path, hpath⟩ := Option.isSome_iff_exists.1 (hsupplied e he)
    simp [hpath]
  unfold suppliedPorts
  rw [List.forall_mem_append]
  exact and_congr (hside hsin (fun _ => rfl) (suppliedIn_perm hn hw))
    (hside hsout (fun _ => rfl) (suppliedOut_perm hn hw))

theorem keepsApart_iff (hn : Network.ofGraph g = .ok n) (hw : plan n dir boundary = .ok w) :
    w.KeepsApart ↔ g.SupplyApart dir boundary := by
  unfold KeepsApart
  rw [forall_suppliedPorts_iff hn hw
    (P := fun p => ∀ o ∈ w.received, o.2.path.components ≠ p.components)]
  simp only [← avoids_iff hn hw]
  exact ⟨fun h => ⟨h.1, h.2⟩, fun h => ⟨h.inport, h.outport⟩⟩

end Wiring

theorem mem_ownedPaths_iff (hn : Network.ofGraph g = .ok n)
    (hp : planRun n dir boundary = .ok specs) :
    p ∈ specs.flatMap (·.ownedPaths) ↔ ∃ e ∈ g.edges, e.pipe dir = p := by
  have hinports : (n.processes.values.flatMap (·.internalInports)).Perm (g.edges.map Edge.target) :=
    Wiring.internalInports_perm hn
  rw [flatMap_ownedPaths (starts_of_planRun hn hp), (hinports.map _).mem_iff, List.map_map,
    List.mem_map]
  rfl

namespace Launch

variable {σ : Type} [PipeStore σ]

theorem files_prepareOne (l : Launch σ) (s : PlannedProcess) :
    (l.prepareOne s).files = (NamedPipe.createAll l.files l.pipeMode s.ownedPaths).2 := rfl

/-- The pipes of a launch are made at the paths of the pipes and nowhere else, even if some of them
are no paths at all. -/
theorem untouched_of_not_owned (l : Launch FileTable)
    (h : p ∉ specs.flatMap (·.ownedPaths)) :
    Untouched l.files (specs.foldl prepareOne l).files p := by
  induction specs generalizing l with
  | nil => exact untouched_self l.files p
  | cons s specs ih =>
    rw [List.flatMap_cons, List.mem_append, not_or] at h
    have hfirst : Untouched l.files (l.prepareOne s).files p := by
      rw [files_prepareOne]
      exact untouched_createAll h.1 l.files l.pipeMode
    exact hfirst.trans (ih (l.prepareOne s) h.2)

/-- What a run does to a table of files before its first process starts. -/
structure KeepsSupplied (g : Graph) (dir : Path) (w : Wiring) (specs : List PlannedProcess)
    (t : FileTable) (mode : Nat) : Prop where
  /-- A supplied path that avoids the pipes stays as it is. -/
  kept : ∀ b ∈ w.suppliedPorts, g.Avoids dir b.2.path →
    Untouched t (ofSpecs t mode specs).prepareAll.files b.2.path
  /-- At a supplied path that is a pipe as well, the file is removed and a new pipe is made. -/
  replaced : dir.hasZero = false → ∀ b ∈ w.suppliedPorts, ∀ s ∈ specs, b.2.path ∈ s.ownedPaths →
    (∀ q ∈ s.ownedPaths, (t.look q).isOther = false) →
    Renewed t (ofSpecs t mode specs).prepareAll.files mode b.2.path

theorem keepsSupplied (hn : Network.ofGraph g = .ok n) (hp : planRun n dir boundary = .ok specs)
    (w : Wiring) (t : FileTable) (mode : Nat) : KeepsSupplied g dir w specs t mode := by
  constructor
  · intro b hb havoids
    have hnot : b.2.path ∉ specs.flatMap (·.ownedPaths) := by
      rw [mem_ownedPaths_iff hn hp]
      rintro ⟨e, he, hpath⟩
      exact Wiring.components_ne_of_avoids hn havoids he (congrArg Path.components hpath)
    exact untouched_of_not_owned (ofSpecs t mode specs) hnot
  · intro hdir b hb s hs hm hclear
    apply renewed_of_clear (pipesApart_of_planRun hn hp hdir) hs
    rwa [clear_eq_self hclear]

/-- In a tree of files, only the files change that have the names of the pipes in the directory for
pipes. -/
theorem lookup_prepareAll (hn : Network.ofGraph g = .ok n)
    (hp : planRun n dir boundary = .ok specs) {t : FileTree} {l : Location}
    (hdir : t.find false dir = .ok (l, .directory))
    (hshort : ∀ s ∈ specs, ∀ p ∈ s.ownedPaths, ShortPath p) {mode : Nat} (hmode : mode < 0o10000)
    {k : Location} (hk : ∀ e ∈ g.edges, k ≠ l ++ [toBytes e.target.dotted]) :
    (ofSpecs t mode specs).prepareAll.files.lookup k = t.lookup k := by
  rw [(tree_prepared hn hp hdir hshort hmode).1 k, if_neg]
  intro hm
  obtain ⟨p, hcleared, hplace⟩ := List.mem_map.1 hm
  have howned := (cleared_sublist (t.table l) specs).subset hcleared
  obtain ⟨e, he, rfl⟩ := (mem_ownedPaths_iff hn hp).1 howned
  have hinside := Wiring.inDirectory_of_edge hn he dir
  have hfile : (e.pipe dir).fileName? = some (toBytes e.target.dotted) := by
    rw [Path.fileName?, hinside.child, List.getLast?_concat]
  refine hk e he ?_
  rw [← hplace, FileTree.place, hfile]
  rfl

/-- A planned network keeps away from the supplied paths exactly if none of them has the steps of a
pipe. A path that has other steps is bound to no edge, and what lies there stays as it is while all
pipes are made; a path that is a pipe as well loses its file to a new pipe. -/
theorem supplied_paths_kept (hn : Network.ofGraph g = .ok n)
    (hw : Wiring.plan n dir boundary = .ok w) :
    (w.KeepsApart ↔ g.SupplyApart dir boundary) ∧
    (∀ b ∈ w.suppliedPorts, g.Avoids dir b.2.path →
      ∀ o ∈ w.received ++ w.sent, o.2.path.components ≠ b.2.path.components) ∧
    ∃ specs, planRun n dir boundary = .ok specs ∧
      (∀ t mode, KeepsSupplied g dir w specs t mode) ∧
      ∀ (t : FileTree) (l : Location) (mode : Nat), t.find false dir = .ok (l, .directory) →
        (∀ s ∈ specs, ∀ p ∈ s.ownedPaths, ShortPath p) → mode < 0o10000 →
        ∀ k, (∀ e ∈ g.edges, k ≠ l ++ [toBytes e.target.dotted]) →
          (ofSpecs t mode specs).prepareAll.files.lookup k = t.lookup k := by
  obtain ⟨specs, hp, -⟩ := planRun_of_plan hn hw
  refine ⟨Wiring.keepsApart_iff hn hw, ?_, specs, hp, keepsSupplied hn hp w, ?_⟩
  · intro b _ havoids o ho
    rcases List.mem_append.1 ho with ho | ho
    · obtain ⟨e, he, rfl⟩ := List.mem_map.1 ((Wiring.received_perm hn hw).mem_iff.1 ho)
      exact Wiring.components_ne_of_avoids hn havoids he
    · obtain ⟨e, he, rfl⟩ := List.mem_map.1 ((Wiring.sent_perm hn hw).mem_iff.1 ho)
      exact Wiring.components_ne_of_avoids hn havoids he
  · intro t l mode hdir hshort hmode k hk
    exact lookup_prepareAll hn hp hdir hshort hmode hk

/-- The outer network has supplied the pipe of its own component, and a process of the network has
the same name. -/
theorem supplied_pipe_replaced :
    let g := (((Graph.empty.addProcess "A" "bin/a").addProcess "B" "bin/b").connect
      ⟨"A", "OUT"⟩ ⟨"B", "IN"⟩).addInport "IN" ⟨"A", "IN"⟩
    let dir : Path := toBytes "/dev/shm"
    let path : Path := toBytes "/dev/shm/B.IN"
    let boundary : ComponentArgs := ⟨[⟨"IN", path⟩], [], []⟩
    let t : FileTable := { look := fun p => if p = path then .pipe 0o660 else .nothing }
    ∃ n w specs, Network.ofGraph g = .ok n ∧ Wiring.plan n dir boundary = .ok w ∧
      planRun n dir boundary = .ok specs ∧
      ("A", ⟨"IN", path, .supplied "IN"⟩) ∈ w.suppliedPorts ∧
      ("A", ⟨"OUT", path, .network⟩) ∈ w.sent ∧ ("B", ⟨"IN", path, .network⟩) ∈ w.received ∧
      (ofSpecs t 0o770 specs).prepareAll.files.look path = .pipe 0o770 ∧
      (ofSpecs t 0o770 specs).prepareAll.files.changesAt path =
        [.removed, .made, .permitted 0o770] := by
  intro g dir path boundary t
  let a : NodePipes := ⟨[⟨"IN", path, .supplied "IN"⟩], [⟨"OUT", path, .network⟩]⟩
  let b : NodePipes := ⟨[⟨"IN", path, .network⟩], []⟩
  let w : Wiring := ⟨dir, NameMap.ofList [("A", a), ("B", b)]⟩
  let specs : List PlannedProcess :=
    [⟨"A", "bin/a", a, a.componentArgs []⟩, ⟨"B", "bin/b", b, b.componentArgs []⟩]
  have hplan : (Network.ofGraph g >>= fun n => Wiring.plan n dir boundary) = .ok w := by
    decide +kernel
  have hrun : (Network.ofGraph g >>= fun n => planRun n dir boundary) = .ok specs := by
    decide +kernel
  obtain ⟨n, hn, hw⟩ := bind_eq_ok_iff.1 hplan
  rw [hn] at hrun
  refine ⟨n, w, specs, hn, hw, hrun, ?_, ?_, ?_, ?_, ?_⟩ <;> decide +kernel

/-- A port of the network with a path elsewhere, beside one with the path of a pipe. -/
theorem supplied_paths_kept_beside_shared :
    let g := ((((Graph.empty.addProcess "A" "bin/a").addProcess "B" "bin/b").connect
      ⟨"A", "OUT"⟩ ⟨"B", "IN"⟩).addInport "IN" ⟨"A", "IN"⟩).addOutport "OUT" ⟨"B", "OUT"⟩
    let dir : Path := toBytes "/dev/shm"
    let shared : Path := toBytes "/dev/shm/B.IN"
    let apart : Path := toBytes "/dev/shm/B.OUT"
    let boundary : ComponentArgs := ⟨[⟨"IN", shared⟩], [⟨"OUT", apart⟩], []⟩
    let t : FileTable := { look := fun _ => .pipe 0o660 }
    ∃ n w specs, Network.ofGraph g = .ok n ∧ Wiring.plan n dir boundary = .ok w ∧
      planRun n dir boundary = .ok specs ∧ ¬w.KeepsApart ∧
      Untouched t (ofSpecs t 0o770 specs).prepareAll.files apart ∧
      Renewed t (ofSpecs t 0o770 specs).prepareAll.files 0o770 shared := by
  intro g dir shared apart boundary t
  let a : NodePipes := ⟨[⟨"IN", shared, .supplied "IN"⟩], [⟨"OUT", shared, .network⟩]⟩
  let b : NodePipes := ⟨[⟨"IN", shared, .network⟩], [⟨"OUT", apart, .supplied "OUT"⟩]⟩
  let w : Wiring := ⟨dir, NameMap.ofList [("A", a), ("B", b)]⟩
  have hplan : (Network.ofGraph g >>= fun n => Wiring.plan n dir boundary) = .ok w := by
    decide +kernel
  obtain ⟨n, hn, hw⟩ := bind_eq_ok_iff.1 hplan
  obtain ⟨hapart, -, specs, hp, hfiles, -⟩ := supplied_paths_kept hn hw
  obtain ⟨hkept, hreplaced⟩ := hfiles t 0o770
  have hshared : ("A", ⟨"IN", shared, .supplied "IN"⟩) ∈ w.suppliedPorts := by decide +kernel
  have hother : ("B", ⟨"OUT", apart, .supplied "OUT"⟩) ∈ w.suppliedPorts := by decide +kernel
  have havoids : g.Avoids dir apart := by
    unfold Graph.Avoids
    decide +kernel
  have hnot : ¬g.SupplyApart dir boundary := by
    intro h
    have he : (⟨⟨"A", "OUT"⟩, ⟨"B", "IN"⟩⟩ : Edge) ∈ g.edges := by decide +kernel
    have hin : ("IN", (⟨"A", "IN"⟩ : Endpoint)) ∈ g.inports.entries := by decide +kernel
    exact h.inport _ hin shared rfl _ he (by decide +kernel)
  have hdir : dir.hasZero = false := by decide
  have howner : ∃ s ∈ specs, shared ∈ s.ownedPaths := by
    rw [← List.mem_flatMap, mem_ownedPaths_iff hn hp]
    exact ⟨⟨⟨"A", "OUT"⟩, ⟨"B", "IN"⟩⟩, by decide +kernel, by decide +kernel⟩
  obtain ⟨s, hs, howned⟩ := howner
  exact ⟨n, w, specs, hn, hw, hp, hapart.not.2 hnot, hkept _ hother havoids,
    hreplaced hdir _ hshared s hs howned fun _ _ => rfl⟩

end Launch

end Pipework
