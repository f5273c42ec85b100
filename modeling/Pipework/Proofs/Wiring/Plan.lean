import Pipework.Proofs.Except
import Pipework.Proofs.NameMap
import Pipework.Wiring

/-! When the ports of a network can be bound, and what they are bound to. Every binding is a
function of its port alone; the steps only decide whether there is a wiring at all. -/

namespace Pipework.Wiring

variable {dir : Path} {boundary : ComponentArgs}

/-- What an inport is bound to. -/
def inportBinding (dir : Path) (boundary : ComponentArgs) (process : String) (p : Inport) :
    BoundPort :=
  match p.boundary with
  | some name => ⟨p.port, (boundary.inport? name).getD [], .supplied name⟩
  | none => ⟨p.port, ComponentArgs.pipePath dir process p.port, .network⟩

/-- What an outport is bound to. -/
def outportBinding (dir : Path) (boundary : ComponentArgs) (p : Outport) : BoundPort :=
  match p.target with
  | .port process port => ⟨p.port, ComponentArgs.pipePath dir process port, .network⟩
  | .boundary name => ⟨p.port, (boundary.outport? name).getD [], .supplied name⟩

/-- A path has been supplied for the inport, if it needs one. -/
def InportSupplied (boundary : ComponentArgs) (p : Inport) : Prop :=
  ∀ name, p.boundary = some name → (boundary.inport? name).isSome = true

/-- A path has been supplied for the outport, if it needs one. -/
def OutportSupplied (boundary : ComponentArgs) (p : Outport) : Prop :=
  ∀ name, p.target = .boundary name → (boundary.outport? name).isSome = true

/-- The pipe that an inport takes for itself. -/
def claim? (dir : Path) (process : String) (p : Inport) : Option (Path × String) :=
  match p.boundary with
  | some _ => none
  | none => some (ComponentArgs.pipePath dir process p.port, inportLabel process p.port)

/-- The pipes that inports take for themselves, in order. -/
def claims (dir : Path) (process : String) (ps : List Inport) : Taken :=
  ps.filterMap (claim? dir process)

/-- What the ports of a process are bound to. -/
def nodePipes (dir : Path) (boundary : ComponentArgs) (n : Node) : NodePipes where
  inports := n.inports.map (inportBinding dir boundary n.name)
  outports := n.outports.map (outportBinding dir boundary)

/-- Paths have been supplied for all ports of the process that need them. -/
def NodeSupplied (boundary : ComponentArgs) (n : Node) : Prop :=
  (∀ p ∈ n.inports, InportSupplied boundary p) ∧ ∀ p ∈ n.outports, OutportSupplied boundary p

theorem supplied_eq_ok_iff {path : Option Path} {d : Direction} {name : String} {p : Path} :
    supplied path d name = .ok p ↔ path.isSome = true ∧ p = path.getD [] := by
  cases path <;> simp [supplied, eq_comm]

theorem lookup_eq_none_iff_not_mem {taken : Taken} {path : Path} :
    taken.lookup path = none ↔ path ∉ taken.map Prod.fst := by
  rw [List.lookup_eq_none_iff]
  constructor
  · intro h hm
    obtain ⟨e, he, rfl⟩ := List.mem_map.1 hm
    simpa using h e he
  · intro h e he
    simpa using fun hp : path = e.1 => h (hp ▸ List.mem_map_of_mem (f := Prod.fst) he)

theorem bindInport_eq_ok_iff {process : String} {taken : Taken} {p : Inport}
    {r : Taken × BoundPort} : bindInport dir boundary process taken p = .ok r ↔
      InportSupplied boundary p ∧
      (∀ c ∈ claim? dir process p, c.1 ∉ taken.map Prod.fst) ∧
      r = ((claim? dir process p).toList ++ taken, inportBinding dir boundary process p) := by
  unfold bindInport claim? inportBinding InportSupplied
  cases hp : p.boundary with
  | some name =>
    simp only [bind_eq_ok_iff, supplied_eq_ok_iff]
    constructor
    · rintro ⟨path, ⟨hs, rfl⟩, h⟩
      refine ⟨fun _ hn => Option.some.inj hn ▸ hs, by simp, (Except.ok.inj h).symm⟩
    · rintro ⟨hs, -, rfl⟩
      exact ⟨_, ⟨hs name rfl, rfl⟩, rfl⟩
  | none =>
    simp only [Option.mem_def, Option.some.injEq, forall_eq', reduceCtorEq, false_implies,
      implies_true, true_and, ← lookup_eq_none_iff_not_mem]
    cases taken.lookup (ComponentArgs.pipePath dir process p.port) <;> simp [eq_comm]

/-- Inports are bound one by one; no two of them may take one pipe. -/
theorem bindInports_eq_ok_iff {process : String} {taken : Taken}
    (hn : (taken.map Prod.fst).Nodup) {ps : List Inport} {r : Taken × List BoundPort} :
    bindInports dir boundary process taken ps = .ok r ↔
      (∀ p ∈ ps, InportSupplied boundary p) ∧
      (((claims dir process ps).reverse ++ taken).map Prod.fst).Nodup ∧
      r = ((claims dir process ps).reverse ++ taken,
        ps.map (inportBinding dir boundary process)) := by
  induction ps generalizing taken r with
  | nil => simp [bindInports, claims, hn, eq_comm]
  | cons p ps ih =>
    have hstep : (claims dir process (p :: ps)).reverse ++ taken =
        (claims dir process ps).reverse ++ ((claim? dir process p).toList ++ taken) := by
      cases hc : claim? dir process p <;> simp [claims, hc]
    have hfresh : (∀ c ∈ claim? dir process p, c.1 ∉ taken.map Prod.fst) ↔
        (((claim? dir process p).toList ++ taken).map Prod.fst).Nodup := by
      cases claim? dir process p with
      | none => simpa using hn
      | some c =>
        rw [Option.toList_some, List.singleton_append, List.map_cons, List.nodup_cons]
        simp [hn]
    rw [bindInports, bind_eq_ok_iff, List.forall_mem_cons, hstep, List.map_cons]
    constructor
    · rintro ⟨⟨taken', b⟩, hb, h⟩
      obtain ⟨hs, hf, he⟩ := bindInport_eq_ok_iff.1 hb
      obtain ⟨rfl, rfl⟩ := Prod.mk.inj he
      obtain ⟨⟨taken'', bs⟩, hbs, h⟩ := bind_eq_ok_iff.1 h
      obtain ⟨hss, hns, he⟩ := (ih (hfresh.1 hf)).1 hbs
      obtain ⟨rfl, rfl⟩ := Prod.mk.inj he
      exact ⟨⟨hs, hss⟩, hns, (Except.ok.inj h).symm⟩
    · rintro ⟨⟨hs, hss⟩, hns, rfl⟩
      have hn' : (((claim? dir process p).toList ++ taken).map Prod.fst).Nodup := by
        rw [List.map_append] at hns
        exact hns.of_append_right
      exact ⟨_, bindInport_eq_ok_iff.2 ⟨hs, hfresh.2 hn', rfl⟩,
        bind_eq_ok_iff.2 ⟨_, (ih hn').2 ⟨hss, hns, rfl⟩, rfl⟩⟩

theorem bindOutport_eq_ok_iff {p : Outport} {b : BoundPort} :
    bindOutport dir boundary p = .ok b ↔
      OutportSupplied boundary p ∧ b = outportBinding dir boundary p := by
  unfold bindOutport outportBinding OutportSupplied
  cases p.target with
  | port process port =>
    rw [Except.ok.injEq]
    exact ⟨fun h => ⟨fun _ hn => (nomatch hn), h.symm⟩, fun h => h.2.symm⟩
  | boundary name =>
    simp only [bind_eq_ok_iff, supplied_eq_ok_iff]
    constructor
    · rintro ⟨path, ⟨hs, rfl⟩, h⟩
      exact ⟨fun _ hn => Target.boundary.inj hn ▸ hs, (Except.ok.inj h).symm⟩
    · rintro ⟨hs, rfl⟩
      exact ⟨_, ⟨hs name rfl, rfl⟩, rfl⟩

theorem bindOutports_eq_ok_iff {ps : List Outport} {bs : List BoundPort} :
    ps.mapM (bindOutport dir boundary) = .ok bs ↔
      (∀ p ∈ ps, OutportSupplied boundary p) ∧ bs = ps.map (outportBinding dir boundary) := by
  rw [mapM_eq_ok_iff]
  induction ps generalizing bs with
  | nil => simp
  | cons p ps ih =>
    rw [List.forall₂_cons_left_iff, List.forall_mem_cons, List.map_cons]
    constructor
    · rintro ⟨b, bs, hb, hbs, rfl⟩
      obtain ⟨hs, rfl⟩ := bindOutport_eq_ok_iff.1 hb
      obtain ⟨hss, rfl⟩ := ih.1 hbs
      exact ⟨⟨hs, hss⟩, rfl⟩
    · rintro ⟨⟨hs, hss⟩, rfl⟩
      exact ⟨_, _, bindOutport_eq_ok_iff.2 ⟨hs, rfl⟩, ih.2 ⟨hss, rfl⟩, rfl⟩

/-- The pipes that the inports of processes take for themselves, in order. -/
def allClaims (dir : Path) (ns : List Node) : Taken :=
  ns.flatMap fun n => claims dir n.name n.inports

theorem bindNodes_eq_ok_iff {taken : Taken} (hn : (taken.map Prod.fst).Nodup) {ns : List Node}
    {bound : List (String × NodePipes)} : bindNodes dir boundary taken ns = .ok bound ↔
      (∀ n ∈ ns, NodeSupplied boundary n) ∧
      (((allClaims dir ns).reverse ++ taken).map Prod.fst).Nodup ∧
      bound = ns.map fun n => (n.name, nodePipes dir boundary n) := by
  induction ns generalizing taken bound with
  | nil => simp [bindNodes, allClaims, hn, eq_comm]
  | cons n ns ih =>
    have hstep : (allClaims dir (n :: ns)).reverse ++ taken = (allClaims dir ns).reverse ++
        ((claims dir n.name n.inports).reverse ++ taken) := by
      simp [allClaims]
    rw [bindNodes, bind_eq_ok_iff, List.forall_mem_cons, hstep, List.map_cons]
    constructor
    · rintro ⟨⟨taken', ins⟩, hi, h⟩
      obtain ⟨his, hin, he⟩ := (bindInports_eq_ok_iff hn).1 hi
      obtain ⟨rfl, rfl⟩ := Prod.mk.inj he
      obtain ⟨outs, ho, h⟩ := bind_eq_ok_iff.1 h
      obtain ⟨hos, rfl⟩ := bindOutports_eq_ok_iff.1 ho
      obtain ⟨rest, hr, h⟩ := bind_eq_ok_iff.1 h
      obtain ⟨hss, hns, rfl⟩ := (ih hin).1 hr
      exact ⟨⟨⟨his, hos⟩, hss⟩, hns, (Except.ok.inj h).symm⟩
    · rintro ⟨⟨hs, hss⟩, hns, rfl⟩
      have hin : (((claims dir n.name n.inports).reverse ++ taken).map Prod.fst).Nodup := by
        rw [List.map_append] at hns
        exact hns.of_append_right
      exact ⟨_, (bindInports_eq_ok_iff hn).2 ⟨hs.1, hin, rfl⟩,
        bind_eq_ok_iff.2 ⟨_, bindOutports_eq_ok_iff.2 ⟨hs.2, rfl⟩,
          bind_eq_ok_iff.2 ⟨_, (ih hin).2 ⟨hss, hns, rfl⟩, rfl⟩⟩⟩

/-- A network can be wired exactly if all supplied paths are there and no two inports take one
pipe. -/
theorem plan_eq_ok_iff {n : Network} {w : Wiring} : plan n dir boundary = .ok w ↔
    (∀ p ∈ n.processes.values, NodeSupplied boundary p) ∧
    ((allClaims dir n.processes.values).map Prod.fst).Nodup ∧
    w = ⟨dir, NameMap.ofList
      (n.processes.values.map fun p => (p.name, nodePipes dir boundary p))⟩ := by
  have hbind (bound : List (String × NodePipes)) :
      bindNodes dir boundary [] n.processes.values = .ok bound ↔
        (∀ p ∈ n.processes.values, NodeSupplied boundary p) ∧
        ((allClaims dir n.processes.values).map Prod.fst).Nodup ∧
        bound = n.processes.values.map fun p => (p.name, nodePipes dir boundary p) := by
    have hnil : (([] : Taken).map Prod.fst).Nodup := List.nodup_nil
    rw [bindNodes_eq_ok_iff hnil, List.append_nil, List.map_reverse, List.nodup_reverse]
  unfold plan
  rw [bind_eq_ok_iff]
  constructor
  · rintro ⟨bound, hb, h⟩
    obtain ⟨hs, hn, rfl⟩ := (hbind bound).1 hb
    exact ⟨hs, hn, (Except.ok.inj h).symm⟩
  · rintro ⟨hs, hn, rfl⟩
    exact ⟨_, (hbind _).2 ⟨hs, hn, rfl⟩, rfl⟩

end Pipework.Wiring
