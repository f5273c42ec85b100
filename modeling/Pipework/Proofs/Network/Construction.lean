import Pipework.Proofs.Network.Layout

/-! Which graphs describe a network, and which network that is. The conditions are those of the
single steps, freed from the order in which the steps look at them. -/

namespace Pipework

/-- Does the connection fit the declared processes? -/
structure Connection.Valid (ps : NameMap ProcessDeclaration) (c : Connection) : Prop where
  target_declared : ps.contains c.target.process = true
  target_name : Network.isFileName c.target.port = true
  payload : (∃ s, c.source = some s ∧ c.data = none ∧ ps.contains s.process = true ∧
      Network.isFileName s.port = true) ∨
    ∃ data, c.source = none ∧ c.dataText? = some data ∧ c.target.port = argumentsPort ∧
      (Text.words? data).isSome = true

/-- Does the port of the network fit the declared processes? -/
structure Endpoint.ValidBoundary (ps : NameMap ProcessDeclaration) (name : String)
    (p : Endpoint) : Prop where
  name : Network.isFileName name = true
  declared : ps.contains p.process = true
  port : Network.isFileName p.port = true

namespace Network

variable {ps : NameMap ProcessDeclaration} {l : Layout} {nodes : NameMap Node}

theorem checkName_eq_ok_iff {kind name : String} :
    checkName kind name = .ok () ↔ isFileName name = true := by
  unfold checkName
  split <;> simp_all

theorem checkDeclared_eq_ok_iff {process context : String} :
    checkDeclared nodes process context = .ok () ↔ nodes.contains process = true := by
  unfold checkDeclared
  split <;> simp_all

theorem dataText?_eq_none_iff {c : Connection} : c.dataText? = none ↔ c.data = none := by
  rw [Connection.dataText?, Option.map_eq_none_iff]

theorem addEdge_eq_ok_iff (hi : l.inward = []) (ho : l.outward = []) {s t : Endpoint}
    (ht : ps.contains t.process = true) : addEdge (l.nodes ps) s t = .ok nodes ↔
      ¬l.Receives t ∧ nodes = Layout.nodes { l with edges := l.edges ++ [⟨s, t⟩] } ps := by
  have hfed : ((l.nodes ps).get? t.process).any (·.hasInport t.port) = true ↔ l.Receives t :=
    Layout.inUse_nodes (d := .inward) ht
  unfold addEdge
  by_cases hr : l.Receives t
  · simp [hfed.2 hr, hr]
  · have hf := mt hfed.1 hr
    simp only [hf, hr, not_false_eq_true, true_and, Bool.false_eq_true, if_false]
    rw [Except.ok.injEq, ← Layout.addEdge_nodes hi ho ⟨s, t⟩]
    exact eq_comm

theorem addPacket_eq_ok_iff {data : String} {t : Endpoint} :
    addPacket (l.nodes ps) data t = .ok nodes ↔ t.port = argumentsPort ∧
      (Text.words? data).isSome = true ∧
      nodes = Layout.nodes { l with packets := l.packets ++ [(t, data)] } ps := by
  unfold addPacket
  by_cases hp : t.port = argumentsPort
  · cases hw : Text.words? data with
    | none => simp [hp]
    | some words =>
      rw [if_neg (not_not.2 hp), Layout.addPacket_nodes]
      simp [hp, eq_comm]
  · simp [hp]

/-- A connection is taken if it is valid and its target is free, and the layout grows by it. -/
theorem addConnection_eq_ok_iff (hi : l.inward = []) (ho : l.outward = []) {index : ℕ}
    {c : Connection} : addConnection (l.nodes ps) index c = .ok nodes ↔
      c.Valid ps ∧ (c.source.isSome = true → ¬l.Receives c.target) ∧
      nodes = (l.add c).nodes ps := by
  unfold addConnection
  rw [check_bind_eq_ok_iff, check_bind_eq_ok_iff, checkDeclared_eq_ok_iff, checkName_eq_ok_iff,
    Layout.contains_nodes]
  constructor
  · rintro ⟨ht, hn, h⟩
    rcases hs : c.source with _ | s <;> rcases hd : c.dataText? with _ | data <;>
      simp only [hs, hd] at h
    · cases h
    · obtain ⟨hp, hw, rfl⟩ := addPacket_eq_ok_iff.1 h
      refine ⟨⟨ht, hn, Or.inr ⟨data, hs, hd, hp, hw⟩⟩, ?_, ?_⟩
      · simp
      · simp [Layout.add, hs, hd]
    · rw [check_bind_eq_ok_iff, check_bind_eq_ok_iff, checkDeclared_eq_ok_iff,
        checkName_eq_ok_iff, Layout.contains_nodes, addEdge_eq_ok_iff hi ho ht] at h
      obtain ⟨hsd, hsn, hf, rfl⟩ := h
      refine ⟨⟨ht, hn, Or.inl ⟨s, hs, dataText?_eq_none_iff.1 hd, hsd, hsn⟩⟩, fun _ => hf, ?_⟩
      simp [Layout.add, hs, hd]
    · cases h
  · rintro ⟨⟨ht, hn, hv⟩, hf, rfl⟩
    refine ⟨ht, hn, ?_⟩
    rcases hv with ⟨s, hs, hd, hsd, hsn⟩ | ⟨data, hs, hd, hp, hw⟩
    · have hd := dataText?_eq_none_iff.2 hd
      simp only [hs, hd, Layout.add]
      rw [check_bind_eq_ok_iff, check_bind_eq_ok_iff, checkDeclared_eq_ok_iff,
        checkName_eq_ok_iff, Layout.contains_nodes, addEdge_eq_ok_iff hi ho ht]
      exact ⟨hsd, hsn, hf (by simp [hs]), rfl⟩
    · simp only [hs, hd, Layout.add]
      exact addPacket_eq_ok_iff.2 ⟨hp, hw, rfl⟩

theorem add_of_valid {c : Connection} (h : c.Valid ps) : l.add c =
    { l with edges := l.edges ++ c.edge?.toList, packets := l.packets ++ c.packet?.toList } := by
  rcases h.payload with ⟨s, hs, hd, -⟩ | ⟨data, hs, hd, -⟩
  · have hd := dataText?_eq_none_iff.2 hd
    simp [Layout.add, Connection.edge?, Connection.packet?, hs, hd]
  · simp [Layout.add, Connection.edge?, Connection.packet?, hs, hd]

theorem foldl_add_of_valid {cs : List Connection} (h : ∀ c ∈ cs, c.Valid ps) (l : Layout) :
    cs.foldl Layout.add l =
      { l with
        edges := l.edges ++ cs.filterMap Connection.edge?
        packets := l.packets ++ cs.filterMap Connection.packet? } := by
  induction cs generalizing l with
  | nil => simp
  | cons c cs ih =>
    obtain ⟨hc, hcs⟩ := List.forall_mem_cons.1 h
    rw [List.foldl_cons, add_of_valid hc, ih hcs]
    simp only [List.filterMap_cons, Layout.mk.injEq, and_true]
    cases c.edge? <;> cases c.packet? <;> simp

/-- As long as the network has no inports, a port is fed by an edge. -/
theorem receives_iff (hi : l.inward = []) {p : Endpoint} :
    l.Receives p ↔ p ∈ l.edges.map Edge.target := by
  simp [Layout.Receives, hi]

theorem nodup_targets_add (hi : l.inward = []) (hn : (l.edges.map Edge.target).Nodup)
    {c : Connection} (hv : c.Valid ps) : ((l.add c).edges.map Edge.target).Nodup ↔
      (c.source.isSome = true → ¬l.Receives c.target) := by
  rw [add_of_valid hv, receives_iff hi]
  cases hs : c.source with
  | none => simpa [Connection.edge?, hs] using hn
  | some s =>
    have hdis : List.Disjoint (l.edges.map Edge.target) [c.target] ↔
        c.target ∉ l.edges.map Edge.target := List.disjoint_singleton
    simp only [Connection.edge?, hs, Option.map_some, Option.toList_some, List.map_append,
      List.map_cons, List.map_nil, List.nodup_append', hn, List.nodup_singleton, hdis, true_and,
      Option.isSome_some, true_implies]

/-- Connections are taken one by one; no two edges may have one target. -/
theorem addConnections_eq_ok_iff (hi : l.inward = []) (ho : l.outward = [])
    (hn : (l.edges.map Edge.target).Nodup) {index : ℕ} {cs : List Connection} :
    addConnections (l.nodes ps) index cs = .ok nodes ↔ (∀ c ∈ cs, c.Valid ps) ∧
      ((cs.foldl Layout.add l).edges.map Edge.target).Nodup ∧
      nodes = (cs.foldl Layout.add l).nodes ps := by
  induction cs generalizing l index with
  | nil => simp [addConnections, hn, eq_comm]
  | cons c cs ih =>
    have hi' : (l.add c).inward = [] := by
      rw [← hi, Layout.add]
      split <;> rfl
    have ho' : (l.add c).outward = [] := by
      rw [← ho, Layout.add]
      split <;> rfl
    rw [addConnections, bind_eq_ok_iff, List.forall_mem_cons, List.foldl_cons]
    constructor
    · rintro ⟨nodes', hc, hcs⟩
      obtain ⟨hv, hf, rfl⟩ := (addConnection_eq_ok_iff hi ho).1 hc
      have hn' := (nodup_targets_add hi hn hv).2 hf
      obtain ⟨hvs, hns, rfl⟩ := (ih hi' ho' hn').1 hcs
      exact ⟨⟨hv, hvs⟩, hns, rfl⟩
    · rintro ⟨⟨hv, hvs⟩, hns, rfl⟩
      have hn' : ((l.add c).edges.map Edge.target).Nodup := by
        rw [foldl_add_of_valid hvs, List.map_append] at hns
        exact hns.of_append_left
      have hf := (nodup_targets_add hi hn hv).1 hn'
      exact ⟨_, (addConnection_eq_ok_iff hi ho).2 ⟨hv, hf, rfl⟩,
        (ih hi' ho' hn').2 ⟨hvs, hns, rfl⟩⟩

theorem addBoundary_eq_ok_iff {d : Direction} {e : String × Endpoint} :
    addBoundary d (l.nodes ps) e = .ok nodes ↔ e.2.ValidBoundary ps e.1 ∧ ¬l.Uses d e.2 ∧
      nodes = (l.addBoundary d e).nodes ps := by
  unfold addBoundary
  rw [check_bind_eq_ok_iff, check_bind_eq_ok_iff, check_bind_eq_ok_iff, checkName_eq_ok_iff,
    checkDeclared_eq_ok_iff, checkName_eq_ok_iff, Layout.contains_nodes]
  constructor
  · rintro ⟨hn, hd, hp, h⟩
    have hu := Layout.inUse_nodes (l := l) (d := d) hd
    by_cases hi : inUse (l.nodes ps) d e.2 = true
    · rw [if_pos hi] at h
      cases h
    · rw [if_neg hi] at h
      refine ⟨⟨hn, hd, hp⟩, mt hu.2 hi, ?_⟩
      rw [← Layout.addBoundary_nodes]
      exact (Except.ok.inj h).symm
  · rintro ⟨⟨hn, hd, hp⟩, hu, rfl⟩
    have hi := mt (Layout.inUse_nodes (l := l) (d := d) hd).1 hu
    refine ⟨hn, hd, hp, ?_⟩
    rw [if_neg hi, ← Layout.addBoundary_nodes]
    rfl

theorem uses_addBoundary {d : Direction} {e : String × Endpoint} {p : Endpoint} :
    (l.addBoundary d e).Uses d p ↔ l.Uses d p ∨ e.2 = p := by
  cases d <;> simp [Layout.addBoundary, Layout.Uses, Layout.Receives, Layout.Sends, or_and_right,
    exists_or, or_assoc]

/-- Ports of the network are taken one by one; none may name a port that is in use. -/
theorem foldlM_addBoundary_eq_ok_iff {d : Direction} {es : List (String × Endpoint)} :
    es.foldlM (addBoundary d) (l.nodes ps) = .ok nodes ↔
      (∀ e ∈ es, e.2.ValidBoundary ps e.1) ∧ (es.map Prod.snd).Nodup ∧
      (∀ e ∈ es, ¬l.Uses d e.2) ∧ nodes = (es.foldl (Layout.addBoundary d) l).nodes ps := by
  induction es generalizing l with
  | nil => simp [pure, Except.pure, eq_comm]
  | cons e es ih =>
    rw [List.foldlM_cons, bind_eq_ok_iff, List.forall_mem_cons, List.forall_mem_cons,
      List.map_cons, List.nodup_cons, List.foldl_cons]
    constructor
    · rintro ⟨nodes', he, hes⟩
      obtain ⟨hv, hu, rfl⟩ := addBoundary_eq_ok_iff.1 he
      obtain ⟨hvs, hns, hus, rfl⟩ := ih.1 hes
      refine ⟨⟨hv, hvs⟩, ⟨?_, hns⟩, ⟨hu, ?_⟩, rfl⟩
      · intro hm
        obtain ⟨x, hx, hxe⟩ := List.mem_map.1 hm
        exact hus x hx (uses_addBoundary.2 (Or.inr hxe.symm))
      · intro x hx hux
        exact hus x hx (uses_addBoundary.2 (Or.inl hux))
    · rintro ⟨⟨hv, hvs⟩, ⟨hnm, hns⟩, ⟨hu, hus⟩, rfl⟩
      refine ⟨_, addBoundary_eq_ok_iff.2 ⟨hv, hu, rfl⟩, ih.2 ⟨hvs, hns, ?_, rfl⟩⟩
      intro x hx hux
      rcases uses_addBoundary.1 hux with hux | hxe
      · exact hus x hx hux
      · exact hnm (List.mem_map.2 ⟨x, hx, hxe.symm⟩)

end Network

end Pipework
