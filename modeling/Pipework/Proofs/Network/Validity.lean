import Pipework.Proofs.Network.Construction

/-! The graphs that describe a network, and the network that each of them describes, without the
order in which they are looked at. -/

namespace Pipework

namespace Graph

/-- All that the graph attaches to its processes. -/
def layout (g : Graph) : Network.Layout where
  edges := g.edges
  packets := g.packets
  inward := g.inports.entries
  outward := g.outports.entries

/-- The graph describes a network. -/
structure Valid (g : Graph) : Prop where
  process : ∀ e ∈ g.processes.entries, Network.isFileName e.1 = true ∧
    (Text.trimBlanks e.2.component.toList).isEmpty = false
  connection : ∀ c ∈ g.connections, c.Valid g.processes
  targets_nodup : (g.edges.map Edge.target).Nodup
  inport : ∀ e ∈ g.inports.entries, e.2.ValidBoundary g.processes e.1
  inports_nodup : (g.inports.entries.map Prod.snd).Nodup
  inport_free : ∀ e ∈ g.inports.entries, e.2 ∉ g.edges.map Edge.target
  outport : ∀ e ∈ g.outports.entries, e.2.ValidBoundary g.processes e.1
  outports_nodup : (g.outports.entries.map Prod.snd).Nodup
  outport_free : ∀ e ∈ g.outports.entries, e.2 ∉ g.edges.map Edge.source

end Graph

namespace Network

theorem checkProcess_eq_ok_iff {name : String} {d : ProcessDeclaration} :
    checkProcess name d = .ok () ↔ isFileName name = true ∧
      (Text.trimBlanks d.component.toList).isEmpty = false := by
  unfold checkProcess
  rw [check_bind_eq_ok_iff, checkName_eq_ok_iff]
  cases (Text.trimBlanks d.component.toList).isEmpty with
  | false => exact and_congr_right fun _ => ⟨fun _ => rfl, fun _ => rfl⟩
  | true => exact and_congr_right fun _ => ⟨fun h => (nomatch h), fun h => (nomatch h)⟩

theorem declareProcesses_eq_ok_iff {g : Graph} {nodes : NameMap Node} :
    declareProcesses g = .ok nodes ↔ (∀ e ∈ g.processes.entries, isFileName e.1 = true ∧
      (Text.trimBlanks e.2.component.toList).isEmpty = false) ∧
      nodes = Layout.nodes {} g.processes := by
  unfold declareProcesses
  rw [check_bind_eq_ok_iff, forM_eq_ok_iff]
  refine and_congr (forall₂_congr fun e _ => checkProcess_eq_ok_iff) ?_
  exact ⟨fun h => (Except.ok.inj h).symm, fun h => h ▸ rfl⟩

theorem foldl_addBoundary_inward (es : List (String × Endpoint)) (l : Layout) :
    es.foldl (Layout.addBoundary .inward) l = { l with inward := l.inward ++ es } := by
  induction es generalizing l with
  | nil => simp
  | cons e es ih =>
    rw [List.foldl_cons, ih]
    simp [Layout.addBoundary]

theorem foldl_addBoundary_outward (es : List (String × Endpoint)) (l : Layout) :
    es.foldl (Layout.addBoundary .outward) l = { l with outward := l.outward ++ es } := by
  induction es generalizing l with
  | nil => simp
  | cons e es ih =>
    rw [List.foldl_cons, ih]
    simp [Layout.addBoundary]

/-- A graph gives a network exactly if it is valid, and then the one of its layout. -/
theorem ofGraph_eq_ok_iff {g : Graph} {n : Network} : ofGraph g = .ok n ↔ g.Valid ∧
    n = ⟨g.layout.nodes g.processes, boundaryPorts g.inports, boundaryPorts g.outports⟩ := by
  -- the layout after all connections, and after the inports as well
  let connected : Layout := { edges := g.edges, packets := g.packets }
  let fed : Layout := { connected with inward := g.inports.entries }
  have hconn (h : ∀ c ∈ g.connections, c.Valid g.processes) :
      g.connections.foldl Layout.add {} = connected := by
    rw [foldl_add_of_valid h]
    rfl
  have hin : g.inports.entries.foldl (Layout.addBoundary .inward) connected = fed :=
    foldl_addBoundary_inward _ _
  have hout : g.outports.entries.foldl (Layout.addBoundary .outward) fed = g.layout :=
    foldl_addBoundary_outward _ _
  have huses (p : Endpoint) : connected.Uses .inward p ↔ p ∈ g.edges.map Edge.target := by
    simp [Layout.Uses, Layout.Receives, connected]
  have hsends (p : Endpoint) : fed.Uses .outward p ↔ p ∈ g.edges.map Edge.source := by
    simp [Layout.Uses, Layout.Sends, fed, connected]
  have hadd (nodes : NameMap Node) :
      addConnections (Layout.nodes {} g.processes) 0 g.connections = .ok nodes ↔
        (∀ c ∈ g.connections, c.Valid g.processes) ∧
        ((g.connections.foldl Layout.add {}).edges.map Edge.target).Nodup ∧
        nodes = (g.connections.foldl Layout.add {}).nodes g.processes :=
    addConnections_eq_ok_iff (l := {}) rfl rfl List.nodup_nil
  unfold ofGraph
  constructor
  · intro h
    obtain ⟨n₀, h₀, h⟩ := bind_eq_ok_iff.1 h
    obtain ⟨hp, rfl⟩ := declareProcesses_eq_ok_iff.1 h₀
    obtain ⟨n₁, h₁, h⟩ := bind_eq_ok_iff.1 h
    obtain ⟨hc, ht, rfl⟩ := (hadd n₁).1 h₁
    rw [hconn hc] at ht h
    obtain ⟨n₂, h₂, h⟩ := bind_eq_ok_iff.1 h
    obtain ⟨hiv, hin', hif, rfl⟩ := foldlM_addBoundary_eq_ok_iff.1 h₂
    rw [hin] at h
    obtain ⟨n₃, h₃, h⟩ := bind_eq_ok_iff.1 h
    obtain ⟨hov, hon, hof, rfl⟩ := foldlM_addBoundary_eq_ok_iff.1 h₃
    rw [hout] at h
    exact ⟨⟨hp, hc, ht, hiv, hin', fun e he => mt (huses e.2).2 (hif e he), hov, hon,
      fun e he => mt (hsends e.2).2 (hof e he)⟩, (Except.ok.inj h).symm⟩
  · rintro ⟨hv, rfl⟩
    refine bind_eq_ok_iff.2 ⟨_, declareProcesses_eq_ok_iff.2 ⟨hv.process, rfl⟩, ?_⟩
    refine bind_eq_ok_iff.2 ⟨connected.nodes g.processes, ?_, ?_⟩
    · rw [hadd, hconn hv.connection]
      exact ⟨hv.connection, hv.targets_nodup, rfl⟩
    refine bind_eq_ok_iff.2 ⟨fed.nodes g.processes, ?_, ?_⟩
    · rw [foldlM_addBoundary_eq_ok_iff, hin]
      exact ⟨hv.inport, hv.inports_nodup,
        fun e he => mt (huses e.2).1 (hv.inport_free e he), rfl⟩
    refine bind_eq_ok_iff.2 ⟨g.layout.nodes g.processes, ?_, rfl⟩
    rw [foldlM_addBoundary_eq_ok_iff, hout]
    exact ⟨hv.outport, hv.outports_nodup,
      fun e he => mt (hsends e.2).1 (hv.outport_free e he), rfl⟩

end Network

end Pipework
