import Mathlib.Data.List.Nodup
import Pipework.Proofs.Network.Validity
import Pipework.Proofs.Text

/-! Validation in the terms of a graph definition: its names, its connections and its tables of
network ports. A graph is accepted exactly if it is sound, and each process of the network has the
ports and packets that the connections and the network ports give it, in their order. -/

namespace Pipework

/-- A name that can be one component of a path. -/
structure UsableName (name : String) : Prop where
  nonempty : name ≠ ""
  not_dot : name ≠ "."
  not_dots : name ≠ ".."
  no_slash : '/' ∉ name.toList
  no_control : ∀ c ∈ name.toList, Text.isControl c = false

theorem isFileName_iff {name : String} : Network.isFileName name = true ↔ UsableName name := by
  simp only [Network.isFileName, Bool.and_eq_true, Bool.not_eq_true', String.isEmpty_eq_false_iff,
    bne_iff_ne, List.contains_eq_mem, decide_eq_false_iff_not, List.any_eq_false,
    Bool.not_eq_true, and_assoc]
  constructor
  · rintro ⟨hn, hd, hdd, hs, hc⟩
    exact ⟨hn, hd, hdd, hs, hc⟩
  · intro h
    exact ⟨h.nonempty, h.not_dot, h.not_dots, h.no_slash, h.no_control⟩

namespace Graph

/-- The endpoint is a usable port of a declared process. -/
structure Has (g : Graph) (p : Endpoint) : Prop where
  declared : (g.processes.get? p.process).isSome = true
  port : UsableName p.port

/-- The graph is sound, condition by condition. -/
structure Sound (g : Graph) : Prop where
  process : ∀ name d, g.processes.get? name = some d →
    UsableName name ∧ ∃ c ∈ d.component.toList, Text.isBlank c = false
  target : ∀ c ∈ g.connections, g.Has c.target
  source : ∀ c ∈ g.connections, ∀ s, c.source = some s → g.Has s
  payload : ∀ c ∈ g.connections, (c.source.isSome = true ↔ c.data = none)
  packet : ∀ c ∈ g.connections, ∀ x, c.data = some x →
    c.target.port = "ARGS" ∧ (Text.words? x.plainText).isSome = true
  targets_differ : g.connections.Pairwise fun c c' =>
    c.source.isSome = true → c'.source.isSome = true → c.target ≠ c'.target
  inport : ∀ name p, g.inports.get? name = some p → UsableName name ∧ g.Has p
  inports_differ : ∀ name name' p,
    g.inports.get? name = some p → g.inports.get? name' = some p → name = name'
  inport_free : ∀ name p, g.inports.get? name = some p →
    ∀ c ∈ g.connections, c.source.isSome = true → c.target ≠ p
  outport : ∀ name p, g.outports.get? name = some p → UsableName name ∧ g.Has p
  outports_differ : ∀ name name' p,
    g.outports.get? name = some p → g.outports.get? name' = some p → name = name'
  outport_free : ∀ name p, g.outports.get? name = some p →
    ∀ c ∈ g.connections, c.source ≠ some p

variable {g : Graph}

theorem mem_edges_iff {e : Edge} :
    e ∈ g.edges ↔ ∃ c ∈ g.connections, c.source = some e.source ∧ c.target = e.target := by
  rw [edges, List.mem_filterMap]
  refine exists_congr fun c => and_congr_right fun _ => ?_
  cases hs : c.source with
  | none => simp [Connection.edge?, hs]
  | some s =>
    obtain ⟨source, target⟩ := e
    simp [Connection.edge?, hs]

theorem mem_targets_iff {p : Endpoint} : p ∈ g.edges.map Edge.target ↔
    ∃ c ∈ g.connections, c.source.isSome = true ∧ c.target = p := by
  rw [List.mem_map]
  constructor
  · rintro ⟨e, he, rfl⟩
    obtain ⟨c, hc, hs, ht⟩ := mem_edges_iff.1 he
    exact ⟨c, hc, Option.isSome_iff_exists.2 ⟨_, hs⟩, ht⟩
  · rintro ⟨c, hc, hs, rfl⟩
    obtain ⟨s, hs⟩ := Option.isSome_iff_exists.1 hs
    exact ⟨⟨s, c.target⟩, mem_edges_iff.2 ⟨c, hc, hs, rfl⟩, rfl⟩

theorem mem_sources_iff {p : Endpoint} : p ∈ g.edges.map Edge.source ↔
    ∃ c ∈ g.connections, c.source = some p := by
  rw [List.mem_map]
  constructor
  · rintro ⟨e, he, rfl⟩
    obtain ⟨c, hc, hs, -⟩ := mem_edges_iff.1 he
    exact ⟨c, hc, hs⟩
  · rintro ⟨c, hc, hs⟩
    exact ⟨⟨p, c.target⟩, mem_edges_iff.2 ⟨c, hc, hs, rfl⟩, rfl⟩

theorem nodup_targets_iff : (g.edges.map Edge.target).Nodup ↔
    g.connections.Pairwise fun c c' =>
      c.source.isSome = true → c'.source.isSome = true → c.target ≠ c'.target := by
  rw [List.Nodup, List.pairwise_map, edges, List.pairwise_filterMap]
  refine List.Pairwise.iff fun {c c'} => ?_
  cases hs : c.source <;> cases hs' : c'.source <;> simp [Connection.edge?, hs, hs']

theorem nodup_ports_iff {ports : NameMap Endpoint} : (ports.entries.map Prod.snd).Nodup ↔
    ∀ name name' p, ports.get? name = some p → ports.get? name' = some p → name = name' := by
  -- the entries of a table differ by their names, so only the values can repeat
  have hentries : ports.entries.Nodup := ports.nodup_names.of_map
  rw [List.nodup_map_iff_inj_on hentries]
  constructor
  · intro h name name' p hp hp'
    have he := h (name, p) (NameMap.mem_entries_iff.2 hp) (name', p)
      (NameMap.mem_entries_iff.2 hp') rfl
    exact congrArg Prod.fst he
  · rintro h ⟨name, p⟩ hp ⟨name', p'⟩ hp' rfl
    rw [h name name' p (NameMap.mem_entries_iff.1 hp) (NameMap.mem_entries_iff.1 hp')]

theorem has_iff {p : Endpoint} : g.Has p ↔
    g.processes.contains p.process = true ∧ Network.isFileName p.port = true := by
  rw [isFileName_iff]
  exact ⟨fun h => ⟨h.declared, h.port⟩, fun h => ⟨h.1, h.2⟩⟩

theorem validBoundary_iff {name : String} {p : Endpoint} :
    p.ValidBoundary g.processes name ↔ UsableName name ∧ g.Has p := by
  rw [has_iff, ← isFileName_iff]
  exact ⟨fun h => ⟨h.name, h.declared, h.port⟩, fun h => ⟨h.1, h.2.1, h.2.2⟩⟩

theorem connectionValid_iff {c : Connection} : c.Valid g.processes ↔
    g.Has c.target ∧ (∀ s, c.source = some s → g.Has s) ∧
      (c.source.isSome = true ↔ c.data = none) ∧
      ∀ x, c.data = some x →
        c.target.port = "ARGS" ∧ (Text.words? x.plainText).isSome = true := by
  constructor
  · rintro ⟨ht, hn, ⟨s, hs, hd, hsd, hsn⟩ | ⟨data, hs, hd, hp, hw⟩⟩
    · simp [hs, hd, has_iff, ht, hn, hsd, hsn]
    · obtain ⟨x, hx, rfl⟩ := Option.map_eq_some_iff.1 hd
      refine ⟨has_iff.2 ⟨ht, hn⟩, ?_, ?_, ?_⟩
      · simp [hs]
      · simp [hs, hx]
      · intro y hy
        obtain rfl := Option.some.inj (hx.symm.trans hy)
        exact ⟨hp, hw⟩
  · rintro ⟨ht, hs, hpayload, hpacket⟩
    obtain ⟨htd, htn⟩ := has_iff.1 ht
    refine ⟨htd, htn, ?_⟩
    -- data decides whether the connection is an edge or a packet
    cases hd : c.data with
    | none =>
      obtain ⟨s, hsome⟩ := Option.isSome_iff_exists.1 (hpayload.2 hd)
      exact Or.inl ⟨s, hsome, rfl, has_iff.1 (hs s hsome)⟩
    | some x =>
      have hnone : c.source = none := by
        rw [← Option.not_isSome_iff_eq_none, hpayload, hd]
        simp
      obtain ⟨hp, hw⟩ := hpacket x hd
      refine Or.inr ⟨x.plainText, hnone, ?_, hp, hw⟩
      rw [Connection.dataText?, hd, Option.map_some]

theorem valid_iff_sound : g.Valid ↔ g.Sound := by
  have hblank (component : String) : (Text.trimBlanks component.toList).isEmpty = false ↔
      ∃ c ∈ component.toList, Text.isBlank c = false := by
    rw [List.isEmpty_eq_false_iff, ne_eq, Text.trimBlanks_eq_nil_iff]
    simp
  have hprocess : (∀ e ∈ g.processes.entries, Network.isFileName e.1 = true ∧
      (Text.trimBlanks e.2.component.toList).isEmpty = false) ↔
      ∀ name d, g.processes.get? name = some d →
        UsableName name ∧ ∃ c ∈ d.component.toList, Text.isBlank c = false := by
    simp only [isFileName_iff, hblank]
    exact NameMap.forall_entries_iff
  have hports (ports : NameMap Endpoint) :
      (∀ e ∈ ports.entries, e.2.ValidBoundary g.processes e.1) ↔
        ∀ name p, ports.get? name = some p → UsableName name ∧ g.Has p := by
    simp only [validBoundary_iff]
    exact NameMap.forall_entries_iff
  have htargets : (∀ e ∈ g.inports.entries, e.2 ∉ g.edges.map Edge.target) ↔
      ∀ name p, g.inports.get? name = some p →
        ∀ c ∈ g.connections, c.source.isSome = true → c.target ≠ p := by
    simp only [mem_targets_iff, not_exists, not_and]
    exact NameMap.forall_entries_iff
  have hsources : (∀ e ∈ g.outports.entries, e.2 ∉ g.edges.map Edge.source) ↔
      ∀ name p, g.outports.get? name = some p → ∀ c ∈ g.connections, c.source ≠ some p := by
    simp only [mem_sources_iff, not_exists, not_and]
    exact NameMap.forall_entries_iff
  constructor
  · intro h
    have hc (c : Connection) (hm : c ∈ g.connections) := connectionValid_iff.1 (h.connection c hm)
    exact ⟨hprocess.1 h.process, fun c hm => (hc c hm).1, fun c hm => (hc c hm).2.1,
      fun c hm => (hc c hm).2.2.1, fun c hm => (hc c hm).2.2.2,
      nodup_targets_iff.1 h.targets_nodup,
      (hports _).1 h.inport, nodup_ports_iff.1 h.inports_nodup, htargets.1 h.inport_free,
      (hports _).1 h.outport, nodup_ports_iff.1 h.outports_nodup, hsources.1 h.outport_free⟩
  · intro h
    refine ⟨hprocess.2 h.process, fun c hm => connectionValid_iff.2 ?_,
      nodup_targets_iff.2 h.targets_differ,
      (hports _).2 h.inport, nodup_ports_iff.2 h.inports_differ, htargets.2 h.inport_free,
      (hports _).2 h.outport, nodup_ports_iff.2 h.outports_differ, hsources.2 h.outport_free⟩
    exact ⟨h.target c hm, h.source c hm, h.payload c hm, h.packet c hm⟩

end Graph

namespace Connection

/-- The inport that the connection makes for a process. -/
def inport? (name : String) (c : Connection) : Option Inport :=
  if c.source.isSome = true ∧ c.target.process = name then some ⟨c.target.port, none⟩ else none

/-- The outport that the connection makes for a process. -/
def outport? (name : String) (c : Connection) : Option Outport :=
  match c.source with
  | some s =>
    if s.process = name then some ⟨s.port, .port c.target.process c.target.port⟩ else none
  | none => none

/-- The initial packet that the connection is for a process. -/
def packetOf? (name : String) (c : Connection) : Option Packet :=
  match c.source, c.data with
  | none, some x =>
    if c.target.process = name then some ⟨c.target.port, x.plainText⟩ else none
  | _, _ => none

end Connection

namespace Graph

/-- A declared process with what the connections give it, in their order, and then the ports of the
network, by name. -/
def nodeOf (g : Graph) (name : String) (d : ProcessDeclaration) : Node where
  name := name
  component := d.component
  metadata := d.metadata.mapValues fun _ x => x.plainText
  inports := g.connections.filterMap (Connection.inport? name) ++
    (g.inports.entries.filter (·.2.process == name)).map fun e => ⟨e.2.port, some e.1⟩
  outports := g.connections.filterMap (Connection.outport? name) ++
    (g.outports.entries.filter (·.2.process == name)).map fun e => ⟨e.2.port, .boundary e.1⟩
  packets := g.connections.filterMap (Connection.packetOf? name)

/-- The network is the one of the graph, process by process and port by port. -/
structure Depicts (g : Graph) (n : Network) : Prop where
  process : ∀ name, n.processes.get? name = (g.processes.get? name).map (g.nodeOf name)
  inport : ∀ name, n.inports.get? name =
    (g.inports.get? name).map fun p => ⟨name, p.process, p.port⟩
  outport : ∀ name, n.outports.get? name =
    (g.outports.get? name).map fun p => ⟨name, p.process, p.port⟩

theorem select_filterMap {α β : Type} {make : Connection → Option α} {p : α → Bool} {f : α → β}
    {each : Connection → Option β} (h : ∀ c, ((make c).filter p).map f = each c)
    (cs : List Connection) : ((cs.filterMap make).filter p).map f = cs.filterMap each := by
  rw [List.filter_filterMap, List.map_filterMap, ← funext h]

theorem layout_node (g : Graph) (name : String) (d : ProcessDeclaration) :
    g.layout.node name d = g.nodeOf name d := by
  -- the layout sorts edges and packets by process; here each connection is looked at once
  have hinport (c : Connection) : (c.edge?.filter (·.target.process == name)).map
      (fun e => (⟨e.target.port, none⟩ : Inport)) = c.inport? name := by
    unfold Connection.edge? Connection.inport?
    cases c.source with
    | none => rfl
    | some s => by_cases ht : c.target.process = name <;> simp [ht]
  have houtport (c : Connection) : (c.edge?.filter (·.source.process == name)).map
      (fun e => (⟨e.source.port, .port e.target.process e.target.port⟩ : Outport)) =
      c.outport? name := by
    unfold Connection.edge? Connection.outport?
    cases c.source with
    | none => rfl
    | some s => by_cases hs : s.process = name <;> simp [hs]
  have hpacket (c : Connection) : (c.packet?.filter (·.1.process == name)).map
      (fun p => (⟨p.1.port, p.2⟩ : Packet)) = c.packetOf? name := by
    unfold Connection.packet? Connection.packetOf? Connection.dataText?
    cases c.source with
    | some s => rfl
    | none =>
      cases c.data with
      | none => rfl
      | some x => by_cases ht : c.target.process = name <;> simp [ht]
  have hin : g.layout.inportsOf name = (g.nodeOf name d).inports :=
    congrArg (· ++ _) (select_filterMap hinport g.connections)
  have hout : g.layout.outportsOf name = (g.nodeOf name d).outports :=
    congrArg (· ++ _) (select_filterMap houtport g.connections)
  have hpackets : g.layout.packetsOf name = (g.nodeOf name d).packets :=
    select_filterMap hpacket g.connections
  rw [Network.Layout.node, hin, hout, hpackets]
  rfl

end Graph

namespace Network

/-- A graph gives a network exactly if it is sound, and the network is then the one that the graph
depicts. -/
theorem validation_exact (g : Graph) : ((∃ n, ofGraph g = .ok n) ↔ g.Sound) ∧
    ∀ n, ofGraph g = .ok n → g.Depicts n := by
  constructor
  · rw [← Graph.valid_iff_sound]
    constructor
    · rintro ⟨n, h⟩
      exact (ofGraph_eq_ok_iff.1 h).1
    · intro h
      exact ⟨_, ofGraph_eq_ok_iff.2 ⟨h, rfl⟩⟩
  · intro n h
    obtain ⟨-, rfl⟩ := ofGraph_eq_ok_iff.1 h
    refine ⟨fun name => ?_, fun name => ?_, fun name => ?_⟩
    · rw [Layout.get?_nodes]
      cases g.processes.get? name with
      | none => rfl
      | some d => exact congrArg some (Graph.layout_node g name d)
    · exact NameMap.get?_mapValues g.inports _ name
    · exact NameMap.get?_mapValues g.outports _ name

/-- A process that feeds itself and another one, arguments, and a port of the network on either
side. -/
theorem validation_exact_of_loop :
    let g := ((((((Graph.empty.addProcess "A" "bin/a").addProcess "B" "bin/b").connect
      ⟨"A", "OUT"⟩ ⟨"A", "BACK"⟩).connect ⟨"A", "OUT"⟩ ⟨"B", "IN"⟩).addPacket "-n 'x y'"
      ⟨"B", "ARGS"⟩).addInport "in" ⟨"A", "IN"⟩).addOutport "out" ⟨"B", "OUT"⟩
    ∃ n a, Network.ofGraph g = .ok n ∧ g.Sound ∧ g.Depicts n ∧ n.process? "A" = some a ∧
      a.inports = [⟨"BACK", none⟩, ⟨"IN", some "in"⟩] ∧
      a.outports = [⟨"OUT", .port "A" "BACK"⟩, ⟨"OUT", .port "B" "IN"⟩] := by
  intro g
  have hok : (ofGraph g).isOk = true := by decide +kernel
  have hdeclared : g.processes.get? "A" = some { component := "bin/a" } := by decide +kernel
  cases hn : ofGraph g with
  | error e =>
    rw [hn] at hok
    cases hok
  | ok n =>
    have hsound := (validation_exact g).1.1 ⟨n, hn⟩
    have hdepicts := (validation_exact g).2 n hn
    have hnode : n.process? "A" = some (g.nodeOf "A" { component := "bin/a" }) := by
      rw [process?, hdepicts.process, hdeclared, Option.map_some]
    exact ⟨n, _, rfl, hsound, hdepicts, hnode, by decide +kernel, by decide +kernel⟩

end Network

end Pipework
