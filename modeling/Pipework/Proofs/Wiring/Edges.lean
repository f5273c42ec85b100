import Pipework.Proofs.Network.Validity
import Pipework.Proofs.Wiring.Plan

/-! Every edge of a network has one named pipe, with one process that reads from it and one that
writes to it. The two ends find the pipe by themselves, so the bindings of all processes are sorted
by edges here and compared with the declared connections. -/

namespace Pipework

namespace Edge

/-- The named pipe of an edge. -/
def pipe (dir : Path) (e : Edge) : Path :=
  ComponentArgs.pipePath dir e.target.process e.target.port

/-- The binding of the receiving port, with its process. -/
def receiving (dir : Path) (e : Edge) : String × BoundPort :=
  (e.target.process, ⟨e.target.port, e.pipe dir, .network⟩)

/-- The binding of the sending port, with its process. -/
def sending (dir : Path) (e : Edge) : String × BoundPort :=
  (e.source.process, ⟨e.source.port, e.pipe dir, .network⟩)

end Edge

/-- The inports of a process that edges lead to. -/
def Node.internalInports (n : Node) : List Endpoint :=
  (n.inports.filter (·.boundary.isNone)).map fun p => ⟨n.name, p.port⟩

/-- The inports of all processes that edges lead to. -/
def Network.internalInports (n : Network) : List Endpoint :=
  n.processes.values.flatMap (·.internalInports)

namespace Wiring

/-- The pipe that an inport claims, with the inport as messages name it. -/
def claimOf (dir : Path) (p : Endpoint) : Path × String :=
  (ComponentArgs.pipePath dir p.process p.port, inportLabel p.process p.port)

/-- The bindings of all processes that satisfy `p`, each with its process. -/
def bindings (w : Wiring) (ports : NodePipes → List BoundPort) (p : BoundPort → Bool) :
    List (String × BoundPort) :=
  w.processes.entries.flatMap fun e => ((ports e.2).filter p).map fun b => (e.1, b)

/-- The inports that own a named pipe. -/
def received (w : Wiring) : List (String × BoundPort) :=
  w.processes.entries.flatMap fun e => e.2.ownedPipes.map fun b => (e.1, b)

/-- The outports that write to a named pipe. -/
def sent (w : Wiring) : List (String × BoundPort) := w.bindings (·.outports) (·.owner == .network)

/-- The inports with a supplied path. -/
def suppliedIn (w : Wiring) : List (String × BoundPort) :=
  w.bindings (·.inports) (·.owner != .network)

/-- The outports with a supplied path. -/
def suppliedOut (w : Wiring) : List (String × BoundPort) :=
  w.bindings (·.outports) (·.owner != .network)

@[simp] theorem supplied_beq_network (name : String) :
    (PipeOwner.supplied name == .network) = false := rfl

@[simp] theorem supplied_bne_network (name : String) :
    (PipeOwner.supplied name != .network) = true := rfl

theorem length_received (w : Wiring) : w.received.length = w.pipeCount := by
  unfold received pipeCount NameMap.values
  rw [List.flatMap_map, List.length_flatMap, List.length_flatMap]
  simp only [List.length_map]

/-- Elements that are sorted by their keys are still the same elements. -/
theorem perm_flatMap_of_segments {α β : Type} {keys : List String} (hk : keys.Nodup) {l : List α}
    {key : α → String} (hl : ∀ x ∈ l, key x ∈ keys) {f : String → α → β}
    {segment : String → List β}
    (hs : ∀ k, segment k = (l.filter (key · == k)).map (f k)) :
    (keys.flatMap segment).Perm (l.map fun x => f (key x) x) := by
  obtain rfl : segment = fun k => (l.filter (key · == k)).map (f k) := funext hs
  clear hs
  induction keys generalizing l with
  | nil =>
    have hnil : l = [] := List.eq_nil_iff_forall_not_mem.2 fun x hx => nomatch hl x hx
    simp [hnil]
  | cons k keys ih =>
    obtain ⟨hnk, hks⟩ := List.nodup_cons.1 hk
    have hl' : ∀ x ∈ l.filter (!key · == k), key x ∈ keys := by
      intro x hx
      rw [List.mem_filter] at hx
      rcases List.mem_cons.1 (hl x hx.1) with he | hm
      · simp [he] at hx
      · exact hm
    have hsame : ∀ k' ∈ keys, l.filter (key · == k') =
        (l.filter (!key · == k)).filter (key · == k') := by
      intro k' hk'
      rw [List.filter_filter]
      apply List.filter_congr
      intro x _
      by_cases hx : key x = k'
      · have hne : k' ≠ k := fun he => hnk (he ▸ hk')
        simp [hx, hne]
      · simp [hx]
    -- the segments of the other keys are those of `l` without the first key
    have hrest : (keys.flatMap fun k' => (l.filter (key · == k')).map (f k')) =
        keys.flatMap fun k' => ((l.filter (!key · == k)).filter (key · == k')).map (f k') := by
      apply List.flatMap_congr
      intro k' hk'
      rw [hsame k' hk']
    have hfirst : (l.filter (key · == k)).map (f k) =
        (l.filter (key · == k)).map fun x => f (key x) x := by
      apply List.map_congr_left
      intro x hx
      rw [List.mem_filter, beq_iff_eq] at hx
      rw [hx.2]
    rw [List.flatMap_cons, hfirst, hrest]
    refine ((ih hks hl').append_left _).trans ?_
    rw [← List.map_append]
    exact (List.filter_append_perm _ l).map _

variable {g : Graph} {n : Network} {dir : Path} {boundary : ComponentArgs} {w : Wiring}

/-- The wiring of a network is that of its layout. -/
theorem plan_ofGraph (hn : Network.ofGraph g = .ok n) (hw : plan n dir boundary = .ok w) :
    w = ⟨dir, g.processes.mapValues fun name d =>
      nodePipes dir boundary (g.layout.node name d)⟩ := by
  obtain ⟨-, rfl⟩ := Network.ofGraph_eq_ok_iff.1 hn
  obtain ⟨-, -, rfl⟩ := plan_eq_ok_iff.1 hw
  have hbound : ((g.layout.nodes g.processes).values.map
      fun p => (p.name, nodePipes dir boundary p)) =
      (g.processes.mapValues fun name d =>
        nodePipes dir boundary (g.layout.node name d)).entries := by
    unfold Network.Layout.nodes NameMap.values NameMap.mapValues
    rw [List.map_map, List.map_map]
    rfl
  rw [hbound, NameMap.ofList_entries]

/-- What the ports of single processes are bound to, taken together. -/
theorem bindings_perm (hn : Network.ofGraph g = .ok n) (hw : plan n dir boundary = .ok w)
    {α : Type} {l : List α} {key : α → String} (hl : ∀ x ∈ l, key x ∈ g.processes.names)
    {ports : NodePipes → List BoundPort} {p : BoundPort → Bool} {f : String → α → BoundPort}
    (hs : ∀ name d, (ports (nodePipes dir boundary (g.layout.node name d))).filter p =
      (l.filter (key · == name)).map (f name)) :
    (w.bindings ports p).Perm (l.map fun x => (key x, f (key x) x)) := by
  have hsegments : w.bindings ports p = g.processes.names.flatMap fun name =>
      (l.filter (key · == name)).map fun x => (name, f name x) := by
    rw [plan_ofGraph hn hw]
    unfold bindings NameMap.mapValues NameMap.names
    rw [List.flatMap_map, List.flatMap_map]
    apply List.flatMap_congr
    intro e _
    rw [hs, List.map_map]
    rfl
  rw [hsegments]
  exact perm_flatMap_of_segments g.processes.nodup_names hl (f := fun name x => (name, f name x))
    fun _ => rfl

theorem edge_declared (hv : g.Valid) {e : Edge} (he : e ∈ g.edges) :
    e.target.process ∈ g.processes.names ∧ e.source.process ∈ g.processes.names := by
  obtain ⟨c, hc, hce⟩ := List.mem_filterMap.1 he
  obtain ⟨s, hs, rfl⟩ := Option.map_eq_some_iff.1 hce
  have hvc := hv.connection c hc
  refine ⟨NameMap.contains_iff_mem_names.1 hvc.target_declared, ?_⟩
  rcases hvc.payload with ⟨s', hs', -, hd, -⟩ | ⟨_, hs', -⟩
  · rw [hs] at hs'
    obtain rfl := Option.some.inj hs'
    exact NameMap.contains_iff_mem_names.1 hd
  · rw [hs] at hs'
    cases hs'

theorem received_perm (hn : Network.ofGraph g = .ok n) (hw : plan n dir boundary = .ok w) :
    w.received.Perm (g.edges.map (Edge.receiving dir)) := by
  have hv := (Network.ofGraph_eq_ok_iff.1 hn).1
  change (w.bindings (·.inports) (·.owner == .network)).Perm _
  refine bindings_perm hn hw (fun e he => (edge_declared hv he).1)
    (f := fun name e => ⟨e.target.port, ComponentArgs.pipePath dir name e.target.port, .network⟩)
    fun name d => ?_
  simp [nodePipes, Network.Layout.node, Network.nodeOf, Network.Layout.inportsOf, inportBinding,
    Graph.layout, List.filter_map, Function.comp_def]

theorem sent_perm (hn : Network.ofGraph g = .ok n) (hw : plan n dir boundary = .ok w) :
    w.sent.Perm (g.edges.map (Edge.sending dir)) := by
  have hv := (Network.ofGraph_eq_ok_iff.1 hn).1
  refine bindings_perm hn hw (fun e he => (edge_declared hv he).2)
    (f := fun _ e => ⟨e.source.port, e.pipe dir, .network⟩) fun name d => ?_
  simp [nodePipes, Network.Layout.node, Network.Layout.outportsOf, outportBinding, Graph.layout,
    Edge.pipe, List.filter_map, Function.comp_def]

/-- The binding of an inport of the network. -/
def boundaryInport (boundary : ComponentArgs) (e : String × Endpoint) : String × BoundPort :=
  (e.2.process, ⟨e.2.port, (boundary.inport? e.1).getD [], .supplied e.1⟩)

/-- The binding of an outport of the network. -/
def boundaryOutport (boundary : ComponentArgs) (e : String × Endpoint) : String × BoundPort :=
  (e.2.process, ⟨e.2.port, (boundary.outport? e.1).getD [], .supplied e.1⟩)

theorem suppliedIn_perm (hn : Network.ofGraph g = .ok n) (hw : plan n dir boundary = .ok w) :
    w.suppliedIn.Perm (g.inports.entries.map (boundaryInport boundary)) := by
  have hv := (Network.ofGraph_eq_ok_iff.1 hn).1
  refine bindings_perm hn hw
    (fun e he => NameMap.contains_iff_mem_names.1 (hv.inport e he).declared)
    (f := fun _ e => ⟨e.2.port, (boundary.inport? e.1).getD [], .supplied e.1⟩) fun name d => ?_
  simp [nodePipes, Network.Layout.node, Network.Layout.inportsOf, inportBinding, Graph.layout,
    List.filter_map, Function.comp_def]

theorem suppliedOut_perm (hn : Network.ofGraph g = .ok n) (hw : plan n dir boundary = .ok w) :
    w.suppliedOut.Perm (g.outports.entries.map (boundaryOutport boundary)) := by
  have hv := (Network.ofGraph_eq_ok_iff.1 hn).1
  refine bindings_perm hn hw
    (fun e he => NameMap.contains_iff_mem_names.1 (hv.outport e he).declared)
    (f := fun _ e => ⟨e.2.port, (boundary.outport? e.1).getD [], .supplied e.1⟩) fun name d => ?_
  simp [nodePipes, Network.Layout.node, Network.Layout.outportsOf, outportBinding, Graph.layout,
    List.filter_map, Function.comp_def]

/-- A list over all inports of a network is one over the names of its processes. -/
theorem flatMap_inports_nodes {α : Type} (l : Network.Layout) (ps : NameMap ProcessDeclaration)
    (f : String → List Inport → List α) :
    (l.nodes ps).values.flatMap (fun n => f n.name n.inports) =
      ps.names.flatMap fun name => f name (l.inportsOf name) := by
  unfold Network.Layout.nodes NameMap.values NameMap.mapValues NameMap.names
  rw [List.flatMap_map, List.flatMap_map, List.flatMap_map]
  rfl

/-- The inports that edges lead to are the targets of the edges. -/
theorem internalInports_perm (hn : Network.ofGraph g = .ok n) :
    n.internalInports.Perm (g.edges.map Edge.target) := by
  obtain ⟨hv, rfl⟩ := Network.ofGraph_eq_ok_iff.1 hn
  have hname (name : String) :
      ((g.layout.inportsOf name).filter (·.boundary.isNone)).map
          (fun p => (⟨name, p.port⟩ : Endpoint)) =
        (g.edges.filter (·.target.process == name)).map fun e => ⟨name, e.target.port⟩ := by
    simp [Network.Layout.inportsOf, Graph.layout, List.filter_map, Function.comp_def]
  have hinports := flatMap_inports_nodes g.layout g.processes fun name ports =>
    (ports.filter (·.boundary.isNone)).map fun p => (⟨name, p.port⟩ : Endpoint)
  unfold Network.internalInports Node.internalInports
  rw [hinports]
  exact perm_flatMap_of_segments g.processes.nodup_names (fun e he => (edge_declared hv he).1)
    (f := fun name e => (⟨name, e.target.port⟩ : Endpoint)) hname

/-- No two edges of a network lead to the same inport. -/
theorem nodup_internalInports (hn : Network.ofGraph g = .ok n) : n.internalInports.Nodup := by
  have hv := (Network.ofGraph_eq_ok_iff.1 hn).1
  exact (internalInports_perm hn).nodup_iff.2 hv.targets_nodup

theorem allClaims_eq (dir : Path) (ns : List Node) :
    allClaims dir ns = (ns.flatMap (·.internalInports)).map (claimOf dir) := by
  have hclaims (n : Node) : claims dir n.name n.inports = n.internalInports.map (claimOf dir) := by
    unfold claims Node.internalInports
    induction n.inports with
    | nil => rfl
    | cons p ps ih =>
      rw [List.filterMap_cons, List.filter_cons]
      cases hb : p.boundary with
      | none => simpa [claim?, hb, claimOf] using ih
      | some name => simpa [claim?, hb] using ih
  rw [allClaims, List.map_flatMap]
  exact List.flatMap_congr fun n _ => hclaims n

/-- The wiring would not be there if two edges had one pipe. -/
theorem nodup_pipes (hn : Network.ofGraph g = .ok n) (hw : plan n dir boundary = .ok w) :
    (g.edges.map (Edge.pipe dir)).Nodup := by
  have hclaims := (plan_eq_ok_iff.1 hw).2.1
  have hpipes : g.edges.map (Edge.pipe dir) =
      ((g.edges.map Edge.target).map (claimOf dir)).map Prod.fst := by
    rw [List.map_map, List.map_map]
    rfl
  rw [allClaims_eq] at hclaims
  rw [hpipes]
  exact (((internalInports_perm hn).map _).map _).nodup_iff.1 hclaims

theorem edgeCount_ofGraph (hn : Network.ofGraph g = .ok n) : n.edgeCount = g.edges.length := by
  have hcount : n.edgeCount = n.internalInports.length := by
    rw [Network.edgeCount, List.countP_eq_length_filter, List.filter_flatMap]
    simp [Network.internalInports, Node.internalInports, List.length_flatMap]
  rw [hcount, (internalInports_perm hn).length_eq, List.length_map]

theorem length_edges (g : Graph) : g.edges.length = g.connections.countP (·.source.isSome) := by
  rw [Graph.edges, List.length_filterMap_eq_countP]
  simp [Connection.edge?]

theorem names_boundaryPorts (ports : NameMap Endpoint) :
    (Network.boundaryPorts ports).names = ports.names := by
  unfold Network.boundaryPorts NameMap.mapValues NameMap.names
  rw [List.map_map]
  rfl

theorem mem_values_iff (hn : Network.ofGraph g = .ok n) {node : Node} :
    node ∈ n.processes.values ↔
      ∃ d, g.processes.get? node.name = some d ∧ node = g.layout.node node.name d := by
  obtain ⟨-, rfl⟩ := Network.ofGraph_eq_ok_iff.1 hn
  unfold NameMap.values Network.Layout.nodes NameMap.mapValues
  rw [List.map_map, List.mem_map]
  constructor
  · rintro ⟨e, he, rfl⟩
    exact ⟨e.2, NameMap.mem_entries_iff.1 he, rfl⟩
  · rintro ⟨d, hd, hnode⟩
    exact ⟨(node.name, d), NameMap.mem_entries_iff.2 hd, hnode.symm⟩

/-- A port of the network stands for a port of some process. -/
theorem mem_names_iff_exists_node (hn : Network.ofGraph g = .ok n) {ports : NameMap Endpoint}
    (hd : ∀ e ∈ ports.entries, g.processes.contains e.2.process = true) {name : String} :
    name ∈ ports.names ↔ ∃ node ∈ n.processes.values,
      ∃ e ∈ ports.entries, e.2.process = node.name ∧ e.1 = name := by
  constructor
  · intro hm
    obtain ⟨e, he, rfl⟩ := List.mem_map.1 hm
    obtain ⟨d, hget⟩ := Option.isSome_iff_exists.1 (hd e he)
    have hnode : g.layout.node e.2.process d ∈ n.processes.values :=
      (mem_values_iff hn).2 ⟨d, hget, rfl⟩
    exact ⟨_, hnode, e, he, rfl, rfl⟩
  · rintro ⟨node, -, e, he, -, rfl⟩
    exact List.mem_map_of_mem he

theorem mem_inports_names_iff (hn : Network.ofGraph g = .ok n) {name : String} :
    name ∈ n.inports.names ↔
      ∃ node ∈ n.processes.values, ∃ p ∈ node.inports, p.boundary = some name := by
  obtain ⟨hv, hnet⟩ := Network.ofGraph_eq_ok_iff.1 hn
  have hnames : n.inports.names = g.inports.names := by
    rw [hnet]
    exact names_boundaryPorts g.inports
  rw [hnames, mem_names_iff_exists_node hn fun e he => (hv.inport e he).declared]
  refine exists_congr fun node => and_congr_right fun hm => ?_
  obtain ⟨d, -, hnode⟩ := (mem_values_iff hn).1 hm
  have hinports : node.inports = g.layout.inportsOf node.name := congrArg Node.inports hnode
  rw [hinports]
  simp [Network.Layout.inportsOf, Graph.layout, or_and_right, exists_or, and_assoc]

theorem mem_outports_names_iff (hn : Network.ofGraph g = .ok n) {name : String} :
    name ∈ n.outports.names ↔
      ∃ node ∈ n.processes.values, ∃ p ∈ node.outports, p.target = .boundary name := by
  obtain ⟨hv, hnet⟩ := Network.ofGraph_eq_ok_iff.1 hn
  have hnames : n.outports.names = g.outports.names := by
    rw [hnet]
    exact names_boundaryPorts g.outports
  rw [hnames, mem_names_iff_exists_node hn fun e he => (hv.outport e he).declared]
  refine exists_congr fun node => and_congr_right fun hm => ?_
  obtain ⟨d, -, hnode⟩ := (mem_values_iff hn).1 hm
  have houtports : node.outports = g.layout.outportsOf node.name := congrArg Node.outports hnode
  rw [houtports]
  simp [Network.Layout.outportsOf, Graph.layout, or_and_right, exists_or, and_assoc]

theorem nodeSupplied_iff (hn : Network.ofGraph g = .ok n) :
    (∀ node ∈ n.processes.values, NodeSupplied boundary node) ↔
      (∀ name ∈ n.inports.names, (boundary.inport? name).isSome = true) ∧
      ∀ name ∈ n.outports.names, (boundary.outport? name).isSome = true := by
  constructor
  · intro h
    constructor
    · intro name hm
      obtain ⟨node, hnode, p, hp, hname⟩ := (mem_inports_names_iff hn).1 hm
      exact (h node hnode).1 p hp name hname
    · intro name hm
      obtain ⟨node, hnode, p, hp, hname⟩ := (mem_outports_names_iff hn).1 hm
      exact (h node hnode).2 p hp name hname
  · rintro ⟨hin, hout⟩ node hnode
    constructor
    · intro p hp name hname
      exact hin name ((mem_inports_names_iff hn).2 ⟨node, hnode, p, hp, hname⟩)
    · intro p hp name hname
      exact hout name ((mem_outports_names_iff hn).2 ⟨node, hnode, p, hp, hname⟩)

theorem supplied_ofGraph (hn : Network.ofGraph g = .ok n) (hw : plan n dir boundary = .ok w) :
    (∀ e ∈ g.inports.entries, (boundary.inport? e.1).isSome = true) ∧
      ∀ e ∈ g.outports.entries, (boundary.outport? e.1).isSome = true := by
  obtain ⟨hin, hout⟩ := (nodeSupplied_iff hn).1 (plan_eq_ok_iff.1 hw).1
  obtain ⟨-, rfl⟩ := Network.ofGraph_eq_ok_iff.1 hn
  simp only [names_boundaryPorts] at hin hout
  exact ⟨fun e he => hin e.1 (List.mem_map_of_mem he),
    fun e he => hout e.1 (List.mem_map_of_mem he)⟩

/-- Edges, the inports that own a pipe and the outports that write to one belong together one by
one: both ends of an edge have its pipe and no other edge has it. Ports of the network have the
paths that were supplied for them and own nothing. -/
theorem pipes_match_edges (hn : Network.ofGraph g = .ok n) (hw : plan n dir boundary = .ok w) :
    w.received.Perm (g.edges.map (Edge.receiving dir)) ∧
    w.sent.Perm (g.edges.map (Edge.sending dir)) ∧
    (g.edges.map (Edge.pipe dir)).Nodup ∧
    w.pipeCount = n.edgeCount ∧ n.edgeCount = g.connections.countP (·.source.isSome) ∧
    (∀ e ∈ g.inports.entries, (boundary.inport? e.1).isSome = true) ∧
    w.suppliedIn.Perm (g.inports.entries.map (boundaryInport boundary)) ∧
    (∀ e ∈ g.outports.entries, (boundary.outport? e.1).isSome = true) ∧
    w.suppliedOut.Perm (g.outports.entries.map (boundaryOutport boundary)) ∧
    (∀ b ∈ w.suppliedIn, b ∉ w.received ∧ ∀ o ∈ w.received, o.1 = b.1 → o.2.port ≠ b.2.port) ∧
    ∀ b ∈ w.suppliedOut, b ∉ w.received := by
  have hv := (Network.ofGraph_eq_ok_iff.1 hn).1
  have hreceived := received_perm hn hw
  have hin := suppliedIn_perm hn hw
  have hout := suppliedOut_perm hn hw
  have hcount : w.pipeCount = n.edgeCount := by
    rw [← length_received, hreceived.length_eq, List.length_map, edgeCount_ofGraph hn]
  refine ⟨hreceived, sent_perm hn hw, nodup_pipes hn hw, hcount, ?_,
    (supplied_ofGraph hn hw).1, hin, (supplied_ofGraph hn hw).2, hout, ?_, ?_⟩
  · rw [edgeCount_ofGraph hn, length_edges]
  · intro b hb
    obtain ⟨p, hp, rfl⟩ := List.mem_map.1 (hin.mem_iff.1 hb)
    constructor
    · intro hr
      obtain ⟨e, -, he⟩ := List.mem_map.1 (hreceived.mem_iff.1 hr)
      cases congrArg (fun x => x.2.owner) he
    · intro o ho hprocess hport
      obtain ⟨e, he, rfl⟩ := List.mem_map.1 (hreceived.mem_iff.1 ho)
      refine hv.inport_free p hp (List.mem_map.2 ⟨e, he, ?_⟩)
      exact Network.endpoint_eq_iff.2 ⟨hprocess, hport⟩
  · intro b hb hr
    obtain ⟨p, -, rfl⟩ := List.mem_map.1 (hout.mem_iff.1 hb)
    obtain ⟨e, -, he⟩ := List.mem_map.1 (hreceived.mem_iff.1 hr)
    cases congrArg (fun x => x.2.owner) he

/-- Two edges from one port, one of them back to its own process, and a port of the network on
either side. -/
theorem pipes_match_edges_fan_out :
    let g := ((((((Graph.empty.addProcess "A" "bin/a").addProcess "B.C" "bin/b").connect
      ⟨"A", "OUT"⟩ ⟨"B.C", "IN"⟩).connect ⟨"A", "OUT"⟩ ⟨"A", "BACK"⟩).addPacket "-n 1"
      ⟨"B.C", "ARGS"⟩).addInport "in" ⟨"A", "IN"⟩).addOutport "out" ⟨"B.C", "OUT"⟩
    let boundary : ComponentArgs := ⟨[⟨"in", [47, 97]⟩], [⟨"out", [98]⟩], []⟩
    ∃ n w, Network.ofGraph g = .ok n ∧ plan n [47, 100] boundary = .ok w ∧
      w.received.Perm (g.edges.map (Edge.receiving [47, 100])) ∧ w.pipeCount = 2 := by
  intro g boundary
  have hok : (do plan (← Network.ofGraph g) [47, 100] boundary).isOk = true := by decide +kernel
  have hedges : g.connections.countP (·.source.isSome) = 2 := by decide +kernel
  cases hrun : (do plan (← Network.ofGraph g) [47, 100] boundary : Except NetworkError Wiring) with
  | error e =>
    rw [hrun] at hok
    cases hok
  | ok w =>
    obtain ⟨n, hn, hw⟩ := bind_eq_ok_iff.1 hrun
    obtain ⟨hreceived, -, -, hpipes, hcount, -⟩ := pipes_match_edges hn hw
    refine ⟨n, w, hn, hw, hreceived, ?_⟩
    rw [hpipes, hcount, hedges]

end Wiring

end Pipework
