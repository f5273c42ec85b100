import Mathlib.Data.List.Perm.Basic
import Pipework.Proofs.Report.Reading
import Pipework.Proofs.Wiring.Edges

/-! What the graph of a network shows: its processes, its ports, the edges between them and the
packets. All of it is found in the text again, and nothing else, whatever characters the names and
packets are made of. -/

namespace Pipework.Dot

/-- What one or two statements show. The ports of an edge are one label. -/
inductive Item where
  | process (name component : String)
  | inport (name : String) (target : Endpoint)
  | edge (source target label : String)
  | outport (name : String) (source : Endpoint)
  | packet (target : Endpoint) (data : String)
deriving DecidableEq, Repr

/-- Is there a node for the item besides the nodes of processes? -/
def Item.hasNode : Item → Bool
  | process .. | edge .. => false
  | inport .. | outport .. | packet .. => true

/-- Reads statements as what they show: the component stands in the label of a process behind its
name, and the node of a port or packet is followed by the edge that belongs to it. -/
def itemsOf? : List Statement → Option (List Item)
  | [] => some []
  | .process name label :: ss =>
    (label.toList.dropPrefix? (name ++ "\n").toList).bind fun component =>
      (itemsOf? ss).map (.process name (String.ofList component) :: ·)
  | .edge source target label false :: ss => (itemsOf? ss).map (.edge source target label :: ·)
  | .node node .boundary name :: .edge source target port false :: ss =>
    if node = inportNode name ∧ source = node then
      (itemsOf? ss).map (.inport name ⟨target, port⟩ :: ·)
    else if node = outportNode name ∧ target = node then
      (itemsOf? ss).map (.outport name ⟨source, port⟩ :: ·)
    else none
  | .node node .packet label :: .edge source target port true :: ss =>
    if source = node then
      ((label.toList.dropPrefix? "'".toList).bind (·.dropSuffix? "'".toList)).bind fun data =>
        (itemsOf? ss).map (.packet ⟨target, port⟩ (String.ofList data) :: ·)
    else none
  | _ => none

/-- What an outport of a process is shown as. -/
def Item.ofOutport (process : String) (p : Outport) : Item :=
  match p.target with
  | .port remote port => .edge process remote (p.port ++ " -> " ++ port)
  | .boundary name => .outport name ⟨process, p.port⟩

/-- What an edge is shown as. -/
def Item.ofEdge (e : Edge) : Item :=
  .edge e.source.process e.target.process (e.source.port ++ " -> " ++ e.target.port)

/-- All that is shown of a network. -/
def items (n : Network) : List Item :=
  n.processes.values.map (fun p => .process p.name p.component) ++
    n.inports.entries.map (fun e => .inport e.1 ⟨e.2.process, e.2.port⟩) ++
    n.processes.values.flatMap (fun p => p.outports.map (.ofOutport p.name)) ++
    n.processes.values.flatMap (fun p => p.packets.map fun x => .packet ⟨p.name, x.port⟩ x.data)

/-- All that there is to show of a graph. -/
def itemsOfGraph (g : Graph) : List Item :=
  g.processes.entries.map (fun e => .process e.1 e.2.component) ++
    g.inports.entries.map (fun e => .inport e.1 e.2) ++
    (g.edges.map .ofEdge ++ g.outports.entries.map fun e => .outport e.1 e.2) ++
    g.packets.map fun p => .packet p.1 p.2

/-- The statements show the items, whatever is shown behind them, and have a line for each item and
one more for each node of its own. -/
structure Shows (block : List Statement) (shown : List Item) : Prop where
  read : ∀ ss, itemsOf? (block ++ ss) = (itemsOf? ss).map (shown ++ ·)
  length : block.length = shown.length + shown.countP Item.hasNode

namespace Shows

variable {α : Type} {block block' : List Statement} {shown shown' : List Item}

theorem nil : Shows [] [] := by
  constructor
  · intro ss
    cases h : itemsOf? ss <;> simp [h]
  · rfl

theorem append (h : Shows block shown) (h' : Shows block' shown') :
    Shows (block ++ block') (shown ++ shown') := by
  constructor
  · intro ss
    rw [List.append_assoc, h.read, h'.read, Option.map_map]
    congr 1
    funext later
    exact (List.append_assoc _ _ _).symm
  · rw [List.length_append, List.length_append, List.countP_append, h.length, h'.length]
    omega

theorem flatMap {f : α → List Statement} {items : α → List Item}
    (h : ∀ a, Shows (f a) (items a)) (l : List α) : Shows (l.flatMap f) (l.flatMap items) := by
  induction l with
  | nil => exact nil
  | cons a l ih => exact (h a).append ih

theorem mapIdx {f : ℕ → α → List Statement} {item : α → Item} (h : ∀ i a, Shows (f i a) [item a])
    (l : List α) : Shows (l.mapIdx f).flatten (l.map item) := by
  induction l generalizing f with
  | nil => exact nil
  | cons a l ih =>
    rw [List.mapIdx_cons, List.flatten_cons, List.map_cons]
    exact (h 0 a).append (ih fun i a => h (i + 1) a)

end Shows

theorem shows_process (p : Node) : Shows [ofNode p] [.process p.name p.component] := by
  refine ⟨fun ss => ?_, rfl⟩
  have hlabel : (p.name ++ "\n" ++ p.component).toList =
      (p.name ++ "\n").toList ++ p.component.toList := String.toList_append
  rw [ofNode, List.singleton_append, itemsOf?, hlabel, List.dropPrefix?_append_of_beq _ BEq.rfl,
    Option.bind_some, String.ofList_toList]
  rfl

theorem shows_inport (name : String) (p : BoundaryPort) :
    Shows (ofInport name p) [.inport name ⟨p.process, p.port⟩] := by
  refine ⟨fun ss => ?_, rfl⟩
  rw [ofInport, List.cons_append, List.singleton_append, itemsOf?, if_pos ⟨rfl, rfl⟩]
  rfl

theorem outportNode_ne_inportNode (a b : String) : outportNode a ≠ inportNode b := by
  intro h
  have hhead := congrArg (fun s => s.toList.head?) h
  simp [outportNode, inportNode] at hhead

theorem shows_outport (process : String) (p : Outport) :
    Shows (ofOutport process p) [.ofOutport process p] := by
  unfold ofOutport Item.ofOutport
  cases p.target with
  | port remote port => exact ⟨fun ss => rfl, rfl⟩
  | boundary name =>
    refine ⟨fun ss => ?_, rfl⟩
    have hnode : ¬(outportNode name = inportNode name ∧ process = outportNode name) :=
      fun h => outportNode_ne_inportNode name name h.1
    rw [List.cons_append, List.singleton_append, itemsOf?, if_neg hnode, if_pos ⟨rfl, rfl⟩]
    rfl

theorem shows_packet (process : String) (index : ℕ) (p : Packet) :
    Shows (ofPacket process index p) [.packet ⟨process, p.port⟩ p.data] := by
  refine ⟨fun ss => ?_, rfl⟩
  have hlabel : ("'" ++ p.data ++ "'").toList = "'".toList ++ (p.data.toList ++ "'".toList) := by
    simp
  have hsuffix : (p.data.toList ++ "'".toList).dropSuffix? "'".toList = some p.data.toList :=
    List.dropSuffix?_eq_some_iff.2 ⟨_, rfl, BEq.rfl⟩
  rw [ofPacket, List.cons_append, List.singleton_append, itemsOf?, if_pos rfl, hlabel,
    List.dropPrefix?_append_of_beq _ BEq.rfl, Option.bind_some, hsuffix, Option.bind_some,
    String.ofList_toList]
  rfl

theorem shows_statements (n : Network) : Shows (statements n) (items n) := by
  unfold statements items
  rw [List.map_eq_flatMap, List.map_eq_flatMap (f := fun p : Node => Item.process _ _),
    List.map_eq_flatMap (f := fun e : String × BoundaryPort => Item.inport _ _)]
  refine (((Shows.flatMap shows_process _).append (Shows.flatMap (fun e => ?_) _)).append
    (Shows.flatMap (fun p => ?_) _)).append (Shows.flatMap (fun p => ?_) _)
  · exact shows_inport e.1 e.2
  · rw [List.map_eq_flatMap]
    exact Shows.flatMap (shows_outport p.name) _
  · exact Shows.mapIdx (shows_packet p.name) _

/-- Reading the text of a network gives all that is shown of it. -/
theorem itemsOf?_statements (n : Network) : itemsOf? (statements n) = some (items n) := by
  have hread := (shows_statements n).read []
  rw [List.append_nil, itemsOf?, Option.map_some, List.append_nil] at hread
  exact hread

variable {g : Graph} {n : Network}

/-- A list over all processes of a network is one over the names of its processes. -/
theorem flatMap_nodes {α : Type} (l : Network.Layout) (ps : NameMap ProcessDeclaration)
    (f : Node → List α) (segment : String → List α)
    (h : ∀ name d, f (l.node name d) = segment name) :
    (l.nodes ps).values.flatMap f = ps.names.flatMap segment := by
  unfold Network.Layout.nodes NameMap.values NameMap.mapValues NameMap.names
  rw [List.flatMap_map, List.flatMap_map, List.flatMap_map]
  exact List.flatMap_congr fun e _ => h e.1 e.2

theorem outport_items_perm (hv : g.Valid) :
    ((g.layout.nodes g.processes).values.flatMap fun p =>
        p.outports.map (Item.ofOutport p.name)).Perm
      (g.edges.map Item.ofEdge ++ g.outports.entries.map fun e => .outport e.1 e.2) := by
  let sent (name : String) : List Item := (g.edges.filter (·.source.process == name)).map fun e =>
    .edge name e.target.process (e.source.port ++ " -> " ++ e.target.port)
  let out (name : String) : List Item := (g.outports.entries.filter (·.2.process == name)).map
    fun e => .outport e.1 ⟨name, e.2.port⟩
  have hsegment (name : String) (d : ProcessDeclaration) :
      (g.layout.node name d).outports.map (Item.ofOutport (g.layout.node name d).name) =
        sent name ++ out name := by
    simp [Network.Layout.node, Network.nodeOf, Network.Layout.outportsOf, Graph.layout, sent, out,
      Item.ofOutport, Function.comp_def]
  rw [flatMap_nodes g.layout g.processes _ (fun name => sent name ++ out name) hsegment]
  refine (List.flatMap_append_perm _ sent out).symm.trans ?_
  refine List.Perm.append ?_ ?_
  · exact Wiring.perm_flatMap_of_segments g.processes.nodup_names
      (fun e he => (Wiring.edge_declared hv he).2) fun _ => rfl
  · exact Wiring.perm_flatMap_of_segments g.processes.nodup_names
      (fun e he => NameMap.contains_iff_mem_names.1 (hv.outport e he).declared) fun _ => rfl

theorem packet_declared (hv : g.Valid) {p : Endpoint × String} (hp : p ∈ g.packets) :
    p.1.process ∈ g.processes.names := by
  obtain ⟨c, hc, hcp⟩ := List.mem_filterMap.1 hp
  unfold Connection.packet? at hcp
  split at hcp
  · cases hcp
  · obtain ⟨data, -, rfl⟩ := Option.map_eq_some_iff.1 hcp
    exact NameMap.contains_iff_mem_names.1 (hv.connection c hc).target_declared

theorem packet_items_perm (hv : g.Valid) :
    ((g.layout.nodes g.processes).values.flatMap fun p =>
        p.packets.map fun x => Item.packet ⟨p.name, x.port⟩ x.data).Perm
      (g.packets.map fun p => Item.packet p.1 p.2) := by
  let sent (name : String) : List Item := (g.packets.filter (·.1.process == name)).map fun p =>
    .packet ⟨name, p.1.port⟩ p.2
  have hsegment (name : String) (d : ProcessDeclaration) :
      (g.layout.node name d).packets.map
        (fun x => Item.packet ⟨(g.layout.node name d).name, x.port⟩ x.data) = sent name := by
    simp [Network.Layout.node, Network.nodeOf, Network.Layout.packetsOf, Graph.layout, sent,
      Function.comp_def]
  rw [flatMap_nodes g.layout g.processes _ sent hsegment]
  exact Wiring.perm_flatMap_of_segments g.processes.nodup_names (fun p hp => packet_declared hv hp)
    fun _ => rfl

/-- What is shown of a network is what its graph declares. -/
theorem items_perm (hn : Network.ofGraph g = .ok n) : (items n).Perm (itemsOfGraph g) := by
  obtain ⟨hv, rfl⟩ := Network.ofGraph_eq_ok_iff.1 hn
  have hprocesses : (g.layout.nodes g.processes).values.map
      (fun p => Item.process p.name p.component) =
      g.processes.entries.map fun e => .process e.1 e.2.component := by
    simp [Network.Layout.nodes, NameMap.values, NameMap.mapValues, Network.Layout.node,
      Network.nodeOf, Function.comp_def]
  have hinports : (Network.boundaryPorts g.inports).entries.map
      (fun e => Item.inport e.1 ⟨e.2.process, e.2.port⟩) =
      g.inports.entries.map fun e => .inport e.1 e.2 := by
    simp [Network.boundaryPorts, NameMap.mapValues, Function.comp_def]
  unfold items itemsOfGraph
  rw [hprocesses, hinports]
  exact ((List.Perm.refl _).append (outport_items_perm hv)).append (packet_items_perm hv)

theorem length_packets (hn : Network.ofGraph g = .ok n) :
    (n.processes.values.flatMap (·.packets)).length = g.packets.length := by
  obtain ⟨hv, rfl⟩ := Network.ofGraph_eq_ok_iff.1 hn
  have hlength := (packet_items_perm hv).length_eq
  simpa [List.length_flatMap] using hlength

/-- Each process and each edge has a line, and each port of the network and each packet has two. -/
theorem length_statements (hn : Network.ofGraph g = .ok n) : (statements n).length =
    n.size + 2 * n.inports.size + n.edgeCount + 2 * n.outports.size +
      2 * (n.processes.values.flatMap (·.packets)).length := by
  have hperm := items_perm hn
  rw [(shows_statements n).length, hperm.length_eq, hperm.countP_eq, Wiring.edgeCount_ofGraph hn,
    length_packets hn]
  obtain ⟨-, rfl⟩ := Network.ofGraph_eq_ok_iff.1 hn
  simp only [itemsOfGraph, List.length_append, List.length_map, List.countP_append, List.countP_map,
    Function.comp_def, Item.hasNode, Item.ofEdge, List.countP_true, List.countP_false,
    Function.const_apply, Network.size, NameMap.size, Network.Layout.nodes, NameMap.mapValues,
    Network.boundaryPorts]
  omega

/-- A line feed ends each of the opening lines, each statement and the closing line, and stands
nowhere else. -/
theorem count_lineFeed (n : Network) :
    (render n).toList.count '\n' = 4 + (statements n).length := by
  have hlines (ss : List Statement) :
      (String.join (ss.map (·.line ++ "\n"))).toList.count '\n' = ss.length := by
    induction ss with
    | nil => rfl
    | cons s ss ih =>
      rw [List.map_cons, String.join_cons, String.toList_append, List.count_append, ih,
        String.toList_append, List.count_append, List.count_eq_zero.2 s.lineFeed_not_mem_line,
        List.length_cons]
      have hone : "\n".toList.count '\n' = 1 := by decide
      omega
  have hopening : opening.toList.count '\n' = 3 := by decide
  have hclosing : closing.toList.count '\n' = 1 := by decide
  rw [render_eq_lines, String.toList_append, String.toList_append, List.count_append,
    List.count_append, hlines, hopening, hclosing]
  omega

/-- Nothing in a network can break its graph. Each statement has a line of its own, in which every
quoted text is read back as it was, and the lines tell the processes with their components, the
ports of the network with what they stand for, the edges with their labels, and the packets. -/
theorem contents_read_back (hn : Network.ofGraph g = .ok n) :
    render n = opening ++ String.join ((statements n).map (·.line ++ "\n")) ++ closing ∧
    (statements n).length = n.size + 2 * n.inports.size + n.edgeCount + 2 * n.outports.size +
      2 * (n.processes.values.flatMap (·.packets)).length ∧
    (render n).toList.count '\n' = 4 + n.size + 2 * n.inports.size + n.edgeCount +
      2 * n.outports.size + 2 * (n.processes.values.flatMap (·.packets)).length ∧
    (∀ text rest, unquote? ((quote text).toList ++ rest) = some (text, rest)) ∧
    (∀ s ∈ statements n, '\n' ∉ s.line.toList ∧ Statement.ofLine? s.line.toList = some s) ∧
    ofText? (render n) = some (statements n) ∧
    itemsOf? (statements n) = some (items n) ∧ (items n).Perm (itemsOfGraph g) := by
  refine ⟨render_eq_lines n, length_statements hn, ?_, unquote?_quote,
    fun s _ => ⟨s.lineFeed_not_mem_line, s.ofLine?_line⟩, ofText?_render n, itemsOf?_statements n,
    items_perm hn⟩
  rw [count_lineFeed, length_statements hn]
  omega

/-- A component and a packet with quotes, backslashes and line feeds, a process that feeds itself,
and a port of the network on either side. -/
theorem contents_read_back_of_quotes :
    let data := "\"];\n\" \\\\"
    let g := (((((Graph.empty.addProcess "A" "bin/\"a\\\n").connect ⟨"A", "OUT"⟩
      ⟨"A", "BACK -> \""⟩).addPacket data ⟨"A", "ARGS"⟩).addInport "in\\" ⟨"A", "IN"⟩).addOutport
      "out\"" ⟨"A", "OUT\\"⟩)
    ∃ n, Network.ofGraph g = .ok n ∧ (render n).toList.count '\n' = 12 ∧
      (ofText? (render n)).bind itemsOf? = some (items n) ∧ (items n).Perm [
        .process "A" "bin/\"a\\\n", .inport "in\\" ⟨"A", "IN"⟩,
        .edge "A" "A" "OUT -> BACK -> \"", .outport "out\"" ⟨"A", "OUT\\"⟩,
        .packet ⟨"A", "ARGS"⟩ data] := by
  intro data g
  have hnumber : (Network.ofGraph g).toOption.map (fun n => 4 + n.size + 2 * n.inports.size +
      n.edgeCount + 2 * n.outports.size + 2 * (n.processes.values.flatMap (·.packets)).length) =
      some 12 := by decide +kernel
  cases hn : Network.ofGraph g with
  | error e =>
    rw [hn] at hnumber
    cases hnumber
  | ok n =>
    obtain ⟨-, -, hcount, -, -, htext, hitems, hperm⟩ := contents_read_back hn
    have hshown : itemsOfGraph g = [.process "A" "bin/\"a\\\n", .inport "in\\" ⟨"A", "IN"⟩,
        .edge "A" "A" "OUT -> BACK -> \"", .outport "out\"" ⟨"A", "OUT\\"⟩,
        .packet ⟨"A", "ARGS"⟩ data] := by decide +kernel
    refine ⟨n, rfl, ?_, ?_, hshown ▸ hperm⟩
    · rw [hn] at hnumber
      exact hcount.trans (Option.some.inj hnumber)
    · rw [htext, Option.bind_some, hitems]

end Pipework.Dot
