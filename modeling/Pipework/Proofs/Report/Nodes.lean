import Mathlib.Data.List.Nodup
import Pipework.Proofs.Report.Contents

/-! The names of the nodes. The nodes of processes differ from one another, and so do those of ports
and packets, whatever dots are in the names they are made from. But a process may have the name that
the node of a port or packet has. -/

namespace Pipework.Dot

/-- The node that a statement is about. -/
def Statement.node? : Statement → Option String
  | process name _ => some name
  | node name _ _ => some name
  | edge .. => none

/-- The nodes of a network, in the order in which they are written. -/
def nodes (n : Network) : List String := (statements n).filterMap Statement.node?

/-- The nodes of the ports of a network. -/
def portNodes (n : Network) : List String :=
  n.inports.names.map inportNode ++ n.outports.names.map outportNode

/-- The nodes of the packets of a network. -/
def packetNodes (n : Network) : List String :=
  n.processes.values.flatMap fun p => (List.range p.packets.length).map (packetNode p.name)

theorem inportNode_injective : Function.Injective inportNode := by
  intro a b h
  exact (String.append_right_inj _).1 h

theorem outportNode_injective : Function.Injective outportNode := by
  intro a b h
  exact (String.append_right_inj _).1 h

theorem toList_packetNode (process : String) (index : ℕ) : (packetNode process index).toList =
    ("IIP.".toList ++ process.toList) ++ '.' :: (toString index).toList := by
  have hparts : packetNode process index = "IIP." ++ process ++ "." ++ toString index := rfl
  rw [hparts]
  simp

/-- An index is made of digits, so it is what comes behind the last dot. -/
theorem packetNode_inj {p q : String} {i j : ℕ} (h : packetNode p i = packetNode q j) :
    p = q ∧ i = j := by
  have hdot (k : ℕ) : '.' ∉ (toString k).toList := fun hm =>
    absurd (Text.isDigit_of_mem_toString hm) (by decide)
  have hl := congrArg String.toList h
  rw [toList_packetNode, toList_packetNode] at hl
  obtain ⟨hname, hindex⟩ := Text.append_cons_inj (hdot i) (hdot j) hl
  exact ⟨String.toList_inj.1 (List.append_cancel_left hname), Text.toString_injective hindex⟩

theorem portNode_ne_packetNode (name process : String) (index : ℕ) :
    inportNode name ≠ packetNode process index ∧ outportNode name ≠ packetNode process index := by
  constructor
  · intro h
    have hsecond := congrArg (fun s => s.toList[1]?) h
    simp [inportNode, toList_packetNode] at hsecond
  · intro h
    have hhead := congrArg (fun s => s.toList.head?) h
    simp [outportNode, toList_packetNode] at hhead

theorem nodup_portNodes (n : Network) : (portNodes n).Nodup := by
  refine List.nodup_append'.2 ⟨n.inports.nodup_names.map inportNode_injective,
    n.outports.nodup_names.map outportNode_injective, ?_⟩
  intro x hin hout
  obtain ⟨a, -, rfl⟩ := List.mem_map.1 hin
  obtain ⟨b, -, hb⟩ := List.mem_map.1 hout
  exact outportNode_ne_inportNode b a hb

variable {g : Graph} {n : Network}

/-- The nodes of the packets, as a list over the names of the processes. -/
theorem packetNodes_layout (l : Network.Layout) (ps : NameMap ProcessDeclaration) :
    ((l.nodes ps).values.flatMap fun p => (List.range p.packets.length).map (packetNode p.name)) =
      ps.names.flatMap fun name =>
        (List.range (l.packetsOf name).length).map (packetNode name) :=
  flatMap_nodes l ps _ _ fun _ _ => rfl

theorem nodup_packetNodes (hn : Network.ofGraph g = .ok n) : (packetNodes n).Nodup := by
  obtain ⟨-, rfl⟩ := Network.ofGraph_eq_ok_iff.1 hn
  rw [packetNodes, packetNodes_layout, List.nodup_flatMap]
  constructor
  · intro name _
    exact List.nodup_range.map fun i j h => (packetNode_inj h).2
  · refine g.processes.nodup_names.imp fun {a b} hab x ha hb => hab ?_
    obtain ⟨i, -, rfl⟩ := List.mem_map.1 ha
    obtain ⟨j, -, hj⟩ := List.mem_map.1 hb
    exact (packetNode_inj hj).1.symm

theorem disjoint_portNodes_packetNodes (n : Network) : (portNodes n).Disjoint (packetNodes n) := by
  intro x hport hpacket
  obtain ⟨p, -, hp⟩ := List.mem_flatMap.1 hpacket
  obtain ⟨i, -, rfl⟩ := List.mem_map.1 hp
  rcases List.mem_append.1 hport with h | h
  · obtain ⟨name, -, hname⟩ := List.mem_map.1 h
    exact (portNode_ne_packetNode name p.name i).1 hname
  · obtain ⟨name, -, hname⟩ := List.mem_map.1 h
    exact (portNode_ne_packetNode name p.name i).2 hname

theorem filterMap_node?_packets (process : String) (ps : List Packet) :
    ((ps.mapIdx (ofPacket process)).flatten).filterMap Statement.node? =
      (List.range ps.length).map (packetNode process) := by
  have hfrom (start : ℕ) : ((ps.mapIdx fun i => ofPacket process (i + start)).flatten).filterMap
      Statement.node? = (List.range ps.length).map fun i => packetNode process (i + start) := by
    induction ps generalizing start with
    | nil => rfl
    | cons p ps ih =>
      rw [List.mapIdx_cons, List.flatten_cons, List.filterMap_append, List.length_cons,
        List.range_succ_eq_map, List.map_cons, List.map_map]
      have hrest := ih (start + 1)
      simp only [← Nat.add_assoc, Nat.add_right_comm _ start 1] at hrest
      rw [hrest]
      rfl
  exact hfrom 0

/-- The node that is written along with an outport of a process. -/
def Item.outportNode? : Item → Option String
  | outport name _ => some (outportNode name)
  | _ => none

theorem filterMap_node?_outports (process : String) (ps : List Outport) :
    (ps.flatMap (ofOutport process)).filterMap Statement.node? =
      (ps.map (Item.ofOutport process)).filterMap Item.outportNode? := by
  induction ps with
  | nil => rfl
  | cons p ps ih =>
    rw [List.flatMap_cons, List.filterMap_append, ih, List.map_cons, ← List.singleton_append,
      List.filterMap_append]
    congr 1
    unfold ofOutport Item.ofOutport
    cases p.target <;> rfl

theorem outport_nodes_perm (hv : g.Valid) :
    ((g.layout.nodes g.processes).values.flatMap fun p =>
      (p.outports.flatMap (ofOutport p.name)).filterMap Statement.node?).Perm
      (g.outports.names.map outportNode) := by
  have hperm := (outport_items_perm hv).filterMap Item.outportNode?
  have hedges : (g.edges.map Item.ofEdge).filterMap Item.outportNode? = [] := by
    rw [List.filterMap_map]
    exact List.filterMap_eq_nil_iff.2 fun e _ => rfl
  have hout : (g.outports.entries.map fun e => Item.outport e.1 e.2).filterMap Item.outportNode? =
      g.outports.names.map outportNode := by
    rw [List.filterMap_map, NameMap.names, List.map_map]
    exact congrFun (List.filterMap_eq_map) _
  rw [List.filterMap_append, hedges, hout, List.filterMap_flatMap, List.nil_append] at hperm
  simp only [filterMap_node?_outports]
  exact hperm

/-- The nodes are those of the processes, the ports and the packets. -/
theorem nodes_perm (hn : Network.ofGraph g = .ok n) :
    (nodes n).Perm (n.processes.names ++ (portNodes n ++ packetNodes n)) := by
  obtain ⟨hv, rfl⟩ := Network.ofGraph_eq_ok_iff.1 hn
  have hprocesses : ((g.layout.nodes g.processes).values.map ofNode).filterMap Statement.node? =
      (g.layout.nodes g.processes).names := by
    rw [List.filterMap_map, Network.Layout.nodes, NameMap.values, NameMap.names, NameMap.mapValues,
      List.map_map, List.filterMap_map, List.map_map]
    exact congrFun List.filterMap_eq_map _
  have hinports (ps : NameMap BoundaryPort) :
      (ps.entries.flatMap fun e => ofInport e.1 e.2).filterMap Statement.node? =
        ps.names.map inportNode := by
    rw [List.filterMap_flatMap, NameMap.names, List.map_map, List.map_eq_flatMap]
    rfl
  have houtports : (Network.boundaryPorts g.outports).names = g.outports.names := by
    rw [Network.boundaryPorts, NameMap.names, NameMap.mapValues, List.map_map]
    rfl
  unfold nodes statements portNodes packetNodes
  rw [List.filterMap_append, List.filterMap_append, List.filterMap_append, hprocesses, hinports,
    List.filterMap_flatMap, List.filterMap_flatMap, houtports]
  simp only [filterMap_node?_packets, List.append_assoc]
  exact ((outport_nodes_perm hv).append_right _).append_left _ |>.append_left _

theorem quote_injective : Function.Injective quote := by
  intro s t h
  have hs := unquote?_quote s []
  rw [h, unquote?_quote] at hs
  exact (Prod.mk.inj (Option.some.inj hs)).1.symm

/-- Two nodes of a network are one only if a process has the name of a port's or a packet's node.
All others differ, as they are written. -/
theorem nodup_nodes_iff (hn : Network.ofGraph g = .ok n) :
    (nodes n).Perm (n.processes.names ++ (portNodes n ++ packetNodes n)) ∧
    n.processes.names.Nodup ∧ (portNodes n ++ packetNodes n).Nodup ∧
    (((nodes n).map quote).Nodup ↔
      ∀ name ∈ n.processes.names, name ∉ portNodes n ∧ name ∉ packetNodes n) := by
  have hperm := nodes_perm hn
  have hown : (portNodes n ++ packetNodes n).Nodup := List.nodup_append'.2
    ⟨nodup_portNodes n, nodup_packetNodes hn, disjoint_portNodes_packetNodes n⟩
  refine ⟨hperm, n.processes.nodup_names, hown, ?_⟩
  rw [List.nodup_map_iff quote_injective, hperm.nodup_iff, List.nodup_append']
  constructor
  · rintro ⟨-, -, hdisjoint⟩ name hname
    exact ⟨fun h => hdisjoint hname (List.mem_append_left _ h),
      fun h => hdisjoint hname (List.mem_append_right _ h)⟩
  · intro h
    refine ⟨n.processes.nodup_names, hown, fun name hname hmem => ?_⟩
    exact (List.mem_append.1 hmem).elim (h name hname).1 (h name hname).2

/-- Names with dots in them that come close to one another: packet 0 of the process A.0 and one of
the process A, which also is the name of a port on either side. -/
theorem nodup_nodes_of_dots :
    let g := ((((((Graph.empty.addProcess "A" "bin/a").addProcess "A.0" "bin/a").addProcess "IIP.A"
      "bin/a").addPacket "x" ⟨"A", "ARGS"⟩).addPacket "x" ⟨"A.0", "ARGS"⟩).addInport "A"
      ⟨"A", "IN"⟩).addOutport "A" ⟨"A", "OUT"⟩
    ∃ n, Network.ofGraph g = .ok n ∧ ((nodes n).map quote).Nodup ∧ nodes n =
      ["A", "A.0", "IIP.A", "INPORT.A", "OUTPORT.A", "IIP.A.0", "IIP.A.0.0"] := by
  intro g
  have hnames : (Network.ofGraph g >>= fun n =>
      .ok (nodes n, n.processes.names, portNodes n, packetNodes n)) =
      .ok (["A", "A.0", "IIP.A", "INPORT.A", "OUTPORT.A", "IIP.A.0", "IIP.A.0.0"],
        ["A", "A.0", "IIP.A"], ["INPORT.A", "OUTPORT.A"], ["IIP.A.0", "IIP.A.0.0"]) := by
    decide +kernel
  obtain ⟨n, hn, h⟩ := bind_eq_ok_iff.1 hnames
  simp only [Except.ok.injEq, Prod.mk.injEq] at h
  obtain ⟨hnodes, hprocesses, hports, hpackets⟩ := h
  refine ⟨n, hn, (nodup_nodes_iff hn).2.2.2.2 ?_, hnodes⟩
  rw [hprocesses, hports, hpackets]
  decide

/-- The node of the port IN is the process INPORT.IN, to which the port leads. -/
theorem port_merges_with_process :
    let g := (Graph.empty.addProcess "INPORT.IN" "bin/a").addInport "IN" ⟨"INPORT.IN", "X"⟩
    ∃ n, Network.ofGraph g = .ok n ∧ nodes n = ["INPORT.IN", "INPORT.IN"] ∧
      ¬((nodes n).map quote).Nodup := by
  intro g
  have hnodes : (Network.ofGraph g >>= fun n => .ok (nodes n)) =
      .ok ["INPORT.IN", "INPORT.IN"] := by
    decide +kernel
  obtain ⟨n, hn, h⟩ := bind_eq_ok_iff.1 hnodes
  refine ⟨n, hn, Except.ok.inj h, ?_⟩
  rw [Except.ok.inj h]
  decide

end Pipework.Dot
