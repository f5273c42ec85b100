import Pipework.Network.OfGraph
import Pipework.Proofs.Except
import Pipework.Proofs.NameMap

/-! What a network consists of while it is built: the edges, packets and ports of the network that
have been added so far. Each step of the construction adds one of them to the layout, and the
processes of the network are always those of the layout. -/

namespace Pipework

/-- A connection from one port to another. -/
structure Edge where
  source : Endpoint
  target : Endpoint
deriving DecidableEq, Repr

/-- The edge that a connection is, if it has a source. -/
def Connection.edge? (c : Connection) : Option Edge := c.source.map fun s => ⟨s, c.target⟩

/-- The packet that a connection is, if it has no source. -/
def Connection.packet? (c : Connection) : Option (Endpoint × String) :=
  match c.source with
  | some _ => none
  | none => c.dataText?.map fun data => (c.target, data)

/-- The connections that have a source, in order. -/
def Graph.edges (g : Graph) : List Edge := g.connections.filterMap Connection.edge?

/-- The packets of a graph, in order. -/
def Graph.packets (g : Graph) : List (Endpoint × String) :=
  g.connections.filterMap Connection.packet?

namespace Network

/-- All that is attached to the processes of a network. -/
structure Layout where
  edges : List Edge := []
  packets : List (Endpoint × String) := []
  inward : List (String × Endpoint) := []
  outward : List (String × Endpoint) := []

namespace Layout

/-- The inports of a process: those that edges lead to, and those of the network. -/
def inportsOf (l : Layout) (name : String) : List Inport :=
  (l.edges.filter (·.target.process == name)).map (fun e => ⟨e.target.port, none⟩) ++
    (l.inward.filter (·.2.process == name)).map (fun e => ⟨e.2.port, some e.1⟩)

/-- The outports of a process: those that edges start from, and those of the network. -/
def outportsOf (l : Layout) (name : String) : List Outport :=
  (l.edges.filter (·.source.process == name)).map
      (fun e => ⟨e.source.port, .port e.target.process e.target.port⟩) ++
    (l.outward.filter (·.2.process == name)).map (fun e => ⟨e.2.port, .boundary e.1⟩)

/-- The packets of a process. -/
def packetsOf (l : Layout) (name : String) : List Packet :=
  (l.packets.filter (·.1.process == name)).map fun p => ⟨p.1.port, p.2⟩

/-- A declared process with its part of the layout. -/
def node (l : Layout) (name : String) (d : ProcessDeclaration) : Node :=
  { nodeOf name d with
    inports := l.inportsOf name
    outports := l.outportsOf name
    packets := l.packetsOf name }

/-- The declared processes with all of the layout. -/
def nodes (l : Layout) (ps : NameMap ProcessDeclaration) : NameMap Node := ps.mapValues l.node

/-- Does an edge or a port of the network lead to this port? -/
def Receives (l : Layout) (p : Endpoint) : Prop :=
  (∃ e ∈ l.edges, e.target = p) ∨ ∃ e ∈ l.inward, e.2 = p

/-- Does an edge or a port of the network start from this port? -/
def Sends (l : Layout) (p : Endpoint) : Prop :=
  (∃ e ∈ l.edges, e.source = p) ∨ ∃ e ∈ l.outward, e.2 = p

/-- The layout with one more connection. -/
def add (l : Layout) (c : Connection) : Layout :=
  match c.source, c.dataText? with
  | some s, none => { l with edges := l.edges ++ [⟨s, c.target⟩] }
  | none, some data => { l with packets := l.packets ++ [(c.target, data)] }
  | _, _ => l

end Layout

theorem updateNode_eq_mapValues (nodes : NameMap Node) (p : String) (f : Node → Node) :
    updateNode nodes p f = nodes.mapValues fun name n => if name = p then f n else n := by
  apply NameMap.ext_get?
  intro a
  rw [NameMap.get?_mapValues, updateNode]
  cases hp : nodes.get? p with
  | none =>
    by_cases h : a = p
    · rw [h, hp]
      rfl
    · simp [h]
  | some n =>
    simp only []
    rw [NameMap.get?_insert]
    by_cases h : a = p
    · rw [if_pos h, h, hp]
      simp
    · simp [h]

theorem endpoint_eq_iff {p : Endpoint} {process port : String} :
    p = ⟨process, port⟩ ↔ p.process = process ∧ p.port = port := by
  cases p
  simp

namespace Layout

variable {ps : NameMap ProcessDeclaration} {l : Layout}

theorem hasInport_node {name port : String} {d : ProcessDeclaration} :
    (l.node name d).hasInport port = true ↔ l.Receives ⟨name, port⟩ := by
  simp only [Node.hasInport, node, inportsOf, Receives, List.any_append, List.any_map,
    Bool.or_eq_true, List.any_eq_true, List.mem_filter, Function.comp_apply, beq_iff_eq,
    endpoint_eq_iff, and_assoc]

theorem hasOutport_node {name port : String} {d : ProcessDeclaration} :
    (l.node name d).hasOutport port = true ↔ l.Sends ⟨name, port⟩ := by
  simp only [Node.hasOutport, node, outportsOf, Sends, List.any_append, List.any_map,
    Bool.or_eq_true, List.any_eq_true, List.mem_filter, Function.comp_apply, beq_iff_eq,
    endpoint_eq_iff, and_assoc]

theorem get?_nodes (name : String) : (l.nodes ps).get? name = (ps.get? name).map (l.node name) :=
  NameMap.get?_mapValues ps l.node name

theorem contains_nodes (name : String) : (l.nodes ps).contains name = ps.contains name := by
  rw [NameMap.contains, NameMap.contains, get?_nodes, Option.isSome_map]

/-- Is the port in use on this side? -/
def Uses (l : Layout) : Direction → Endpoint → Prop
  | .inward => l.Receives
  | .outward => l.Sends

theorem inUse_nodes {d : Direction} {p : Endpoint} (hp : ps.contains p.process = true) :
    inUse (l.nodes ps) d p = true ↔ l.Uses d p := by
  obtain ⟨x, hx⟩ := Option.isSome_iff_exists.1 hp
  rw [inUse, get?_nodes, hx]
  cases d with
  | inward => exact hasInport_node
  | outward => exact hasOutport_node

/-- Updates of the nodes of a layout give the nodes of another one if they do so process by
process. -/
theorem updateNode_nodes {l' : Layout} {p : String} {f : Node → Node}
    (h : ∀ name d, (if name = p then f (l.node name d) else l.node name d) = l'.node name d) :
    updateNode (l.nodes ps) p f = l'.nodes ps := by
  rw [updateNode_eq_mapValues, nodes, NameMap.mapValues_mapValues]
  exact congrArg ps.mapValues (funext fun name => funext fun d => h name d)

/-- Inports of the network come behind those of edges, so edges are added first. -/
theorem addEdge_nodes (hi : l.inward = []) (ho : l.outward = []) (e : Edge) :
    updateNode (updateNode (l.nodes ps) e.target.process fun n =>
        { n with inports := n.inports ++ [{ port := e.target.port }] }) e.source.process
      (fun n => { n with outports :=
        n.outports ++ [⟨e.source.port, .port e.target.process e.target.port⟩] }) =
    nodes { l with edges := l.edges ++ [e] } ps := by
  rw [updateNode_eq_mapValues, updateNode_eq_mapValues, nodes, NameMap.mapValues_mapValues,
    NameMap.mapValues_mapValues]
  refine congrArg ps.mapValues (funext fun name => funext fun d => ?_)
  by_cases ht : e.target.process = name <;> by_cases hs : e.source.process = name <;>
    simp [node, inportsOf, outportsOf, packetsOf, hi, ho, ht, hs,
      eq_comm (a := name)]

theorem addPacket_nodes (p : Endpoint) (data : String) :
    updateNode (l.nodes ps) p.process (fun n => { n with packets := n.packets ++ [⟨p.port, data⟩] })
      = nodes { l with packets := l.packets ++ [(p, data)] } ps := by
  apply updateNode_nodes
  intro name d
  by_cases hp : p.process = name <;>
    simp [node, inportsOf, outportsOf, packetsOf, hp, eq_comm (a := name)]

/-- The layout with one more port of the network. -/
def addBoundary (d : Direction) (l : Layout) (e : String × Endpoint) : Layout :=
  match d with
  | .inward => { l with inward := l.inward ++ [e] }
  | .outward => { l with outward := l.outward ++ [e] }

theorem addBoundary_nodes (d : Direction) (e : String × Endpoint) :
    updateNode (l.nodes ps) e.2.process (withBoundary d e.1 e.2.port) =
      (l.addBoundary d e).nodes ps := by
  apply updateNode_nodes
  intro name x
  cases d <;> by_cases hp : e.2.process = name <;>
    simp [addBoundary, withBoundary, node, inportsOf, outportsOf, packetsOf, hp,
      eq_comm (a := name)]

end Layout

end Network

end Pipework
