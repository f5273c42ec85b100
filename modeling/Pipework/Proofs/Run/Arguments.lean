import Pipework.Proofs.Arguments
import Pipework.Proofs.Wiring.Edges
import Pipework.Run.Plan

/-! What a component is started with is what it reads: the process of the network, its bindings and
its free arguments, through the arguments of its command line. -/

namespace Pipework

open Text

variable {g : Graph} {n : Network} {dir : Path} {boundary : ComponentArgs} {w : Wiring}

theorem mem_values_ofGraph (hn : Network.ofGraph g = .ok n) {node : Node}
    (hm : node ∈ n.processes.values) : n.process? node.name = some node := by
  obtain ⟨-, rfl⟩ := Network.ofGraph_eq_ok_iff.1 hn
  obtain ⟨e, he, rfl⟩ := List.mem_map.1 hm
  obtain ⟨d, hd, rfl⟩ := List.mem_map.1 he
  exact NameMap.mem_entries_iff.1 (List.mem_map.2 ⟨d, hd, rfl⟩)

theorem Wiring.process?_ofGraph (hn : Network.ofGraph g = .ok n)
    (hw : Wiring.plan n dir boundary = .ok w) {name : String} {node : Node}
    (hnode : n.process? name = some node) :
    w.process? name = some (Wiring.nodePipes dir boundary node) := by
  rw [Wiring.process?, Wiring.plan_ofGraph hn hw, NameMap.get?_mapValues]
  obtain ⟨-, rfl⟩ := Network.ofGraph_eq_ok_iff.1 hn
  rw [Network.process?, Network.Layout.get?_nodes] at hnode
  obtain ⟨d, hd, rfl⟩ := Option.map_eq_some_iff.1 hnode
  rw [hd]
  rfl

theorem planned_of_mem {specs : List PlannedProcess} (hn : Network.ofGraph g = .ok n)
    (hp : planRun n dir boundary = .ok specs) {s : PlannedProcess} (hs : s ∈ specs) :
    ∃ node, n.process? s.name = some node ∧ node.freeArguments = .ok s.args.free ∧
      s.pipes = Wiring.nodePipes dir boundary node ∧
      s.args = s.pipes.componentArgs s.args.free := by
  obtain ⟨w, hw, hmap⟩ := bind_eq_ok_iff.1 hp
  obtain ⟨node, hm, hnode⟩ := exists_of_mem_mapM hmap hs
  have hprocess := mem_values_ofGraph hn hm
  obtain ⟨free, hfree, hspec⟩ := bind_eq_ok_iff.1 hnode
  obtain rfl := (Except.ok.inj hspec).symm
  refine ⟨node, hprocess, hfree, ?_, rfl⟩
  rw [Wiring.process?_ofGraph hn hw hprocess]
  rfl

/-- A process is planned with its pipes and its free arguments. When the component reads its
arguments it sees the same, as long as the paths of its outports are text, exactly if no free
argument is taken for a port flag or for the end of the flags. -/
theorem arguments_read_back {specs : List PlannedProcess} (hn : Network.ofGraph g = .ok n)
    (hp : planRun n dir boundary = .ok specs) {s : PlannedProcess} (hs : s ∈ specs) :
    ∃ node, n.process? s.name = some node ∧ node.freeArguments = .ok s.args.free ∧
      s.pipes = Wiring.nodePipes dir boundary node ∧
      s.args = s.pipes.componentArgs s.args.free ∧
      ((∀ b ∈ s.args.outports, ∃ path, b.path = toBytes path) →
        (ComponentArgs.parse s.argv.tail = .ok s.args ↔
          ∀ text ∈ s.args.free, text ≠ "--" ∧ ¬PortFlag.Spells text)) := by
  obtain ⟨node, hnode, hfree, hpipes, hargs⟩ := planned_of_mem hn hp hs
  exact ⟨node, hnode, hfree, hpipes, hargs, ComponentArgs.parse_toArguments_iff⟩

/-- A process that feeds itself, with a supplied path that is no text and free arguments that start
with dashes. -/
theorem arguments_read_back_of_dashes :
    let g := (((Graph.empty.addProcess "A" "bin/a").connect ⟨"A", "OUT"⟩ ⟨"A", "BACK"⟩).addPacket
      "-n --inports 'x y'" ⟨"A", "ARGS"⟩).addInport "in" ⟨"A", "IN"⟩
    let back : Path := toBytes "/dev/shm/A.BACK"
    let pipes : NodePipes :=
      ⟨[⟨"BACK", back, .network⟩, ⟨"IN", [254, 47], .supplied "in"⟩], [⟨"OUT", back, .network⟩]⟩
    let s : PlannedProcess :=
      ⟨"A", "bin/a", pipes, pipes.componentArgs ["-n", "--inports", "x y"]⟩
    ∃ n, Network.ofGraph g = .ok n ∧
      planRun n (toBytes "/dev/shm") ⟨[⟨"in", [254, 47]⟩], [], []⟩ = .ok [s] ∧
      ComponentArgs.parse s.argv.tail = .ok s.args := by
  intro g back pipes s
  have hplan : (Network.ofGraph g >>= fun n =>
      planRun n (toBytes "/dev/shm") ⟨[⟨"in", [254, 47]⟩], [], []⟩) = .ok [s] := by decide +kernel
  obtain ⟨n, hn, hp⟩ := bind_eq_ok_iff.1 hplan
  have hu : ∀ b ∈ s.args.outports, ∃ path, b.path = toBytes path := by
    intro b hb
    obtain rfl := List.mem_singleton.1 hb
    exact ⟨"/dev/shm/A.BACK", rfl⟩
  have hfree : ∀ text ∈ s.args.free, text ≠ "--" ∧ ¬PortFlag.Spells text := by
    simp only [← PortFlag.ofText?_eq_none_iff]
    decide +kernel
  obtain ⟨-, -, -, -, -, hparse⟩ := arguments_read_back hn hp (List.mem_singleton.2 rfl)
  exact ⟨n, hn, hp, (hparse hu).2 hfree⟩

/-- Free arguments follow the bindings without protection, so one that ends the flags is lost. -/
theorem free_terminator_lost :
    let g := (Graph.empty.addProcess "A" "bin/a").addPacket "--" ⟨"A", "ARGS"⟩
    let s : PlannedProcess := ⟨"A", "bin/a", {}, { free := ["--"] }⟩
    ∃ n, Network.ofGraph g = .ok n ∧ planRun n (toBytes "/dev/shm") {} = .ok [s] ∧
      ComponentArgs.parse s.argv.tail = .ok {} ∧ ComponentArgs.parse s.argv.tail ≠ .ok s.args := by
  intro g s
  have hplan : (Network.ofGraph g >>= fun n => planRun n (toBytes "/dev/shm") {}) = .ok [s] := by
    decide +kernel
  obtain ⟨n, hn, hp⟩ := bind_eq_ok_iff.1 hplan
  exact ⟨n, hn, hp, by decide +kernel, by decide +kernel⟩

end Pipework
