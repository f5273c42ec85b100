import Pipework.Proofs.Network.Exactness
import Pipework.Proofs.Path
import Pipework.Proofs.Run.Arguments
import Pipework.Proofs.Wiring.Refusals

/-! When a network can be run at all. Its construction has looked at names, connections and packets,
so planning can only miss a path for a port of the network, or meet two inports with one pipe. -/

namespace Pipework

open Text

/-- The process and the port with a dot between them. -/
def Endpoint.dotted (p : Endpoint) : String := p.process ++ "." ++ p.port

/-- The reasons for which a network is not planned. -/
inductive Network.Refusal (n : Network) (dir : Path) (boundary : ComponentArgs) :
    NetworkError → Prop
  | inport {name : String} (declared : name ∈ n.inports.names)
      (missing : ∀ b ∈ boundary.inports, b.name ≠ name) :
      Refusal n dir boundary (.missingBoundaryPath "inport" name)
  | outport {name : String} (declared : name ∈ n.outports.names)
      (missing : ∀ b ∈ boundary.outports, b.name ≠ name) :
      Refusal n dir boundary (.missingBoundaryPath "outport" name)
  | collision {p q : Endpoint} (first : p ∈ n.internalInports) (second : q ∈ n.internalInports)
      (differ : p ≠ q) (same : p.dotted = q.dotted) :
      Refusal n dir boundary (.pathCollision (dir.join (toBytes p.dotted))
        (Wiring.inportLabel p.process p.port) (Wiring.inportLabel q.process q.port))

/-- The process is started with its ports in their order, and with the words of its packets in the
order of their declaration. -/
structure PlannedProcess.Starts (g : Graph) (dir : Path) (boundary : ComponentArgs) (node : Node)
    (s : PlannedProcess) : Prop where
  name : s.name = node.name
  component : s.component = node.component
  pipes : s.pipes = Wiring.nodePipes dir boundary node
  args : ∃ groups : List (List String),
    ((g.connections.filterMap (Connection.packetOf? node.name)).filter
        (·.port == argumentsPort)).map (words? ·.data) = groups.map some ∧
      s.args = s.pipes.componentArgs groups.flatten

variable {g : Graph} {n : Network} {dir : Path} {boundary other : ComponentArgs}

/-- A usable name is a name in octets too, and it has no octet that ends a path. -/
theorem UsableName.isName {name : String} (h : UsableName name) :
    Path.IsName (toBytes name) ∧ Path.hasZero (toBytes name) = false := by
  have hnil : toBytes name ≠ toBytes "" := fun he => h.nonempty (toBytes_injective he)
  have hdot : toBytes name ≠ toBytes "." := fun he => h.not_dot (toBytes_injective he)
  have hdots : toBytes name ≠ toBytes ".." := fun he => h.not_dots (toBytes_injective he)
  have hslash : Path.slash ∉ toBytes name := by
    intro hm
    have hc : '/' ∈ name.toList := mem_toList_of_mem_toBytes hm (by decide)
    exact h.no_slash hc
  have hzero : (0 : UInt8) ∉ toBytes name := by
    intro hm
    have hc : '\x00' ∈ name.toList := mem_toList_of_mem_toBytes hm (by decide)
    cases h.no_control _ hc
  exact ⟨⟨hnil, hdot, hdots, hslash⟩, by simpa [Path.hasZero] using hzero⟩

/-- A dot between two usable names makes a usable name. -/
theorem Endpoint.usable_dotted {p : Endpoint} (hprocess : UsableName p.process)
    (hport : UsableName p.port) : UsableName p.dotted := by
  have hchars : p.dotted.toList = p.process.toList ++ '.' :: p.port.toList := by
    simp [dotted]
  have hchar {c : Char} (hm : c ∈ p.dotted.toList) :
      c ∈ p.process.toList ∨ c = '.' ∨ c ∈ p.port.toList := by
    rwa [hchars, List.mem_append, List.mem_cons] at hm
  -- there is something on either side of the dot
  have hlong : 3 ≤ p.dotted.toList.length := by
    have hfront : p.process.toList ≠ [] := fun he => hprocess.nonempty (String.toList_eq_nil_iff.1 he)
    have hback : p.port.toList ≠ [] := fun he => hport.nonempty (String.toList_eq_nil_iff.1 he)
    have hpos := List.length_pos_of_ne_nil hfront
    have hpos' := List.length_pos_of_ne_nil hback
    rw [hchars, List.length_append, List.length_cons]
    omega
  have hdiffers {s : String} (hs : s.toList.length < 3) : p.dotted ≠ s := by
    rintro rfl
    omega
  refine ⟨hdiffers (by decide), hdiffers (by decide), hdiffers (by decide), ?_, ?_⟩
  · intro hm
    rcases hchar hm with h | h | h
    · exact hprocess.no_slash h
    · cases h
    · exact hport.no_slash h
  · intro c hm
    rcases hchar hm with h | rfl | h
    · exact hprocess.no_control c h
    · rfl
    · exact hport.no_control c h

theorem Endpoint.isName_dotted {p : Endpoint} (hprocess : UsableName p.process)
    (hport : UsableName p.port) :
    Path.IsName (toBytes p.dotted) ∧ Path.hasZero (toBytes p.dotted) = false :=
  (usable_dotted hprocess hport).isName

theorem usable_of_mem_internalInports (hn : Network.ofGraph g = .ok n) {p : Endpoint}
    (hp : p ∈ n.internalInports) : UsableName p.process ∧ UsableName p.port := by
  obtain ⟨e, he, rfl⟩ := List.mem_map.1 ((Wiring.internalInports_perm hn).mem_iff.1 hp)
  have hsound := Graph.valid_iff_sound.1 (Network.ofGraph_eq_ok_iff.1 hn).1
  obtain ⟨c, hc, -, htarget⟩ := Graph.mem_edges_iff.1 he
  have hhas := hsound.target c hc
  rw [htarget] at hhas
  obtain ⟨d, hd⟩ := Option.isSome_iff_exists.1 hhas.declared
  exact ⟨(hsound.process _ d hd).1, hhas.port⟩

/-- Inports share a pipe exactly if they share their dotted name. -/
theorem claimOf_eq_iff (hn : Network.ofGraph g = .ok n) {p q : Endpoint}
    (hp : p ∈ n.internalInports) (hq : q ∈ n.internalInports) :
    (Wiring.claimOf dir p).1 = (Wiring.claimOf dir q).1 ↔ p.dotted = q.dotted := by
  obtain ⟨hpp, hpq⟩ := usable_of_mem_internalInports hn hp
  obtain ⟨hqp, hqq⟩ := usable_of_mem_internalInports hn hq
  constructor
  · intro h
    exact toBytes_injective (Path.join_injective (Endpoint.isName_dotted hpp hpq).1
      (Endpoint.isName_dotted hqp hqq).1 h)
  · intro h
    exact congrArg (fun name => dir.join (toBytes name)) h

theorem find?_eq_none_iff {bindings : List PortPath} {name : String} :
    ComponentArgs.find? bindings name = none ↔ ∀ b ∈ bindings, b.name ≠ name := by
  rw [ComponentArgs.find?, Option.map_eq_none_iff, List.find?_eq_none]
  simp only [beq_iff_eq, ne_eq]

theorem refusal_of_plan (hn : Network.ofGraph g = .ok n) {e : NetworkError}
    (h : Wiring.plan n dir boundary = .error e) : n.Refusal dir boundary e := by
  rcases Wiring.plan_eq_error h with ⟨node, hnode, hunsupplied⟩ | hcollides
  · cases hunsupplied with
    | inport hp hasks hmissing =>
      have hdeclared := (Wiring.mem_inports_names_iff hn).2 ⟨node, hnode, _, hp, hasks⟩
      exact .inport hdeclared (find?_eq_none_iff.1 hmissing)
    | outport hp hasks hmissing =>
      have hdeclared := (Wiring.mem_outports_names_iff hn).2 ⟨node, hnode, _, hp, hasks⟩
      exact .outport hdeclared (find?_eq_none_iff.1 hmissing)
  · obtain ⟨before, c, after, first, hclaims, hfirst, rfl⟩ := hcollides
    have hnodup := Wiring.nodup_internalInports hn
    have hall : n.internalInports.map (Wiring.claimOf dir) = before ++ c :: after := by
      rw [← hclaims, Wiring.allClaims_eq]
      rfl
    -- the claims are made by inports, and no inport makes two of them
    obtain ⟨front, rest, hsplit, rfl, hrest⟩ := List.map_eq_append_iff.1 hall
    obtain ⟨q, back, rfl, rfl, -⟩ := List.map_eq_cons_iff.1 hrest
    rw [List.append_nil] at hfirst
    obtain ⟨p, hp, hpfirst⟩ := List.mem_map.1 hfirst
    have hpath : (Wiring.claimOf dir p).1 = (Wiring.claimOf dir q).1 :=
      congrArg (·.1) hpfirst
    have hlabel : Wiring.inportLabel p.process p.port = first := congrArg Prod.snd hpfirst
    have hpn : p ∈ n.internalInports := hsplit ▸ List.mem_append_left _ hp
    have hqn : q ∈ n.internalInports :=
      hsplit ▸ List.mem_append_right _ List.mem_cons_self
    have hdiffer : p ≠ q := by
      rintro rfl
      rw [hsplit] at hnodup
      exact (List.nodup_append.1 hnodup).2.2 p hp p List.mem_cons_self rfl
    have hcollision : n.Refusal dir boundary (.pathCollision (dir.join (toBytes p.dotted))
        (Wiring.inportLabel p.process p.port) (Wiring.inportLabel q.process q.port)) :=
      .collision hpn hqn hdiffer ((claimOf_eq_iff hn hpn hqn).1 hpath)
    rw [hlabel] at hcollision
    rw [← hpath]
    exact hcollision

theorem freeArguments_of_words {node : Node} {groups : List (List String)}
    (h : (node.packets.filter (·.port == argumentsPort)).map (words? ·.data) = groups.map some) :
    node.freeArguments = .ok groups.flatten := by
  refine bind_eq_ok_iff.2 ⟨groups, mapM_eq_ok_iff.2 ?_, rfl⟩
  rw [← List.forall₂_eq_eq_eq, List.forall₂_map_left_iff, List.forall₂_map_right_iff] at h
  refine h.imp fun p words hp => ?_
  rw [hp]

/-- The packets of a network can be split into words, so its processes have arguments. -/
theorem freeArguments_ofGraph (hn : Network.ofGraph g = .ok n) {node : Node}
    (hm : node ∈ n.processes.values) : ∃ groups : List (List String),
      ((g.connections.filterMap (Connection.packetOf? node.name)).filter
          (·.port == argumentsPort)).map (words? ·.data) = groups.map some ∧
        node.freeArguments = .ok groups.flatten := by
  obtain ⟨d, -, hnode⟩ := (Wiring.mem_values_iff hn).1 hm
  have hpackets : node.packets = g.connections.filterMap (Connection.packetOf? node.name) := by
    rw [hnode, Graph.layout_node]
    rfl
  have hsound := Graph.valid_iff_sound.1 (Network.ofGraph_eq_ok_iff.1 hn).1
  have hwords : ∀ p ∈ node.packets, (words? p.data).isSome = true := by
    intro p hp
    rw [hpackets] at hp
    obtain ⟨c, hc, hcp⟩ := List.mem_filterMap.1 hp
    unfold Connection.packetOf? at hcp
    split at hcp
    · rename_i x hsource hdata
      split at hcp
      · obtain rfl := Option.some.inj hcp
        exact (hsound.packet c hc x hdata).2
      · cases hcp
    · cases hcp
  -- the construction has split every packet once, so splitting it again cannot fail
  let packets := node.packets.filter (·.port == argumentsPort)
  let groups := packets.map fun p => (words? p.data).getD []
  have hgroups : packets.map (words? ·.data) = groups.map some := by
    rw [List.map_map]
    apply List.map_congr_left
    intro p hp
    obtain ⟨words, hw⟩ := Option.isSome_iff_exists.1 (hwords p (List.mem_filter.1 hp).1)
    simp [hw]
  refine ⟨groups, ?_, freeArguments_of_words hgroups⟩
  rw [← hpackets]
  exact hgroups

/-- Once the ports are bound, every process can be started. -/
theorem planRun_of_plan (hn : Network.ofGraph g = .ok n) {w : Wiring}
    (hw : Wiring.plan n dir boundary = .ok w) : ∃ specs, planRun n dir boundary = .ok specs ∧
      List.Forall₂ (PlannedProcess.Starts g dir boundary) n.processes.values specs := by
  have hnode : ∀ node ∈ n.processes.values, ∃ s, PlannedProcess.ofNode w node = .ok s ∧
      PlannedProcess.Starts g dir boundary node s := by
    intro node hm
    obtain ⟨groups, hgroups, hfree⟩ := freeArguments_ofGraph hn hm
    have hpipes := Wiring.process?_ofGraph hn hw (mem_values_ofGraph hn hm)
    refine ⟨_, bind_eq_ok_iff.2 ⟨_, hfree, rfl⟩, rfl, rfl, ?_, groups, hgroups, rfl⟩
    simp [hpipes]
  obtain ⟨specs, hspecs, hstarts⟩ := exists_mapM_eq_ok hnode
  exact ⟨specs, bind_eq_ok_iff.2 ⟨w, hw, hspecs⟩, hstarts⟩

theorem starts_of_planRun (hn : Network.ofGraph g = .ok n) {specs : List PlannedProcess}
    (hp : planRun n dir boundary = .ok specs) :
    List.Forall₂ (PlannedProcess.Starts g dir boundary) n.processes.values specs := by
  obtain ⟨w, hw, -⟩ := bind_eq_ok_iff.1 hp
  obtain ⟨specs', hspecs, hstarts⟩ := planRun_of_plan hn hw
  obtain rfl := Except.ok.inj (hspecs.symm.trans hp)
  exact hstarts

theorem names_of_starts (hn : Network.ofGraph g = .ok n) {specs : List PlannedProcess}
    (h : List.Forall₂ (PlannedProcess.Starts g dir boundary) n.processes.values specs) :
    specs.map (·.name) = n.processes.names := by
  have hnames : n.processes.values.map (·.name) = n.processes.names := by
    obtain ⟨-, rfl⟩ := Network.ofGraph_eq_ok_iff.1 hn
    unfold NameMap.values NameMap.names Network.Layout.nodes NameMap.mapValues
    rw [List.map_map, List.map_map, List.map_map]
    rfl
  rw [← hnames, ← List.forall₂_eq_eq_eq, List.forall₂_map_left_iff, List.forall₂_map_right_iff]
  exact h.flip.imp fun _ _ hs => hs.name

/-- Two inports with the same dotted name. -/
example :
    let g := ((((Graph.empty.addProcess "src" "./emit").addProcess "x.y" "./print").addProcess "x"
      "./print").connect ⟨"src", "OUT"⟩ ⟨"x.y", "z"⟩).connect ⟨"src", "ERR"⟩ ⟨"x", "y.z"⟩
    (match Network.ofGraph g >>= fun n => planRun n (toBytes "/dev/shm") {} with
      | .error (.pathCollision path _ _) => path == toBytes "/dev/shm/x.y.z"
      | _ => false) = true := by
  decide +kernel

end Pipework
