import Pipework.Graph.Read
import Pipework.Graph.Write
import Pipework.Proofs.Json.Values

/-! A graph is read back from its document as it was. The members that are written fill in the draft
of a record one by one, and those that are left out have the value which the reader puts in their
place. -/

namespace Pipework

open Json

variable {α σ : Type}

/-- Members that lead from the first draft of a record to one that can be finished make the
record. -/
theorem reads_record {start s : σ} {member : σ → String → Reader σ} {finish : σ → Except Fault α}
    {positional : (cs : List Char) → Except Fault (α × RecordPlace cs)}
    {ms : List (String × String)} {x : α} (h : Fills member start ms s)
    (hfinish : finish s = .ok x) :
    Reads (readRecord start member finish positional) (writeObject ms).toList x := by
  apply reads_object h
  rintro cs rest ⟨h', hmembers⟩
  refine ⟨Nat.lt_succ_of_lt h', ?_⟩
  unfold readRecord
  split
  · rename_i c inner hskip
    rw [skipBlanks_cons rfl] at hskip
    cases hskip
    rw [if_pos rfl, hmembers, ok_bind]
    simp only [hfinish]
    rfl
  · rename_i hskip
    cases hskip

namespace Endpoint

theorem reads (p : Endpoint) : Reads Endpoint.read p.write.toList p := by
  have hprocess : Reads (Draft.member {} "process") (':' :: (writeString p.process).toList)
      { process := some p.process } :=
    (reads_string p.process).member.map fun x => ({ process := some x } : Draft)
  have hport : Reads (Draft.member { process := some p.process } "port")
      (':' :: (writeString p.port).toList) { process := some p.process, port := some p.port } :=
    (reads_string p.port).member.map fun x =>
      ({ process := some p.process, port := some x } : Draft)
  exact reads_record (.cons hprocess (.cons hport (.nil _))) rfl

end Endpoint

namespace ProcessDeclaration

theorem reads {p : ProcessDeclaration}
    (h : ∀ m ∈ p.metadata.entries, Reads (readValue metadataLevels) m.2.write.toList m.2) :
    Reads ProcessDeclaration.read p.write.toList p := by
  have hcomponent : Reads (Draft.member {} "component") (':' :: (writeString p.component).toList)
      { component := some p.component } :=
    (reads_string p.component).member.map fun x => ({ component := some x } : Draft)
  unfold ProcessDeclaration.write
  by_cases hempty : p.metadata.isEmpty
  · -- a table that is left out is read as an empty one
    have hmetadata : (∅ : NameMap Json) = p.metadata :=
      NameMap.eq_of_entries (List.isEmpty_iff.1 hempty).symm
    rw [if_pos hempty]
    refine reads_record (.cons hcomponent (.nil _)) ?_
    change Except.ok (⟨p.component, ∅⟩ : ProcessDeclaration) = _
    rw [hmetadata]
  · have htable : Reads (Draft.member { component := some p.component } "metadata")
        (':' :: (writeObject (p.metadata.entries.map fun e => (e.1, e.2.write))).toList)
        { component := some p.component, metadata := some p.metadata } :=
      (reads_table h).member.map fun x =>
        ({ component := some p.component, metadata := some x } : Draft)
    rw [if_neg hempty]
    exact reads_record (.cons hcomponent (.cons htable (.nil _))) rfl

end ProcessDeclaration

namespace Connection

theorem fills_source (source : Option Endpoint) :
    Fills Draft.member {} (source.map fun p => ("src", p.write)).toList
      { source := source.map some } := by
  cases source with
  | none => exact .nil _
  | some p =>
    have hobject : p.write.toList.head? ≠ some 'n' := by
      simp [Endpoint.write, toList_writeObject]
    have hsource : Reads (Draft.member {} "src") (':' :: p.write.toList)
        { source := some (some p) } :=
      (p.reads.optional hobject).member.map fun x => ({ source := some x } : Draft)
    exact .cons hsource (.nil _)

theorem fills_data {data : Option Json}
    (h : ∀ x ∈ data, Reads (readValue dataLevels) x.write.toList x ∧ x ≠ .null)
    (source : Option (Option Endpoint)) :
    Fills Draft.member { source := source } (data.map fun x => ("data", x.write)).toList
      { source := source, data := data.map some } := by
  cases data with
  | none => exact .nil _
  | some x =>
    obtain ⟨hx, hne⟩ := h x rfl
    -- a text that starts like a null would be read as one
    have hnull : x.write.toList.head? ≠ some 'n' := by
      intro hn
      obtain ⟨cs, hcs⟩ := List.head?_eq_some_iff.1 hn
      rw [hcs] at hx
      exact hne hx.value_eq_null
    have hdata : Reads (Draft.member { source := source } "data") (':' :: x.write.toList)
        { source := source, data := some (some x) } :=
      (hx.optional hnull).member.map fun x => ({ source := source, data := some x } : Draft)
    exact .cons hdata (.nil _)

theorem reads {c : Connection}
    (h : ∀ x ∈ c.data, Reads (readValue dataLevels) x.write.toList x ∧ x ≠ .null) :
    Reads Connection.read c.write.toList c := by
  have htarget : Reads (Draft.member { source := c.source.map some, data := c.data.map some } "tgt")
      (':' :: c.target.write.toList)
      { source := c.source.map some, data := c.data.map some, target := some c.target } :=
    c.target.reads.member.map fun x =>
      ({ source := c.source.map some, data := c.data.map some, target := some x } : Draft)
  have hjoin {β : Type} (o : Option β) : (o.map some).join = o := by cases o <;> rfl
  refine reads_record (((fills_source c.source).append (fills_data h _)).append
    (.cons htarget (.nil _))) ?_
  change Except.ok (⟨(c.source.map some).join, (c.data.map some).join, c.target⟩ : Connection) = _
  rw [hjoin, hjoin]

end Connection

/-! ### Documents as values -/

/-- A port of a process as a value. -/
def Endpoint.document (p : Endpoint) : Json :=
  .object [("process", .string p.process), ("port", .string p.port)]

/-- A table of ports as a value. -/
def Endpoint.tableDocument (ports : NameMap Endpoint) : Json :=
  .object (ports.entries.map fun e => (e.1, e.2.document))

/-- A process as a value. -/
def ProcessDeclaration.document (p : ProcessDeclaration) : Json :=
  .object ([("component", .string p.component)] ++
    if p.metadata.isEmpty then [] else [("metadata", .object p.metadata.entries)])

/-- An edge or an initial packet as a value. -/
def Connection.document (c : Connection) : Json :=
  .object ((c.source.map fun p => ("src", p.document)).toList ++
    (c.data.map fun x => ("data", x)).toList ++ [("tgt", c.target.document)])

/-- The document of a graph as a value. Its members stand in the order in which they are written. -/
def Graph.document (g : Graph) : Json :=
  .object [
    ("processes", .object (g.processes.entries.map fun e => (e.1, e.2.document))),
    ("connections", .array (g.connections.map Connection.document)),
    ("inports", Endpoint.tableDocument g.inports),
    ("outports", Endpoint.tableDocument g.outports)]

theorem Endpoint.write_document (p : Endpoint) : p.document.write = p.write := rfl

theorem Endpoint.write_tableDocument (ports : NameMap Endpoint) :
    (Endpoint.tableDocument ports).write = Endpoint.writeTable ports := by
  rw [tableDocument, Json.write, writeMembers_eq_map, List.map_map]
  rfl

theorem ProcessDeclaration.write_document (p : ProcessDeclaration) :
    p.document.write = p.write := by
  unfold ProcessDeclaration.document ProcessDeclaration.write
  rw [Json.write, writeMembers_eq_map]
  split
  · rfl
  · rw [List.map_append]
    simp [Json.write, writeMembers_eq_map]

theorem Connection.write_document (c : Connection) : c.document.write = c.write := by
  obtain ⟨source, data, target⟩ := c
  cases source <;> cases data <;> rfl

/-- What is written for a graph is the text of its document. -/
theorem Graph.write_document (g : Graph) : g.document.write = g.write := by
  have hprocesses : (Json.object (g.processes.entries.map fun e => (e.1, e.2.document))).write =
      writeObject (g.processes.entries.map fun e => (e.1, e.2.write)) := by
    rw [Json.write, writeMembers_eq_map, List.map_map]
    simp only [Function.comp_def, ProcessDeclaration.write_document]
  have hconnections : (Json.array (g.connections.map Connection.document)).write =
      writeArray (g.connections.map Connection.write) := by
    rw [Json.write, writeItems_eq_map, List.map_map]
    simp only [Function.comp_def, Connection.write_document]
  rw [document, Json.write, writeMembers_eq_map]
  simp only [List.map_cons, List.map_nil, hprocesses, hconnections, Endpoint.write_tableDocument]
  rfl

theorem Endpoint.depth_document_le (p : Endpoint) (n : ℕ) : p.document.depth ≤ n + 1 := by
  rw [document, depth_object_le_iff]
  simp [depth]

theorem ProcessDeclaration.depth_document_le_iff {p : ProcessDeclaration} {n : ℕ} :
    p.document.depth ≤ n + 2 ↔ ∀ m ∈ p.metadata.entries, m.2.depth ≤ n := by
  have hcomponent : (Json.string p.component).depth ≤ n + 1 := Nat.zero_le _
  rw [document, depth_object_le_iff, List.forall_mem_append, List.forall_mem_singleton]
  split
  · rename_i hempty
    rw [List.isEmpty_iff.1 hempty]
    simp [hcomponent]
  · rw [List.forall_mem_singleton, depth_object_le_iff]
    exact and_iff_right hcomponent

theorem Connection.depth_document_le_iff {c : Connection} {n : ℕ} :
    c.document.depth ≤ n + 2 ↔ ∀ x ∈ c.data, x.depth ≤ n + 1 := by
  obtain ⟨source, data, target⟩ := c
  rw [document, depth_object_le_iff]
  cases source <;> cases data <;> simp [Endpoint.depth_document_le]

namespace Graph

/-- What is known of every value in the metadata of a process and in a packet. -/
structure EveryValue (P Q : Json → Prop) (g : Graph) : Prop where
  metadata : ∀ e ∈ g.processes.entries, ∀ m ∈ e.2.metadata.entries, P m.2
  data : ∀ c ∈ g.connections, ∀ x ∈ c.data, Q x

variable {P Q : Json → Prop} {g : Graph}

/-- The values in a graph are nested less deep than its document, by what stands around them. -/
theorem depth_document_le_iff {n : ℕ} :
    g.document.depth ≤ n + 4 ↔ g.EveryValue (·.depth ≤ n) (·.depth ≤ n + 1) := by
  have hprocesses : (Json.object (g.processes.entries.map fun e => (e.1, e.2.document))).depth ≤
      n + 3 ↔ ∀ e ∈ g.processes.entries, ∀ m ∈ e.2.metadata.entries, m.2.depth ≤ n := by
    rw [depth_object_le_iff, List.forall_mem_map]
    simp only [ProcessDeclaration.depth_document_le_iff]
  have hconnections : (Json.array (g.connections.map Connection.document)).depth ≤ n + 3 ↔
      ∀ c ∈ g.connections, ∀ x ∈ c.data, x.depth ≤ n + 1 := by
    rw [depth_array_le_iff, List.forall_mem_map]
    simp only [Connection.depth_document_le_iff]
  have hports (ports : NameMap Endpoint) : (Endpoint.tableDocument ports).depth ≤ n + 3 := by
    rw [Endpoint.tableDocument, depth_object_le_iff, List.forall_mem_map]
    exact fun e _ => e.2.depth_document_le (n + 1)
  rw [document, depth_object_le_iff]
  simp only [List.forall_mem_cons, hprocesses, hconnections, hports, List.not_mem_nil,
    IsEmpty.forall_iff, implies_true, and_true]
  exact ⟨fun h => ⟨h.1, h.2⟩, fun h => ⟨h.metadata, h.data⟩⟩

/-- A graph is read back if each value in it is. -/
theorem reads (h : g.EveryValue
    (fun x => Reads (readValue ProcessDeclaration.metadataLevels) x.write.toList x)
    (fun x => Reads (readValue Connection.dataLevels) x.write.toList x ∧ x ≠ .null)) :
    Reads Graph.read g.write.toList g := by
  have hprocesses : Reads (Draft.member {} "processes")
      (':' :: (writeObject (g.processes.entries.map fun e => (e.1, e.2.write))).toList)
      { processes := some g.processes } :=
    (reads_table fun e he => ProcessDeclaration.reads (h.metadata e he)).member.map fun x =>
      ({ processes := some x } : Draft)
  have hconnections : Reads (Draft.member { processes := some g.processes } "connections")
      (':' :: (writeArray (g.connections.map Connection.write)).toList)
      { processes := some g.processes, connections := some g.connections } :=
    (reads_array fun c hc => Connection.reads (h.data c hc)).member.map fun x =>
      ({ processes := some g.processes, connections := some x } : Draft)
  have hports (ports : NameMap Endpoint) :
      Reads (readTable Endpoint.read) (Endpoint.writeTable ports).toList ports :=
    reads_table fun e _ => e.2.reads
  have hinports : Reads (Draft.member
      { processes := some g.processes, connections := some g.connections } "inports")
      (':' :: (Endpoint.writeTable g.inports).toList)
      { processes := some g.processes, connections := some g.connections,
        inports := some g.inports } :=
    (hports g.inports).member.map fun x =>
      ({ processes := some g.processes, connections := some g.connections,
         inports := some x } : Draft)
  have houtports : Reads (Draft.member
      { processes := some g.processes, connections := some g.connections,
        inports := some g.inports } "outports")
      (':' :: (Endpoint.writeTable g.outports).toList)
      { processes := some g.processes, connections := some g.connections,
        inports := some g.inports, outports := some g.outports } :=
    (hports g.outports).member.map fun x =>
      ({ processes := some g.processes, connections := some g.connections,
         inports := some g.inports, outports := some x } : Draft)
  exact reads_record (.cons hprocesses (.cons hconnections
    (.cons hinports (.cons houtports (.nil _))))) rfl

/-- Graphs with plain values in them, and no packet of a null. -/
def Plain (g : Graph) : Prop := g.EveryValue Json.Plain fun x => x.Plain ∧ x ≠ .null

theorem Plain.ofText_write (h : g.Plain) (hdepth : g.document.depth ≤ maxLevels) :
    ofText g.write = .ok g := by
  -- four brackets stand around a value of metadata, and three around the data of a packet
  have hlevels : g.EveryValue (·.depth ≤ ProcessDeclaration.metadataLevels)
      (·.depth ≤ Connection.dataLevels) := depth_document_le_iff.1 hdepth
  apply readDocument_eq_ok
  apply reads
  constructor
  · intro e he m hm
    exact (h.metadata e he m hm).reads (hlevels.metadata e he m hm)
  · intro c hc x hx
    obtain ⟨hplain, hnull⟩ := h.data c hc x hx
    exact ⟨hplain.reads (hlevels.data c hc x hx), hnull⟩

/-! ### Graphs that are built step by step -/

/-- Graphs made from the empty one by the steps for building one, in any order. -/
inductive Built : Graph → Prop
  | empty : Built Graph.empty
  | addProcess {g : Graph} (name component : String) : Built g → Built (g.addProcess name component)
  | addMetadata {g : Graph} (process key value : String) :
      Built g → Built (g.addMetadata process key value)
  | connect {g : Graph} (source target : Endpoint) : Built g → Built (g.connect source target)
  | addPacket {g : Graph} (data : String) (target : Endpoint) :
      Built g → Built (g.addPacket data target)
  | addInport {g : Graph} (name : String) (port : Endpoint) :
      Built g → Built (g.addInport name port)
  | addOutport {g : Graph} (name : String) (port : Endpoint) :
      Built g → Built (g.addOutport name port)

theorem EveryValue.addProcess (h : g.EveryValue P Q) (name component : String) :
    (g.addProcess name component).EveryValue P Q := by
  refine ⟨fun e he => ?_, h.data⟩
  rcases NameMap.fst_mem_insertEntry he with rfl | he
  · exact nofun
  · exact h.metadata e he

theorem EveryValue.addMetadata (h : g.EveryValue P Q) (process key : String) {value : String}
    (hvalue : P (.string value)) : (g.addMetadata process key value).EveryValue P Q := by
  unfold Graph.addMetadata
  split
  · exact h
  · rename_i p hp
    refine ⟨fun e he m hm => ?_, h.data⟩
    rcases NameMap.fst_mem_insertEntry he with rfl | he
    · rcases NameMap.fst_mem_insertEntry hm with rfl | hm
      · exact hvalue
      · exact h.metadata (process, p) (NameMap.mem_entries_iff.2 hp) m hm
    · exact h.metadata e he m hm

theorem EveryValue.addConnection (h : g.EveryValue P Q) {c : Connection} (hc : ∀ x ∈ c.data, Q x) :
    EveryValue P Q { g with connections := g.connections ++ [c] } := by
  refine ⟨h.metadata, fun d hd => ?_⟩
  rcases List.mem_append.1 hd with hd | hd
  · exact h.data d hd
  · rw [List.mem_singleton.1 hd]
    exact hc

/-- The steps for building a graph put no values into it but strings. -/
theorem Built.everyValue (h : g.Built) (hP : ∀ s, P (.string s)) (hQ : ∀ s, Q (.string s)) :
    g.EveryValue P Q := by
  induction h with
  | empty => exact ⟨nofun, nofun⟩
  | addProcess name component _ ih => exact ih.addProcess name component
  | addMetadata process key value _ ih => exact ih.addMetadata process key (hP value)
  | connect source target _ ih => exact ih.addConnection nofun
  | addPacket data target _ ih =>
    apply ih.addConnection
    intro x hx
    obtain rfl := Option.some.inj hx
    exact hQ data
  | addInport name port _ ih => exact ⟨ih.metadata, ih.data⟩
  | addOutport name port _ ih => exact ⟨ih.metadata, ih.data⟩

theorem Built.plain (h : g.Built) : g.Plain := by
  apply h.everyValue .string
  intro s
  have hne : Json.string s ≠ .null := by simp
  exact ⟨.string s, hne⟩

theorem Built.depth_document_le (h : g.Built) : g.document.depth ≤ maxLevels := by
  have hflat : g.EveryValue (·.depth ≤ 0) (·.depth ≤ 1) :=
    h.everyValue (fun _ => Nat.le_refl 0) fun _ => Nat.zero_le 1
  exact Nat.le_trans (depth_document_le_iff.2 hflat) (by decide)

/-- A graph of plain values that is nested no deeper than a reader allows is read back from its text
as it was. So is every graph that is built step by step. -/
theorem text_round_trip :
    (∀ g : Graph, g.Plain → g.document.depth ≤ maxLevels → ofText g.write = .ok g) ∧
      ∀ g : Graph, g.Built → ofText g.write = .ok g :=
  ⟨fun _ hplain hdepth => hplain.ofText_write hdepth,
    fun _ hbuilt => hbuilt.plain.ofText_write hbuilt.depth_document_le⟩

/-- Numbers at both ends of their range, nested values, and names that have to be escaped. -/
theorem text_round_trip_of_limits :
    let ends : Json := .array [.number (.whole (-9223372036854775808)), .null,
      .number (.whole 18446744073709551615)]
    let nested : Json := .object [("", .array []), ("\\\"\x00", ends), ("😀", .bool true)]
    let g : Graph := {
      processes := NameMap.empty.insert "Größe\n" ⟨"bin/a", NameMap.empty.insert "\x1f" nested⟩
      connections := [⟨some ⟨"Größe\n", "\x7f"⟩, some nested, ⟨"", "IN"⟩⟩, ⟨none, none, ⟨"", ""⟩⟩]
      outports := NameMap.empty.insert "\t" ⟨"\"", "OUT"⟩ }
    let built := ((((Graph.empty.addProcess "A" "bin/a").addMetadata "A" "k" "\r\n").connect
      ⟨"A", "OUT"⟩ ⟨"A", "IN"⟩).addPacket "null" ⟨"A", "IN"⟩).addInport "IN" ⟨"A", "IN"⟩
    (g.Plain ∧ g.document.depth ≤ maxLevels ∧ ofText g.write = .ok g) ∧
      built.Built ∧ ofText built.write = .ok built := by
  intro ends nested g built
  have hends : ends.Plain := by
    apply Json.Plain.array
    simp only [List.forall_mem_cons, List.not_mem_nil, IsEmpty.forall_iff, implies_true, and_true]
    exact ⟨.whole (by decide) (by decide), .null, .whole (by decide) (by decide)⟩
  have hnested : nested.Plain := by
    apply Json.Plain.object
    · decide
    · simp only [List.forall_mem_cons, List.not_mem_nil, IsEmpty.forall_iff, implies_true, and_true]
      exact ⟨.array nofun, hends, .bool true⟩
  have hplain : g.Plain := by
    constructor
    · intro e he m hm
      obtain rfl := List.mem_singleton.1 he
      obtain rfl := List.mem_singleton.1 hm
      exact hnested
    · simp only [g, List.forall_mem_cons, List.not_mem_nil, IsEmpty.forall_iff, implies_true,
        and_true]
      refine ⟨fun x hx => ?_, nofun⟩
      obtain rfl := Option.some.inj hx
      exact ⟨hnested, nofun⟩
  have hdepth : g.document.depth ≤ maxLevels := by decide
  have hbuilt : built.Built :=
    ((((Built.empty.addProcess "A" "bin/a").addMetadata "A" "k" "\r\n").connect _ _).addPacket
      _ _).addInport _ _
  exact ⟨⟨hplain, hdepth, text_round_trip.1 g hplain hdepth⟩, hbuilt,
    text_round_trip.2 built hbuilt⟩

end Graph

end Pipework
