import Pipework.Proofs.Arguments.Pairing

/-! Taking port flags out of a list of arguments, against a reading of the list: parts, which are
flags with their values or arguments of the component's own, and an end, behind which no flag is
looked for. -/

namespace Pipework

open Text

/-- A part of a list of arguments. -/
inductive ArgumentPart where
  /-- A flag with its value behind an equals sign. -/
  | inline (dashes : String) (flag : PortFlag) (value : String)
  /-- A flag with the next argument as its value. -/
  | separate (dashes : String) (flag : PortFlag) (value : Bytes)
  /-- An argument that belongs to the component. -/
  | own (arg : Bytes)

namespace ArgumentPart

/-- The arguments that the part consists of. -/
def written : ArgumentPart → List Bytes
  | inline dashes flag value => [toBytes (dashes ++ flag.word ++ "=" ++ value)]
  | separate dashes flag value => [toBytes (dashes ++ flag.word), value]
  | own arg => [arg]

/-- The flag of the part, with its value. -/
def flag? : ArgumentPart → Option (PortFlag × Bytes)
  | inline _ flag value => some (flag, toBytes value)
  | separate _ flag value => some (flag, value)
  | own _ => none

/-- The argument of the component. -/
def own? : ArgumentPart → Option Bytes
  | own arg => some arg
  | _ => none

/-- A flag has one or two dashes. An argument of the component neither spells a flag nor ends the
flags. -/
def Valid : ArgumentPart → Prop
  | inline dashes _ _ | separate dashes _ _ => dashes ∈ ["-", "--"]
  | own arg => arg ≠ terminator ∧ ¬∃ text, arg = toBytes text ∧ PortFlag.Spells text

end ArgumentPart

/-- What stands behind the parts of a list of arguments. -/
inductive ArgumentsEnd where
  | nothing
  /-- The terminator and any arguments. -/
  | terminated (behind : List Bytes)
  /-- A flag whose value is missing. -/
  | cut (dashes : String) (flag : PortFlag)

namespace ArgumentsEnd

/-- The arguments at the end. -/
def written : ArgumentsEnd → List Bytes
  | nothing => []
  | terminated behind => terminator :: behind
  | cut dashes flag => [toBytes (dashes ++ flag.word)]

/-- The arguments at the end that belong to the component. -/
def rest : ArgumentsEnd → List Bytes
  | terminated behind => terminator :: behind
  | _ => []

/-- The flag whose value is missing. -/
def missing? : ArgumentsEnd → Option PortFlag
  | cut _ flag => some flag
  | _ => none

/-- A flag has one or two dashes. -/
def Valid : ArgumentsEnd → Prop
  | cut dashes _ => dashes ∈ ["-", "--"]
  | _ => True

end ArgumentsEnd

/-- A list of arguments, read from left to right. -/
structure ArgumentsReading where
  parts : List ArgumentPart
  last : ArgumentsEnd

namespace ArgumentsReading

/-- The arguments that are read. -/
def written (r : ArgumentsReading) : List Bytes :=
  r.parts.flatMap ArgumentPart.written ++ r.last.written

/-- The flags with their values, in order. -/
def flags (r : ArgumentsReading) : List (PortFlag × Bytes) := r.parts.filterMap ArgumentPart.flag?

/-- The arguments of the component in order, and all from the terminator on. -/
def rest (r : ArgumentsReading) : List Bytes :=
  r.parts.filterMap ArgumentPart.own? ++ r.last.rest

/-- All parts and the end are what they are read as. -/
structure Valid (r : ArgumentsReading) : Prop where
  part : ∀ p ∈ r.parts, p.Valid
  last : r.last.Valid

end ArgumentsReading

namespace PortFlag

theorem Spells.ne_terminator {text : String} (h : Spells text) : toBytes text ≠ terminator := by
  rw [ne_eq, ComponentArgs.toBytes_eq_terminator_iff]
  rintro rfl
  exact ofText?_eq_none_iff.1 (by decide) h

theorem spells_word {dashes : String} (hd : dashes ∈ ["-", "--"]) (flag : PortFlag) :
    Spells (dashes ++ flag.word) :=
  ⟨dashes, hd, flag, Or.inl rfl⟩

theorem spells_word_value {dashes : String} (hd : dashes ∈ ["-", "--"]) (flag : PortFlag)
    (value : String) : Spells (dashes ++ flag.word ++ "=" ++ value) :=
  ⟨dashes, hd, flag, Or.inr ⟨value, rfl⟩⟩

theorem ofArgument?_eq_none_iff {arg : Bytes} :
    ofArgument? arg = none ↔ ¬∃ text, arg = toBytes text ∧ Spells text := by
  constructor
  · rintro h ⟨text, rfl, hs⟩
    exact ofArgument?_toBytes_eq_none_iff.1 h hs
  · intro h
    cases htext : ofBytes? arg with
    | none => simp [ofArgument?, htext]
    | some text =>
      obtain rfl := eq_toBytes_of_ofBytes? htext
      exact ofArgument?_toBytes_eq_none_iff.2 fun hs => h ⟨text, rfl, hs⟩

theorem ofArgument?_word {dashes : String} (hd : dashes ∈ ["-", "--"]) (flag : PortFlag) :
    ofArgument? (toBytes (dashes ++ flag.word)) = some (flag, none) := by
  simp [ofArgument?, ofText?_word hd]

theorem ofArgument?_word_value {dashes : String} (hd : dashes ∈ ["-", "--"]) (flag : PortFlag)
    (value : String) : ofArgument? (toBytes (dashes ++ flag.word ++ "=" ++ value)) =
      some (flag, some (toBytes value)) := by
  simp [ofArgument?, ofText?_word_value hd]

theorem spelling_of_ofArgument? {arg : Bytes} {flag : PortFlag} {value : Option Bytes}
    (h : ofArgument? arg = some (flag, value)) : ∃ dashes ∈ ["-", "--"],
      (value = none ∧ arg = toBytes (dashes ++ flag.word)) ∨
        ∃ v, value = some (toBytes v) ∧ arg = toBytes (dashes ++ flag.word ++ "=" ++ v) := by
  unfold ofArgument? at h
  obtain ⟨text, htext, hread⟩ := Option.bind_eq_some_iff.1 h
  have harg := eq_toBytes_of_ofBytes? htext
  obtain ⟨⟨flag', value'⟩, hflag, heq⟩ := Option.bind_eq_some_iff.1 hread
  obtain ⟨rfl, rfl⟩ := Prod.mk.inj (Option.some.inj heq)
  obtain ⟨dashes, hd, ⟨rfl, rfl⟩ | ⟨v, rfl, rfl⟩⟩ := spelling_of_ofText? hflag
  · exact ⟨dashes, hd, Or.inl ⟨rfl, harg⟩⟩
  · exact ⟨dashes, hd, Or.inr ⟨v, rfl, harg⟩⟩

end PortFlag

namespace ArgumentsReading

open SortedArguments

theorem ofArguments_terminator (args : List Bytes) :
    ofArguments (terminator :: args) = { rest := terminator :: args } := by
  rw [ofArguments.eq_def]
  exact if_pos rfl

/-- Every list of arguments can be read. -/
theorem exists_reading (args : List Bytes) :
    ∃ r : ArgumentsReading, r.Valid ∧ r.written = args := by
  -- one case for each way in which the sorting goes on or ends
  fun_induction ofArguments args with
  | case1 => exact ⟨⟨[], .nothing⟩, ⟨List.forall_mem_nil _, trivial⟩, rfl⟩
  | case2 args => exact ⟨⟨[], .terminated args⟩, ⟨List.forall_mem_nil _, trivial⟩, rfl⟩
  | case3 arg hne args hflag _ ih =>
    obtain ⟨r, hr, rfl⟩ := ih
    have hown : (ArgumentPart.own arg).Valid := ⟨hne, PortFlag.ofArgument?_eq_none_iff.1 hflag⟩
    exact ⟨⟨.own arg :: r.parts, r.last⟩, ⟨List.forall_mem_cons.2 ⟨hown, hr.part⟩, hr.last⟩, rfl⟩
  | case4 arg hne flag value args hflag _ ih =>
    obtain ⟨r, hr, rfl⟩ := ih
    obtain ⟨dashes, hd, ⟨hv, -⟩ | ⟨v, hv, rfl⟩⟩ := PortFlag.spelling_of_ofArgument? hflag
    · cases hv
    · obtain rfl := Option.some.inj hv
      exact ⟨⟨.inline dashes flag v :: r.parts, r.last⟩,
        ⟨List.forall_mem_cons.2 ⟨hd, hr.part⟩, hr.last⟩, rfl⟩
  | case5 arg hne flag value args hflag _ ih =>
    obtain ⟨r, hr, rfl⟩ := ih
    obtain ⟨dashes, hd, ⟨-, rfl⟩ | ⟨v, hv, -⟩⟩ := PortFlag.spelling_of_ofArgument? hflag
    · exact ⟨⟨.separate dashes flag value :: r.parts, r.last⟩,
        ⟨List.forall_mem_cons.2 ⟨hd, hr.part⟩, hr.last⟩, rfl⟩
    · cases hv
  | case6 arg hne flag hflag =>
    obtain ⟨dashes, hd, ⟨-, rfl⟩ | ⟨v, hv, -⟩⟩ := PortFlag.spelling_of_ofArgument? hflag
    · exact ⟨⟨[], .cut dashes flag⟩, ⟨List.forall_mem_nil _, hd⟩, rfl⟩
    · cases hv

variable {r : ArgumentsReading}

/-- Arguments are sorted as they are read. -/
theorem ofArguments_written (h : r.Valid) :
    ofArguments r.written = ⟨r.flags, r.rest, r.last.missing?⟩ := by
  obtain ⟨parts, last⟩ := r
  have hparts : ∀ p ∈ parts, p.Valid := h.part
  have hlast : last.Valid := h.last
  clear h
  -- no flag looks like the terminator, so the sorting does not stop before the end
  induction parts with
  | nil =>
    cases last with
    | nothing => rfl
    | terminated behind => exact ofArguments_terminator behind
    | cut dashes flag =>
      have hne := (PortFlag.spells_word hlast flag).ne_terminator
      change ofArguments [toBytes (dashes ++ flag.word)] = _
      rw [ofArguments_cons hne, PortFlag.ofArgument?_word hlast]
      rfl
  | cons part parts ih =>
    obtain ⟨hpart, hparts⟩ := List.forall_mem_cons.1 hparts
    have ih : ofArguments (written ⟨parts, last⟩) = _ := ih hparts
    cases part with
    | inline dashes flag value =>
      have hne := (PortFlag.spells_word_value hpart flag value).ne_terminator
      change ofArguments (toBytes (dashes ++ flag.word ++ "=" ++ value) ::
        written ⟨parts, last⟩) = _
      rw [ofArguments_inline hne (PortFlag.ofArgument?_word_value hpart flag value), ih]
      rfl
    | separate dashes flag value =>
      have hne := (PortFlag.spells_word hpart flag).ne_terminator
      change ofArguments (toBytes (dashes ++ flag.word) :: value :: written ⟨parts, last⟩) = _
      rw [ofArguments_value hne (PortFlag.ofArgument?_word hpart flag), ih]
      rfl
    | own arg =>
      change ofArguments (arg :: written ⟨parts, last⟩) = _
      rw [ofArguments_cons hpart.1, PortFlag.ofArgument?_eq_none_iff.2 hpart.2]
      simp only [ih]
      rfl

/-- A reading of what is left of the arguments. -/
def remaining (r : ArgumentsReading) : ArgumentsReading where
  parts := (r.parts.filterMap ArgumentPart.own?).map .own
  last := match r.last with
    | .terminated behind => .terminated behind
    | _ => .nothing

theorem written_remaining (r : ArgumentsReading) : r.remaining.written = r.rest := by
  have hparts : r.remaining.parts.flatMap ArgumentPart.written =
      r.parts.filterMap ArgumentPart.own? := by
    rw [remaining, List.flatMap_map]
    exact List.flatMap_singleton' _
  have hlast : r.remaining.last.written = r.last.rest := by
    rw [remaining]
    cases r.last <;> rfl
  rw [written, hparts, hlast, rest]

theorem rest_remaining (r : ArgumentsReading) : r.remaining.rest = r.rest := by
  have hparts : r.remaining.parts.filterMap ArgumentPart.own? =
      r.parts.filterMap ArgumentPart.own? := by
    rw [remaining, List.filterMap_map]
    exact List.filterMap_some
  have hlast : r.remaining.last.rest = r.last.rest := by
    rw [remaining]
    cases r.last <;> rfl
  rw [rest, hparts, hlast, rest]

theorem flags_remaining (r : ArgumentsReading) : r.remaining.flags = [] := by
  rw [flags, remaining, List.filterMap_map, List.filterMap_eq_nil_iff]
  exact fun _ _ => rfl

theorem missing?_remaining (r : ArgumentsReading) : r.remaining.last.missing? = none := by
  rw [remaining]
  cases r.last <;> rfl

theorem Valid.remaining (h : r.Valid) : r.remaining.Valid := by
  constructor
  · intro p hp
    obtain ⟨arg, harg, rfl⟩ := List.mem_map.1 hp
    obtain ⟨part, hpart, hown⟩ := List.mem_filterMap.1 harg
    have hvalid := h.part part hpart
    cases part with
    | own arg' =>
      obtain rfl := Option.some.inj hown
      exact hvalid
    | inline | separate => cases hown
  · rw [ArgumentsReading.remaining]
    cases r.last <;> exact trivial

end ArgumentsReading

namespace ComponentArgs

open PortFlag

theorem extract_eq_ok_iff {args : List Bytes} {ports : ComponentArgs} {rest : List Bytes} :
    extract args = .ok (ports, rest) ↔ (SortedArguments.ofArguments args).incomplete = none ∧
      (∃ ins outs, Binds .inport none (SortedArguments.ofArguments args).flags ins ∧
        Binds .outport none (SortedArguments.ofArguments args).flags outs ∧
        ports = { inports := ins, outports := outs }) ∧
      rest = (SortedArguments.ofArguments args).rest := by
  have hpair := PortPairing.foldlM_add_close_eq_ok_iff {}
    (SortedArguments.ofArguments args).flags ports
  simp only [List.nil_append] at hpair
  rw [← hpair, extract]
  cases (SortedArguments.ofArguments args).incomplete with
  | some flag =>
    simp only [reduceCtorEq, false_and, iff_false]
    intro h
    obtain ⟨q, -, h⟩ := bind_eq_ok_iff.1 h
    cases h
  | none =>
    simp only [bind_eq_ok_iff, true_and]
    constructor
    · rintro ⟨q, hq, ports', hports, h⟩
      obtain ⟨rfl, rfl⟩ := Prod.mk.inj (Except.ok.inj h)
      exact ⟨⟨q, hq, hports⟩, rfl⟩
    · rintro ⟨⟨q, hq, hports⟩, rfl⟩
      exact ⟨q, hq, ports, hports, rfl⟩

variable {r : ArgumentsReading}

/-- The flags that were read decide about the result, each side by itself. -/
theorem extract_written_eq_ok_iff (h : r.Valid) (ports : ComponentArgs) (rest : List Bytes) :
    extract r.written = .ok (ports, rest) ↔ r.last.missing? = none ∧
      (∃ ps, side .inport r.flags = pairs .inport ps ∧ ports.inports = bindings ps) ∧
      (∃ ps, side .outport r.flags = pairs .outport ps ∧ ports.outports = bindings ps) ∧
      ports.free = [] ∧ rest = r.rest := by
  simp only [extract_eq_ok_iff, ArgumentsReading.ofArguments_written h, binds_iff]
  refine and_congr_right fun _ => ?_
  constructor
  · rintro ⟨⟨_, _, ⟨ins, hins, rfl⟩, ⟨outs, houts, rfl⟩, rfl⟩, rfl⟩
    exact ⟨⟨ins, hins, rfl⟩, ⟨outs, houts, rfl⟩, rfl, rfl⟩
  · rintro ⟨⟨ins, hins, hi⟩, ⟨outs, houts, ho⟩, hf, rfl⟩
    refine ⟨⟨_, _, ⟨ins, hins, rfl⟩, ⟨outs, houts, rfl⟩, ?_⟩, rfl⟩
    obtain ⟨inports, outports, free⟩ := ports
    simp only at hi ho hf
    rw [hi, ho, hf]

/-- What is left has no port flags any more. -/
theorem extract_rest (h : r.Valid) : extract r.rest = .ok ({}, r.rest) := by
  have hleft := (extract_written_eq_ok_iff h.remaining {} r.rest).2
  rw [r.written_remaining, r.flags_remaining, r.rest_remaining] at hleft
  exact hleft ⟨r.missing?_remaining, ⟨[], rfl, rfl⟩, ⟨[], rfl, rfl⟩, rfl, rfl⟩

/-- Any list of arguments has a reading. Port flags can be taken out of it exactly if no flag is
left without its value and ports and paths take turns on either side, from a port to a path; the
bindings are then the pairs of each side, and all other arguments stay as they are. So only what is
on each side counts, and taking flags out of what is left changes nothing. -/
theorem flags_extracted (args : List Bytes) :
    (∃ r : ArgumentsReading, r.Valid ∧ r.written = args) ∧
    (∀ r : ArgumentsReading, r.Valid → r.written = args →
      ((∃ result, extract args = .ok result) ↔ r.last.missing? = none ∧
        (∃ ps, side .inport r.flags = pairs .inport ps) ∧
        ∃ ps, side .outport r.flags = pairs .outport ps) ∧
      (∀ ports rest, extract args = .ok (ports, rest) ↔ r.last.missing? = none ∧
        (∃ ps, side .inport r.flags = pairs .inport ps ∧ ports.inports = bindings ps) ∧
        (∃ ps, side .outport r.flags = pairs .outport ps ∧ ports.outports = bindings ps) ∧
        ports.free = [] ∧ rest = r.rest) ∧
      ∀ r' : ArgumentsReading, r'.Valid →
        side .inport r'.flags = side .inport r.flags →
        side .outport r'.flags = side .outport r.flags → r'.rest = r.rest →
        (r'.last.missing? = none ↔ r.last.missing? = none) →
        ∀ result, extract r'.written = .ok result ↔ extract args = .ok result) ∧
    ∀ ports rest, extract args = .ok (ports, rest) → extract rest = .ok ({}, rest) := by
  have hread := ArgumentsReading.exists_reading args
  refine ⟨hread, ?_, ?_⟩
  · rintro r hr rfl
    refine ⟨?_, extract_written_eq_ok_iff hr, ?_⟩
    · constructor
      · rintro ⟨⟨ports, rest⟩, h⟩
        obtain ⟨hmissing, ⟨ins, hins, -⟩, ⟨outs, houts, -⟩, -⟩ :=
          (extract_written_eq_ok_iff hr _ _).1 h
        exact ⟨hmissing, ⟨ins, hins⟩, ⟨outs, houts⟩⟩
      · rintro ⟨hmissing, ⟨ins, hins⟩, ⟨outs, houts⟩⟩
        refine ⟨({ inports := bindings ins, outports := bindings outs }, r.rest), ?_⟩
        exact (extract_written_eq_ok_iff hr _ _).2
          ⟨hmissing, ⟨ins, hins, rfl⟩, ⟨outs, houts, rfl⟩, rfl, rfl⟩
    · rintro r' hr' hins houts hrest hmissing ⟨ports, rest⟩
      rw [extract_written_eq_ok_iff hr', extract_written_eq_ok_iff hr, hins, houts, hrest, hmissing]
  · intro ports rest h
    obtain ⟨r, hr, rfl⟩ := hread
    obtain ⟨-, -, -, -, rfl⟩ := (extract_written_eq_ok_iff hr _ _).1 h
    exact extract_rest hr

/-- Flags that stand across one another, with the terminator once as a value and once as itself. -/
example : extract (["-outport", "--", "net.json", "--inport=IN", "--outpath=", "-v", "-inpath",
      "/a", "--", "-inport"].map toBytes) =
    .ok (⟨[⟨"IN", toBytes "/a"⟩], [⟨"--", []⟩], []⟩,
      ["net.json", "-v", "--", "-inport"].map toBytes) := by
  decide

end ComponentArgs

end Pipework
