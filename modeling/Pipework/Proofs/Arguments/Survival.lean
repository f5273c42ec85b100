import Pipework.Proofs.Arguments.Extraction
import Pipework.Proofs.Path

/-! Which bindings and free arguments come back from a command line. Flags take their values from
text or from the next argument, so an outport never comes back with a path that is no text. -/

namespace Pipework

open Text

/-- The port and the steps of its path, however the path is spelled. -/
def PortPath.steps (b : PortPath) : String × List Path.Component :=
  (b.name, Path.components b.path)

/-- The same bindings and free arguments, up to the spelling of paths. -/
structure ComponentArgs.Same (q p : ComponentArgs) : Prop where
  inports : q.inports.map PortPath.steps = p.inports.map PortPath.steps
  outports : q.outports.map PortPath.steps = p.outports.map PortPath.steps
  free : q.free = p.free

namespace ComponentArgs

open PortFlag SortedArguments

/-- Flags that are found among texts have texts for values. -/
theorem isText_of_mem_flags {args : List Bytes} (h : ∀ a ∈ args, ∃ text, a = toBytes text) :
    ∀ f ∈ (ofArguments args).flags, ∃ text, f.2 = toBytes text := by
  fun_induction ofArguments args with
  | case1 => exact List.forall_mem_nil _
  | case2 args => exact List.forall_mem_nil _
  | case3 arg hne args hflag later ih => exact ih (List.forall_mem_cons.1 h).2
  | case4 arg hne flag value args hflag later ih =>
    obtain ⟨-, -, ⟨hv, -⟩ | ⟨v, hv, -⟩⟩ := spelling_of_ofArgument? hflag
    · cases hv
    · exact List.forall_mem_cons.2
        ⟨⟨v, Option.some.inj hv⟩, ih (List.forall_mem_cons.1 h).2⟩
  | case5 arg hne flag value args hflag later ih =>
    have hrest := List.forall_mem_cons.1 (List.forall_mem_cons.1 h).2
    exact List.forall_mem_cons.2 ⟨hrest.1, ih hrest.2⟩
  | case6 => exact List.forall_mem_nil _

theorem ofArgument?_of_not_text (flag : PortFlag) {value : Bytes}
    (h : ¬∃ text, value = toBytes text) :
    ofArgument? (toBytes ("-" ++ flag.word ++ "=") ++ value) = none := by
  rw [ofArgument?_eq_none_iff]
  rintro ⟨text, htext, -⟩
  have hequals : toBytes "=" = [61] := by decide
  rw [toBytes_append, hequals, List.append_assoc, List.singleton_append] at htext
  -- the equals sign is a character of its own, so the value behind it would be text
  obtain ⟨-, back, -, hback⟩ := exists_split_of_toBytes (by decide) htext.symm
  exact h ⟨back, hback⟩

/-- An outport whose path is no text leaves no flag for it. -/
theorem isText_of_mem_flags_outports (bs : List PortPath) {args : List Bytes}
    (h : ∀ f ∈ (ofArguments args).flags, ∃ text, f.2 = toBytes text) :
    ∀ f ∈ (ofArguments (bs.flatMap outportArguments ++ args)).flags,
      ∃ text, f.2 = toBytes text := by
  induction bs with
  | nil => exact h
  | cons b bs ih =>
    let later := bs.flatMap outportArguments ++ args
    let path := toBytes ("-" ++ PortFlag.outpath.word ++ "=") ++ b.path
    have hstep : (b :: bs).flatMap outportArguments ++ args =
        (toBytes ("-" ++ PortFlag.outport.word ++ "=") ++ toBytes b.name) :: path :: later := rfl
    have hpath : ∀ f ∈ (ofArguments (path :: later)).flags, ∃ text, f.2 = toBytes text := by
      by_cases htext : ∃ text, b.path = toBytes text
      · have hflag : ofArgument? path = some (.outpath, some b.path) := by
          obtain ⟨text, htext⟩ := htext
          have hinline := ofArgument?_outport .outpath text
          rwa [← htext] at hinline
        rw [ofArguments_inline (outportArgument_ne_terminator _ _) hflag]
        exact List.forall_mem_cons.2 ⟨htext, ih⟩
      · have hflag : ofArgument? path = none := ofArgument?_of_not_text .outpath htext
        rw [ofArguments_cons (outportArgument_ne_terminator _ _), hflag]
        exact ih
    rw [hstep, ofArguments_inline (outportArgument_ne_terminator _ _) (ofArgument?_outport _ _)]
    exact List.forall_mem_cons.2 ⟨⟨b.name, rfl⟩, hpath⟩

variable {p q : ComponentArgs}

/-- Whatever comes back, its outports have texts for paths. -/
theorem isText_of_parse (h : parse p.toArguments = .ok q) :
    ∀ b ∈ q.outports, ∃ path, b.path = toBytes path := by
  obtain ⟨⟨ports, rest⟩, hextract, h⟩ := bind_eq_ok_iff.1 h
  obtain rfl := Except.ok.inj h
  obtain ⟨-, ⟨ins, outs, -, houts, rfl⟩, -⟩ := extract_eq_ok_iff.1 hextract
  have hlater : ∀ f ∈ (ofArguments (p.outports.flatMap outportArguments ++
      p.free.map toBytes)).flags, ∃ text, f.2 = toBytes text := by
    apply isText_of_mem_flags_outports
    apply isText_of_mem_flags
    intro a ha
    obtain ⟨text, -, rfl⟩ := List.mem_map.1 ha
    exact ⟨text, rfl⟩
  intro b hb
  have hflag := houts.mem_flags hb
  rw [toArguments, List.append_assoc, ofArguments_inports] at hflag
  -- the flags of inports are no flags of outports, whatever their values are
  rcases List.mem_append.1 hflag with hin | hout
  · obtain ⟨b', -, hin⟩ := List.mem_flatMap.1 hin
    simp [PortFlag.partner] at hin
  · exact hlater _ hout

/-- Something comes back that says the same exactly if the paths of outports are texts and no free
argument is taken for something else. -/
theorem exists_same_iff : (∃ q, parse p.toArguments = .ok q ∧ q.Same p) ↔
    (∀ b ∈ p.outports, ∃ path, b.path = toBytes path) ∧
      ∀ text ∈ p.free, text ≠ "--" ∧ ¬PortFlag.Spells text := by
  constructor
  · rintro ⟨q, h, hsame⟩
    have hu : ∀ b ∈ p.outports, ∃ path, b.path = toBytes path := by
      intro b hb
      have hm := List.mem_map_of_mem (f := PortPath.steps) hb
      rw [← hsame.outports] at hm
      obtain ⟨b', hb', hsteps⟩ := List.mem_map.1 hm
      exact Path.isText_of_components (Prod.mk.inj hsteps).2.symm (isText_of_parse h b' hb')
    exact ⟨hu, free_of_parse hu h (congrArg List.length hsame.free)⟩
  · rintro ⟨hu, hfree⟩
    exact ⟨p, (parse_toArguments_iff hu).2 hfree, rfl, rfl, rfl⟩

theorem parse_toArguments_self_iff : parse p.toArguments = .ok p ↔
    (∀ b ∈ p.outports, ∃ path, b.path = toBytes path) ∧
      ∀ text ∈ p.free, text ≠ "--" ∧ ¬PortFlag.Spells text := by
  constructor
  · intro h
    exact exists_same_iff.1 ⟨p, h, rfl, rfl, rfl⟩
  · rintro ⟨hu, hfree⟩
    exact (parse_toArguments_iff hu).2 hfree

/-- Bindings and free arguments come back as they were exactly if the paths of outports are texts
and no free argument ends the flags or spells one; they do not come back in another spelling of the
paths otherwise. What inports are called and where they are, and what outports are called, makes no
difference. -/
theorem bindings_survive (p : ComponentArgs) :
    (parse p.toArguments = .ok p ↔ (∀ b ∈ p.outports, ∃ path, b.path = toBytes path) ∧
      ∀ text ∈ p.free, text ≠ "--" ∧ ¬PortFlag.Spells text) ∧
    ((∃ q, parse p.toArguments = .ok q ∧ q.Same p) ↔ parse p.toArguments = .ok p) ∧
    ∀ q : ComponentArgs, q.outports.map (·.path) = p.outports.map (·.path) → q.free = p.free →
      (parse q.toArguments = .ok q ↔ parse p.toArguments = .ok p) := by
  refine ⟨parse_toArguments_self_iff, exists_same_iff.trans parse_toArguments_self_iff.symm, ?_⟩
  intro q hpaths hfree
  have htexts (r : ComponentArgs) : (∀ b ∈ r.outports, ∃ path, b.path = toBytes path) ↔
      ∀ x ∈ r.outports.map (·.path), ∃ path, x = toBytes path := by
    rw [List.forall_mem_map]
  rw [parse_toArguments_self_iff, parse_toArguments_self_iff, htexts q, htexts p, hpaths, hfree]

end ComponentArgs

end Pipework
