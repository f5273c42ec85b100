import Pipework.ComponentArgs
import Pipework.Proofs.Except
import Pipework.Proofs.Text

/-! Arguments of components, written and read back. Bindings of ports come back as they were, as
long as the paths of outports are text; free arguments come back unless one of them is taken for a
flag or for the end of the flags. -/

namespace Pipework

open Text

namespace PortFlag

/-- The text is a port flag: one or two dashes, the word of the flag, and maybe a value behind an
equals sign. -/
def Spells (text : String) : Prop :=
  ∃ dashes ∈ ["-", "--"], ∃ flag : PortFlag,
    text = dashes ++ flag.word ∨ ∃ value, text = dashes ++ flag.word ++ "=" ++ value

theorem dropDashes?_append {dashes : String} (hd : dashes ∈ ["-", "--"]) (flag : PortFlag)
    (rest : List Char) : dropDashes? (dashes.toList ++ (flag.word.toList ++ rest)) =
      some (flag.word.toList ++ rest) := by
  simp only [List.mem_cons, List.not_mem_nil, or_false] at hd
  rcases hd with rfl | rfl <;> cases flag <;> rfl

theorem eq_append_of_dropDashes? {cs body : List Char} (h : dropDashes? cs = some body) :
    ∃ dashes ∈ ["-", "--"], cs = dashes.toList ++ body := by
  unfold dropDashes? at h
  split at h
  · obtain rfl := Option.some.inj h
    exact ⟨"--", by decide, rfl⟩
  · obtain rfl := Option.some.inj h
    exact ⟨"-", by decide, rfl⟩
  · cases h

theorem equals_not_mem_word (flag : PortFlag) : '=' ∉ flag.word.toList := by
  cases flag <;> decide

theorem find?_word (flag : PortFlag) : all.find? (·.word == flag.word) = some flag := by
  cases flag <;> decide

theorem ofText?_word {dashes : String} (hd : dashes ∈ ["-", "--"]) (flag : PortFlag) :
    ofText? (dashes ++ flag.word) = some (flag, none) := by
  have hdrop : dropDashes? (dashes ++ flag.word).toList = some flag.word.toList := by
    have h := dropDashes?_append hd flag []
    rwa [List.append_nil, ← String.toList_append] at h
  have hall : ∀ c ∈ flag.word.toList, (c != '=') = true := by
    intro c hc
    rw [bne_iff_ne]
    rintro rfl
    exact equals_not_mem_word flag hc
  have htake : flag.word.toList.takeWhile (· != '=') = flag.word.toList :=
    List.takeWhile_eq_self_iff.2 hall
  have hrest : flag.word.toList.dropWhile (· != '=') = [] := List.dropWhile_eq_nil_iff.2 hall
  rw [ofText?, hdrop]
  simp [htake, hrest, find?_word]

theorem ofText?_word_value {dashes : String} (hd : dashes ∈ ["-", "--"]) (flag : PortFlag)
    (value : String) : ofText? (dashes ++ flag.word ++ "=" ++ value) = some (flag, some value) := by
  have hdrop : dropDashes? (dashes ++ flag.word ++ "=" ++ value).toList =
      some (flag.word.toList ++ '=' :: value.toList) := by
    rw [← dropDashes?_append hd]
    simp
  have hnot := equals_not_mem_word flag
  rw [ofText?, hdrop]
  simp [takeWhile_append_cons hnot, dropWhile_append_cons hnot, find?_word]

/-- What the reader takes for a flag is spelled as one. -/
theorem spelling_of_ofText? {text : String} {flag : PortFlag} {value : Option String}
    (h : ofText? text = some (flag, value)) : ∃ dashes ∈ ["-", "--"],
      (value = none ∧ text = dashes ++ flag.word) ∨
        ∃ v, value = some v ∧ text = dashes ++ flag.word ++ "=" ++ v := by
  unfold ofText? at h
  obtain ⟨body, hbody, h⟩ := Option.bind_eq_some_iff.1 h
  obtain ⟨flag', hfind, h⟩ := Option.bind_eq_some_iff.1 h
  obtain ⟨dashes, hd, htext⟩ := eq_append_of_dropDashes? hbody
  have hword : flag'.word.toList = body.takeWhile (· != '=') := by
    have hw := List.find?_some hfind
    rw [beq_iff_eq] at hw
    rw [hw, String.toList_ofList]
  refine ⟨dashes, hd, ?_⟩
  -- what is behind the word is nothing, or an equals sign and a value
  cases hrest : body.dropWhile (· != '=') with
  | nil =>
    rw [hrest] at h
    obtain ⟨rfl, rfl⟩ := Prod.mk.inj (Option.some.inj h)
    have hsplit := List.takeWhile_append_dropWhile (p := (· != '=')) (l := body)
    rw [hrest, List.append_nil] at hsplit
    refine Or.inl ⟨rfl, ?_⟩
    rw [← String.toList_inj, htext, String.toList_append, hword, hsplit]
  | cons c v =>
    rw [hrest] at h
    obtain ⟨rfl, rfl⟩ := Prod.mk.inj (Option.some.inj h)
    refine Or.inr ⟨String.ofList v, rfl, ?_⟩
    rw [← String.toList_inj, htext]
    simpa [hword] using (split_of_dropWhile hrest).2.2

/-- The reader takes just the spellings of flags for flags. -/
theorem ofText?_eq_none_iff {text : String} : ofText? text = none ↔ ¬Spells text := by
  constructor
  · rintro h ⟨dashes, hd, flag, rfl | ⟨value, rfl⟩⟩
    · rw [ofText?_word hd] at h
      cases h
    · rw [ofText?_word_value hd] at h
      cases h
  · intro h
    by_contra hsome
    obtain ⟨⟨flag, value⟩, hflag⟩ := Option.ne_none_iff_exists'.1 hsome
    obtain ⟨dashes, hd, hspell⟩ := spelling_of_ofText? hflag
    refine h ⟨dashes, hd, flag, ?_⟩
    rcases hspell with ⟨-, htext⟩ | ⟨v, -, htext⟩
    · exact Or.inl htext
    · exact Or.inr ⟨v, htext⟩

theorem ofArgument?_toBytes_eq_none_iff {text : String} :
    ofArgument? (toBytes text) = none ↔ ¬Spells text := by
  rw [← ofText?_eq_none_iff, ofArgument?, ofBytes?_toBytes]
  cases h : ofText? text with
  | none => simp [h]
  | some read => simp [h]

end PortFlag

namespace SortedArguments

/-- The sorted arguments with more flags in front. -/
def behind (flags : List (PortFlag × Bytes)) (s : SortedArguments) : SortedArguments :=
  { s with flags := flags ++ s.flags }

theorem behind_behind (first second : List (PortFlag × Bytes)) (s : SortedArguments) :
    behind first (behind second s) = behind (first ++ second) s := by
  simp [behind]

theorem ofArguments_cons {arg : Bytes} (hne : arg ≠ terminator) (args : List Bytes) :
    ofArguments (arg :: args) =
      match PortFlag.ofArgument? arg, args with
      | none, args => { ofArguments args with rest := arg :: (ofArguments args).rest }
      | some (flag, some value), args => behind [(flag, value)] (ofArguments args)
      | some (flag, none), value :: args => behind [(flag, value)] (ofArguments args)
      | some (flag, none), [] => { incomplete := some flag } := by
  rw [ofArguments.eq_def]
  simp only [if_neg hne]
  rcases PortFlag.ofArgument? arg with _ | ⟨flag, _ | value⟩ <;> cases args <;> rfl

theorem ofArguments_value {arg value : Bytes} {flag : PortFlag} (hne : arg ≠ terminator)
    (h : PortFlag.ofArgument? arg = some (flag, none)) (args : List Bytes) :
    ofArguments (arg :: value :: args) = behind [(flag, value)] (ofArguments args) := by
  rw [ofArguments_cons hne, h]

theorem ofArguments_inline {arg value : Bytes} {flag : PortFlag} (hne : arg ≠ terminator)
    (h : PortFlag.ofArgument? arg = some (flag, some value)) (args : List Bytes) :
    ofArguments (arg :: args) = behind [(flag, value)] (ofArguments args) := by
  rw [ofArguments_cons hne, h]

theorem ofArguments_of_free {args : List Bytes}
    (h : ∀ a ∈ args, a ≠ terminator ∧ PortFlag.ofArgument? a = none) :
    ofArguments args = { rest := args } := by
  induction args with
  | nil => rfl
  | cons arg args ih =>
    obtain ⟨⟨hne, hnone⟩, hargs⟩ := List.forall_mem_cons.1 h
    rw [ofArguments_cons hne, hnone]
    simp only [ih hargs]

theorem rest_sublist (args : List Bytes) : (ofArguments args).rest.Sublist args := by
  fun_induction ofArguments args with
  | case1 => exact List.Sublist.refl _
  | case2 args => exact List.Sublist.refl _
  | case3 arg args _ _ _ ih => exact ih.cons_cons arg
  | case4 arg args _ _ _ _ _ ih => exact ih.cons arg
  | case5 arg _ _ value args _ _ ih => exact (ih.cons value).cons arg
  | case6 => exact List.nil_sublist _

theorem ofArgument?_of_rest {args : List Bytes} (ht : terminator ∉ args)
    (h : (ofArguments args).rest = args) : ∀ a ∈ args, PortFlag.ofArgument? a = none := by
  induction args with
  | nil => exact fun _ hm => (nomatch hm)
  | cons arg args ih =>
    obtain ⟨hne, ht⟩ := not_or.1 (mt List.mem_cons.2 ht)
    rw [ofArguments_cons (Ne.symm hne)] at h
    have hshort (later : List Bytes) (hl : later.length ≤ args.length) :
        (ofArguments later).rest ≠ arg :: args := by
      intro he
      have hle := (rest_sublist later).length_le
      rw [he, List.length_cons] at hle
      omega
    -- what a flag takes away is missing in the rest
    rcases hflag : PortFlag.ofArgument? arg with _ | ⟨flag, _ | value⟩
    · rw [hflag] at h
      exact List.forall_mem_cons.2 ⟨hflag, ih ht (List.cons.inj h).2⟩
    · rw [hflag] at h
      cases args with
      | nil => cases h
      | cons value later => exact absurd h (hshort later (Nat.le_succ _))
    · rw [hflag] at h
      exact absurd h (hshort args (Nat.le_refl _))

/-- The terminator goes with the flags, so a list that keeps its length has neither. -/
theorem free_of_length {args : List Bytes}
    (h : ((ofArguments args).rest.erase terminator).length = args.length) :
    ∀ a ∈ args, a ≠ terminator ∧ PortFlag.ofArgument? a = none := by
  -- nothing is ever added, so equal lengths mean equal lists
  have hsub := rest_sublist args
  have herase := List.erase_sublist (a := terminator) (l := (ofArguments args).rest)
  have hrest : (ofArguments args).rest = args :=
    hsub.eq_of_length (Nat.le_antisymm hsub.length_le (h ▸ herase.length_le))
  have ht : terminator ∉ args := by
    intro hm
    rw [hrest, List.length_erase_of_mem hm] at h
    have hpos := List.length_pos_of_mem hm
    omega
  intro a ha
  exact ⟨fun he => ht (he ▸ ha), ofArgument?_of_rest ht hrest a ha⟩

end SortedArguments

namespace ComponentArgs

open SortedArguments

/-- The flags of the inports with their values. -/
def inportFlags (bs : List PortPath) : List (PortFlag × Bytes) :=
  bs.flatMap fun b => [(.inport, toBytes b.name), (.inpath, b.path)]

/-- The flags of the outports with their values. -/
def outportFlags (bs : List PortPath) : List (PortFlag × Bytes) :=
  bs.flatMap fun b => [(.outport, toBytes b.name), (.outpath, b.path)]

theorem ofArguments_inports (bs : List PortPath) (args : List Bytes) :
    ofArguments (bs.flatMap inportArguments ++ args) =
      behind (inportFlags bs) (ofArguments args) := by
  induction bs with
  | nil => rfl
  | cons b bs ih =>
    have hport : PortFlag.ofArgument? (toBytes "-inport") = some (.inport, none) := by decide
    have hpath : PortFlag.ofArgument? (toBytes "-inpath") = some (.inpath, none) := by decide
    have hstep : (b :: bs).flatMap inportArguments ++ args = toBytes "-inport" ::
        toBytes b.name :: toBytes "-inpath" :: b.path :: (bs.flatMap inportArguments ++ args) :=
      rfl
    rw [hstep, ofArguments_value (by decide) hport, ofArguments_value (by decide) hpath, ih,
      behind_behind, behind_behind]
    rfl

theorem ofArgument?_outport (flag : PortFlag) (value : String) :
    PortFlag.ofArgument? (toBytes ("-" ++ flag.word ++ "=") ++ toBytes value) =
      some (flag, some (toBytes value)) := by
  rw [← toBytes_append, PortFlag.ofArgument?, ofBytes?_toBytes]
  have h := PortFlag.ofText?_word_value (by decide : "-" ∈ ["-", "--"]) flag value
  simp [h]

theorem outportArgument_ne_terminator (flag : PortFlag) (value : Bytes) :
    toBytes ("-" ++ flag.word ++ "=") ++ value ≠ terminator := by
  intro h
  have hlen := congrArg List.length h
  rw [List.length_append] at hlen
  have hlong : 3 ≤ (toBytes ("-" ++ flag.word ++ "=")).length := by
    cases flag <;> decide
  have hshort : terminator.length = 2 := rfl
  omega

/-- The path of an outport stands in the same argument as its flag, which is no flag unless all of
it is text. -/
theorem ofArguments_outports {bs : List PortPath} (hu : ∀ b ∈ bs, ∃ path, b.path = toBytes path)
    (args : List Bytes) : ofArguments (bs.flatMap outportArguments ++ args) =
      behind (outportFlags bs) (ofArguments args) := by
  induction bs with
  | nil => rfl
  | cons b bs ih =>
    obtain ⟨⟨path, hpath⟩, hbs⟩ := List.forall_mem_cons.1 hu
    have hstep : (b :: bs).flatMap outportArguments ++ args =
        (toBytes ("-" ++ PortFlag.outport.word ++ "=") ++ toBytes b.name) ::
        (toBytes ("-" ++ PortFlag.outpath.word ++ "=") ++ toBytes path) ::
        (bs.flatMap outportArguments ++ args) := by
      rw [← hpath]
      rfl
    rw [hstep, ofArguments_inline (outportArgument_ne_terminator _ _) (ofArgument?_outport _ _),
      ofArguments_inline (outportArgument_ne_terminator _ _) (ofArgument?_outport _ _), ih hbs,
      behind_behind, behind_behind, ← hpath]
    rfl

theorem foldlM_inportFlags (bs : List PortPath) (q : PortPairing) (hq : q.openInport = none) :
    (inportFlags bs).foldlM PortPairing.add q = .ok { q with inports := q.inports ++ bs } := by
  induction bs generalizing q with
  | nil => simp [inportFlags, pure, Except.pure]
  | cons b bs ih =>
    have hstep : (inportFlags (b :: bs)).foldlM PortPairing.add q =
        (inportFlags bs).foldlM PortPairing.add { q with inports := q.inports ++ [b] } := by
      obtain ⟨ins, outs, openIn, openOut⟩ := q
      obtain rfl : openIn = none := hq
      simp [inportFlags, PortPairing.add]
    rw [hstep, ih { q with inports := q.inports ++ [b] } hq]
    simp

theorem foldlM_outportFlags (bs : List PortPath) (q : PortPairing) (hq : q.openOutport = none) :
    (outportFlags bs).foldlM PortPairing.add q = .ok { q with outports := q.outports ++ bs } := by
  induction bs generalizing q with
  | nil => simp [outportFlags, pure, Except.pure]
  | cons b bs ih =>
    have hstep : (outportFlags (b :: bs)).foldlM PortPairing.add q =
        (outportFlags bs).foldlM PortPairing.add { q with outports := q.outports ++ [b] } := by
      obtain ⟨ins, outs, openIn, openOut⟩ := q
      obtain rfl : openOut = none := hq
      simp [outportFlags, PortPairing.add]
    rw [hstep, ih { q with outports := q.outports ++ [b] } hq]
    simp

variable {p : ComponentArgs}

theorem ofArguments_toArguments (hu : ∀ b ∈ p.outports, ∃ path, b.path = toBytes path) :
    ofArguments p.toArguments =
      behind (inportFlags p.inports ++ outportFlags p.outports)
        (ofArguments (p.free.map toBytes)) := by
  rw [toArguments, List.append_assoc, ofArguments_inports, ofArguments_outports hu, behind_behind]

theorem map_lossy_toBytes (texts : List String) : (texts.map toBytes).map lossy = texts := by
  rw [List.map_map]
  simp [Function.comp_def]

theorem toBytes_eq_terminator_iff {text : String} : toBytes text = terminator ↔ text = "--" := by
  have ht : terminator = toBytes "--" := by decide
  rw [ht]
  constructor
  · intro h
    exact toBytes_injective h
  · rintro rfl
    rfl

theorem free_iff : (∀ text ∈ p.free, text ≠ "--" ∧ ¬PortFlag.Spells text) ↔
    ∀ a ∈ p.free.map toBytes, a ≠ terminator ∧ PortFlag.ofArgument? a = none := by
  simp only [List.forall_mem_map, ne_eq, toBytes_eq_terminator_iff,
    PortFlag.ofArgument?_toBytes_eq_none_iff]

/-- If as many free arguments come back as were written, none was taken for something else. -/
theorem free_of_parse (hu : ∀ b ∈ p.outports, ∃ path, b.path = toBytes path) {q : ComponentArgs}
    (h : parse p.toArguments = .ok q) (hl : q.free.length = p.free.length) :
    ∀ text ∈ p.free, text ≠ "--" ∧ ¬PortFlag.Spells text := by
  rw [parse, extract, ofArguments_toArguments hu] at h
  obtain ⟨⟨ports, rest⟩, hextract, h⟩ := bind_eq_ok_iff.1 h
  obtain ⟨pairing, -, hextract⟩ := bind_eq_ok_iff.1 hextract
  have hrest : rest = (ofArguments (p.free.map toBytes)).rest := by
    split at hextract
    · cases hextract
    · obtain ⟨closed, -, hextract⟩ := bind_eq_ok_iff.1 hextract
      exact (Prod.mk.inj (Except.ok.inj hextract)).2.symm
  apply free_iff.2
  apply free_of_length
  have hback := congrArg (·.free.length) (Except.ok.inj h)
  simpa [dropTerminator, hrest, hl] using hback

/-- Written arguments are read back exactly if no free one is taken for something else. -/
theorem parse_toArguments_iff (hu : ∀ b ∈ p.outports, ∃ path, b.path = toBytes path) :
    parse p.toArguments = .ok p ↔ ∀ text ∈ p.free, text ≠ "--" ∧ ¬PortFlag.Spells text := by
  constructor
  · intro h
    exact free_of_parse hu h rfl
  · intro h
    have h := free_iff.1 h
    have ht : terminator ∉ p.free.map toBytes := fun hm => (h _ hm).1 rfl
    have hflags : (inportFlags p.inports ++ outportFlags p.outports).foldlM PortPairing.add {} =
        .ok { inports := p.inports, outports := p.outports } := by
      rw [List.foldlM_append, foldlM_inportFlags _ _ rfl, ok_bind, foldlM_outportFlags _ _ rfl]
      rfl
    have hback : ((p.free.map toBytes).erase terminator).map lossy = p.free := by
      rw [List.erase_of_not_mem ht, map_lossy_toBytes]
    rw [parse, extract, ofArguments_toArguments hu, ofArguments_of_free h]
    simp only [behind, List.append_nil, hflags, ok_bind, PortPairing.close, dropTerminator,
      pure_bind, hback]
    rfl

end ComponentArgs

end Pipework
