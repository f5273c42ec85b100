import Mathlib.Data.List.Basic
import Pipework.Path
import Pipework.Proofs.Text

/-! Paths through their pieces. A name that is joined to a directory is the last step of the path,
and whether a path is text is decided by its steps alone. -/

namespace Pipework.Path

open Text

variable {p q dir name : Bytes}

theorem pieces_append_slash (p q : Path) : pieces (p ++ slash :: q) = pieces p ++ pieces q :=
  List.splitOnP_append_cons p q (by simp)

theorem pieces_of_no_slash (h : slash ∉ p) : pieces p = [p] := by
  apply List.splitOnP_eq_singleton
  intro b hb
  have hne : b ≠ slash := fun he => h (he ▸ hb)
  simpa using hne

/-- The step that a piece between slashes stands for. -/
def stepOf? (piece : Bytes) : Option Component :=
  if piece = [] ∨ piece = dot then none
  else if piece = dotDot then some .above
  else some (.name piece)

theorem components_eq (p : Path) : components p =
    (if isAbsolute p then [.root] else if (pieces p).head? = some dot then [.here] else []) ++
      (pieces p).filterMap stepOf? := by
  unfold components stepOf?
  simp only
  split
  · rfl
  · split <;> rfl

theorem stepOf?_eq_name_iff {piece : Bytes} : stepOf? piece = some (.name name) ↔
    piece = name ∧ name ≠ [] ∧ name ≠ dot ∧ name ≠ dotDot := by
  unfold stepOf?
  constructor
  · intro h
    split at h
    · cases h
    · rename_i hne
      split at h
      · cases h
      · rename_i hdots
        obtain rfl := Component.name.inj (Option.some.inj h)
        exact ⟨rfl, fun he => hne (Or.inl he), fun he => hne (Or.inr he), hdots⟩
  · rintro ⟨rfl, hnil, hdot, hdots⟩
    rw [if_neg (not_or.2 ⟨hnil, hdot⟩), if_neg hdots]

theorem name_mem_components_iff : .name name ∈ components p ↔
    name ∈ pieces p ∧ name ≠ [] ∧ name ≠ dot ∧ name ≠ dotDot := by
  have hfront : Component.name name ∉ (if isAbsolute p then [Component.root]
      else if (pieces p).head? = some dot then [.here] else []) := by
    split
    · simp
    · split <;> simp
  rw [components_eq, List.mem_append, or_iff_right hfront, List.mem_filterMap]
  simp only [stepOf?_eq_name_iff]
  constructor
  · rintro ⟨piece, hm, rfl, hname⟩
    exact ⟨hm, hname⟩
  · rintro ⟨hm, hname⟩
    exact ⟨name, hm, rfl, hname⟩

/-- A path is text if all names between its slashes are. -/
theorem isText_iff_pieces : (∃ text, p = toBytes text) ↔
    ∀ piece ∈ pieces p, ∃ text, piece = toBytes text := by
  have hslash : [slash] = toBytes "/" := by decide
  induction hn : p.length using Nat.strong_induction_on generalizing p with
  | _ n ih =>
    by_cases hs : slash ∈ p
    · obtain ⟨a, b, rfl, ha⟩ := List.eq_append_cons_of_mem hs
      have hb : b.length < n := by
        rw [← hn, List.length_append, List.length_cons]
        omega
      have hrest : (∃ text, b = toBytes text) ↔
          ∀ piece ∈ pieces b, ∃ text, piece = toBytes text := ih _ hb rfl
      rw [pieces_append_slash, pieces_of_no_slash ha, List.singleton_append, List.forall_mem_cons,
        ← hrest]
      constructor
      · rintro ⟨text, htext⟩
        obtain ⟨front, back, hfront, hback⟩ := exists_split_of_toBytes (by decide) htext.symm
        exact ⟨⟨front, hfront⟩, ⟨back, hback⟩⟩
      · rintro ⟨⟨front, rfl⟩, ⟨back, rfl⟩⟩
        refine ⟨front ++ "/" ++ back, ?_⟩
        rw [toBytes_append, toBytes_append, ← hslash]
        simp
    · rw [pieces_of_no_slash hs, List.forall_mem_singleton]

/-- Of two paths with the same steps both are text, or neither is. -/
theorem isText_of_components (h : components p = components q) (hq : ∃ text, q = toBytes text) :
    ∃ text, p = toBytes text := by
  rw [isText_iff_pieces] at hq ⊢
  intro piece hm
  -- the pieces that are no names are text in any case
  by_cases hnil : piece = []
  · exact ⟨"", hnil⟩
  by_cases hdot : piece = dot
  · exact ⟨".", hdot⟩
  by_cases hdots : piece = dotDot
  · exact ⟨"..", hdots⟩
  have hname := name_mem_components_iff.2 ⟨hm, hnil, hdot, hdots⟩
  rw [h] at hname
  exact hq piece (name_mem_components_iff.1 hname).1

/-- A name that can stand between two slashes. -/
structure IsName (name : Bytes) : Prop where
  nonempty : name ≠ []
  not_dot : name ≠ dot
  not_dots : name ≠ dotDot
  no_slash : slash ∉ name

theorem IsName.isAbsolute (h : IsName name) : isAbsolute name = false := by
  cases name with
  | nil => rfl
  | cons b bs =>
    have hne : b ≠ slash := by
      intro he
      exact h.no_slash (he ▸ List.mem_cons_self)
    simpa [Path.isAbsolute] using hne

theorem pieces_ne_nil (p : Path) : pieces p ≠ [] := List.splitOnP_ne_nil _ _

/-- What stands behind a slash adds its own steps, and a dot in front of it is none of them. -/
theorem components_append_slash (p q : Path) :
    components (p ++ slash :: q) = components (p ++ [slash]) ++ (pieces q).filterMap stepOf? := by
  have habsolute : isAbsolute (p ++ slash :: q) = isAbsolute (p ++ [slash]) := by
    cases p <;> rfl
  have hhead : (pieces (p ++ slash :: q)).head? = (pieces (p ++ [slash])).head? := by
    rw [pieces_append_slash, pieces_append_slash, List.head?_append_of_ne_nil _ (pieces_ne_nil p),
      List.head?_append_of_ne_nil _ (pieces_ne_nil p)]
  have hend : (pieces []).filterMap stepOf? = [] := rfl
  rw [components_eq, components_eq, habsolute, hhead, pieces_append_slash, pieces_append_slash,
    List.filterMap_append, List.filterMap_append, hend, List.append_nil, List.append_assoc]

/-- A slash at the end of a path is no step of it. -/
theorem components_append_one_slash (h : p ≠ []) : components (p ++ [slash]) = components p := by
  have habsolute : isAbsolute (p ++ [slash]) = isAbsolute p := by
    cases p with
    | nil => exact absurd rfl h
    | cons b bs => rfl
  have hend : (pieces []).filterMap stepOf? = [] := rfl
  rw [components_eq, components_eq, habsolute, pieces_append_slash,
    List.head?_append_of_ne_nil _ (pieces_ne_nil p), List.filterMap_append, hend, List.append_nil]

theorem IsName.steps_eq (h : IsName name) : (pieces name).filterMap stepOf? = [.name name] := by
  have hstep : stepOf? name = some (.name name) :=
    stepOf?_eq_name_iff.2 ⟨rfl, h.nonempty, h.not_dot, h.not_dots⟩
  rw [pieces_of_no_slash h.no_slash, List.filterMap_cons_some hstep, List.filterMap_nil]

theorem IsName.components_eq (h : IsName name) : components name = [.name name] := by
  have hhere : (pieces name).head? ≠ some dot := by
    rw [pieces_of_no_slash h.no_slash]
    exact fun he => h.not_dot (Option.some.inj he)
  rw [Path.components_eq, h.isAbsolute, if_neg Bool.false_ne_true, if_neg hhere, h.steps_eq,
    List.nil_append]

theorem IsName.fileName?_eq (h : IsName name) : fileName? name = some name := by
  rw [fileName?, h.components_eq]
  rfl

/-- A name joined to a directory is one more step behind all steps of the directory. -/
theorem components_join (h : IsName name) (dir : Path) :
    components (join dir name) = components dir ++ [.name name] := by
  unfold join
  rw [h.isAbsolute, if_neg Bool.false_ne_true]
  by_cases hnil : dir = []
  · have hempty : components [] = [] := rfl
    rw [hnil, hempty, List.nil_append, List.isEmpty_nil, Bool.true_or, if_pos rfl, List.nil_append]
    exact h.components_eq
  · split
    · rename_i hend
      rw [Bool.or_eq_true, List.isEmpty_iff, or_iff_right hnil, beq_iff_eq] at hend
      obtain ⟨front, rfl⟩ := List.getLast?_eq_some_iff.1 hend
      rw [List.append_assoc, List.singleton_append, components_append_slash, h.steps_eq]
    · rw [components_append_slash, components_append_one_slash hnil, h.steps_eq]

theorem isAbsolute_join (h : IsName name) (dir : Path) :
    isAbsolute (join dir name) = isAbsolute dir := by
  unfold join
  rw [h.isAbsolute, if_neg Bool.false_ne_true]
  cases dir with
  | nil => exact h.isAbsolute
  | cons b bs => split <;> rfl

/-- Between a directory and a name there is one slash, unless the directory ends with one or is
empty. The name is a piece of its own in either case, behind the pieces of the directory. -/
theorem join_cases (h : IsName name) (dir : Path) : ∃ sep, (sep = [] ∨ sep = [slash]) ∧
    join dir name = dir ++ sep ++ name ∧ ∃ front, pieces (join dir name) = front ++ [name] ∧
      front.filter (· != []) = (pieces dir).filter (· != []) := by
  have hempty : pieces [] = [[]] := rfl
  unfold join
  rw [h.isAbsolute, if_neg (by simp)]
  split
  · rename_i hdir
    refine ⟨[], Or.inl rfl, by simp, ?_⟩
    rw [Bool.or_eq_true, List.isEmpty_iff, beq_iff_eq] at hdir
    rcases hdir with rfl | hlast
    · exact ⟨[], pieces_of_no_slash h.no_slash, by simp [hempty]⟩
    · obtain ⟨front, rfl⟩ := List.getLast?_eq_some_iff.1 hlast
      refine ⟨pieces front, ?_, by simp [pieces_append_slash, hempty]⟩
      rw [List.append_assoc, List.singleton_append, pieces_append_slash,
        pieces_of_no_slash h.no_slash]
  · refine ⟨[slash], Or.inr rfl, by simp, pieces dir, ?_, rfl⟩
    rw [pieces_append_slash, pieces_of_no_slash h.no_slash]

theorem fileName?_join (h : IsName name) (dir : Path) : fileName? (join dir name) = some name := by
  rw [fileName?, components_join h, List.getLast?_concat]

theorem hasZero_join (h : IsName name) (dir : Path) :
    hasZero (join dir name) = (hasZero dir || hasZero name) := by
  obtain ⟨sep, hsep, heq, -⟩ := join_cases h dir
  have hzero : (0 : UInt8) ∉ sep := by
    rcases hsep with rfl | rfl <;> decide
  simp [heq, hasZero, hzero]

theorem join_injective {other : Bytes} (h : IsName name) (ho : IsName other)
    (he : join dir name = join dir other) : name = other := by
  have hfile := fileName?_join h dir
  rw [he, fileName?_join ho] at hfile
  exact (Option.some.inj hfile).symm

end Pipework.Path
