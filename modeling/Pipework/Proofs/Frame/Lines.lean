import Pipework.Frame.Head
import Pipework.Proofs.Text

/-! Header blocks taken apart into lines. A buffer starts with a header block if it has a blank
line, and the lines that the decoder sees are those before the first blank one. -/

namespace Pipework.Frame

open Text

theorem splitLine?_append {line : Bytes} (h : lineFeed ∉ line) (rest : Bytes) :
    splitLine? (line ++ lineFeed :: rest) = some (line, rest) := by
  rw [splitLine?, dropWhile_append_cons h, takeWhile_append_cons h]

theorem splitLine?_eq_some_iff {bs line rest : Bytes} :
    splitLine? bs = some (line, rest) ↔ lineFeed ∉ line ∧ bs = line ++ lineFeed :: rest := by
  constructor
  · intro h
    unfold splitLine? at h
    split at h
    · cases h
    · rename_i b r hd
      obtain ⟨rfl, rfl⟩ := Prod.mk.inj (Option.some.inj h)
      exact (split_of_dropWhile hd).2
  · rintro ⟨hf, rfl⟩
    exact splitLine?_append hf rest

theorem splitHead?_of_splitLine? {bs line rest : Bytes} (h : splitLine? bs = some (line, rest)) :
    splitHead? bs = if dropReturn line = [] then some ([], rest)
      else (splitHead? rest).map fun p => (dropReturn line :: p.1, p.2) := by
  rw [splitHead?]
  split
  · rename_i hn
    rw [h] at hn
    cases hn
  · rename_i l r hl
    rw [h] at hl
    cases hl
    rfl

/-- Lines that are not blank, and a blank one, each with its line feed. -/
def blockOf (raws : List Bytes) (blank : Bytes) : Bytes :=
  (raws ++ [blank]).flatMap (· ++ [lineFeed])

/-- The buffer starts with a header block of these lines, up to its first blank one. -/
structure StartsWith (buffer : Bytes) (raws : List Bytes) (blank rest : Bytes) : Prop where
  buffer_eq : buffer = blockOf raws blank ++ rest
  blank : blank = [] ∨ blank = [carriageReturn]
  line : ∀ raw ∈ raws, lineFeed ∉ raw ∧ raw ≠ [] ∧ raw ≠ [carriageReturn]

theorem dropReturn_eq_nil_iff {line : Bytes} :
    dropReturn line = [] ↔ line = [] ∨ line = [carriageReturn] := by
  unfold dropReturn
  split
  · rename_i h
    obtain ⟨before, rfl⟩ := List.getLast?_eq_some_iff.1 h
    simp
  · rename_i h
    constructor
    · exact Or.inl
    · rintro (rfl | rfl)
      · rfl
      · exact absurd rfl h

theorem blockOf_cons (raw : Bytes) (raws : List Bytes) (blank : Bytes) :
    blockOf (raw :: raws) blank = raw ++ lineFeed :: blockOf raws blank := by
  simp [blockOf]

/-- The lines that the decoder sees are the lines up to the first blank one, each without one
carriage return at its end. -/
theorem splitHead?_eq_some_iff {buffer rest : Bytes} {lines : List Bytes} :
    splitHead? buffer = some (lines, rest) ↔
      ∃ raws blank, StartsWith buffer raws blank rest ∧ lines = raws.map dropReturn := by
  constructor
  · intro h
    -- the lines are collected as the decoder finds them, with the returns that it drops
    fun_induction splitHead? buffer generalizing lines rest with
    | case1 => cases h
    | case2 buffer line r hl hlt hd =>
      obtain ⟨rfl, rfl⟩ := Prod.mk.inj (Option.some.inj h)
      obtain ⟨-, rfl⟩ := splitLine?_eq_some_iff.1 hl
      refine ⟨[], line, ⟨?_, dropReturn_eq_nil_iff.1 hd, fun _ hm => (nomatch hm)⟩, rfl⟩
      simp [blockOf]
    | case3 buffer line r hl hlt hd ih =>
      obtain ⟨⟨ls, body⟩, hb, he⟩ := Option.map_eq_some_iff.1 h
      obtain ⟨rfl, rfl⟩ := Prod.mk.inj he
      obtain ⟨hf, rfl⟩ := splitLine?_eq_some_iff.1 hl
      obtain ⟨raws, blank, hr, rfl⟩ := ih hb
      have hline : lineFeed ∉ line ∧ line ≠ [] ∧ line ≠ [carriageReturn] :=
        ⟨hf, not_or.1 fun hblank => hd (dropReturn_eq_nil_iff.2 hblank)⟩
      refine ⟨line :: raws, blank, ⟨?_, hr.blank, ?_⟩, rfl⟩
      · rw [blockOf_cons, hr.buffer_eq, List.append_assoc, List.cons_append]
      · exact List.forall_mem_cons.2 ⟨hline, hr.line⟩
  · rintro ⟨raws, blank, ⟨rfl, hblank, hraws⟩, rfl⟩
    -- no line before the blank one stops the search, since none of them is blank itself
    induction raws with
    | nil =>
      have hf : lineFeed ∉ blank := by
        rcases hblank with rfl | rfl <;> decide
      have hl : splitLine? (blockOf [] blank ++ rest) = some (blank, rest) := by
        simpa [blockOf] using splitLine?_append hf rest
      rw [splitHead?_of_splitLine? hl, if_pos (dropReturn_eq_nil_iff.2 hblank)]
      rfl
    | cons raw raws ih =>
      obtain ⟨⟨hf, hraw⟩, hraws⟩ := List.forall_mem_cons.1 hraws
      have hl : splitLine? (blockOf (raw :: raws) blank ++ rest) =
          some (raw, blockOf raws blank ++ rest) := by
        rw [blockOf_cons, List.append_assoc, List.cons_append]
        exact splitLine?_append hf _
      have hne : ¬dropReturn raw = [] := fun hd => not_or.2 hraw (dropReturn_eq_nil_iff.1 hd)
      rw [splitHead?_of_splitLine? hl, if_neg hne, ih hraws]
      rfl

/-- More octets change nothing in a header block that has ended. -/
theorem splitHead?_append {bs rest : Bytes} {lines : List Bytes}
    (h : splitHead? bs = some (lines, rest)) (more : Bytes) :
    splitHead? (bs ++ more) = some (lines, rest ++ more) := by
  obtain ⟨raws, blank, hb, hlines⟩ := splitHead?_eq_some_iff.1 h
  have hmore : bs ++ more = blockOf raws blank ++ (rest ++ more) := by
    rw [hb.buffer_eq, List.append_assoc]
  exact splitHead?_eq_some_iff.2 ⟨raws, blank, ⟨hmore, hb.blank, hb.line⟩, hlines⟩

theorem dropReturn_append_return (line : Bytes) : dropReturn (line ++ [carriageReturn]) = line := by
  simp [dropReturn]

theorem splitHead?_lines {lines : List Bytes} (h : ∀ l ∈ lines, lineFeed ∉ l ∧ l ≠ [])
    (rest : Bytes) :
    splitHead? (lines.flatMap (· ++ [carriageReturn, lineFeed]) ++
      carriageReturn :: lineFeed :: rest) = some (lines, rest) := by
  -- each written line ends in a return, and so does the blank one
  let raws := lines.map (· ++ [carriageReturn])
  have hback : lines = raws.map dropReturn := by
    rw [List.map_map]
    exact (List.map_id' lines).symm.trans
      (List.map_congr_left fun l _ => (dropReturn_append_return l).symm)
  refine splitHead?_eq_some_iff.2 ⟨raws, [carriageReturn], ⟨?_, Or.inr rfl, ?_⟩, hback⟩
  · simp [blockOf, raws, List.flatMap_map]
  · intro raw hraw
    obtain ⟨l, hl, rfl⟩ := List.mem_map.1 hraw
    obtain ⟨hf, hne⟩ := h l hl
    have hcr : lineFeed ∉ [carriageReturn] := by decide
    refine ⟨fun hm => (List.mem_append.1 hm).elim hf hcr, by simp, ?_⟩
    simpa using hne

end Pipework.Frame
