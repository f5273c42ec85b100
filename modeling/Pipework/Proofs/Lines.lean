import Mathlib.Data.List.Basic
import Pipework.Proofs.Text
import Pipework.Text.Lines

/-! Lines found in pieces. What a buffer gives for octets that arrive one after the other are the
lines of all octets, however they are cut, and these are what stands between the line feeds. -/

namespace Pipework

namespace LineBuffer

theorem feed_append (b : LineBuffer) (xs ys : Bytes) : b.feed (xs ++ ys) =
    ((b.feed xs).1 ++ ((b.feed xs).2.feed ys).1, ((b.feed xs).2.feed ys).2) := by
  induction xs generalizing b with
  | nil => rfl
  | cons x xs ih =>
    rw [List.cons_append, feed, feed]
    split
    · rw [ih]
      rfl
    · exact ih _

theorem map_rawLinesFrom (b : LineBuffer) (bs : Bytes) :
    (Text.rawLinesFrom b.pending bs).map (fun l => Text.lineText l.octets) =
      (b.feed bs).1 ++ (b.feed bs).2.finish := by
  induction bs generalizing b with
  | nil =>
    rw [Text.rawLinesFrom, feed, finish, List.nil_append]
    split <;> rfl
  | cons x bs ih =>
    rw [Text.rawLinesFrom, feed]
    split
    · rw [List.map_cons, ih {}]
      rfl
    · exact ih ⟨x :: b.pending⟩

/-- The lines that end in the octets, and then the one that is left. -/
theorem lines_eq (bs : Bytes) : Text.lines bs = (feed {} bs).1 ++ (feed {} bs).2.finish :=
  map_rawLinesFrom {} bs

end LineBuffer

namespace Text

/-- The octets are some segments with a line feed behind each of them, and a rest without one. -/
structure Segments (bs : Bytes) (ended : List Bytes) (rest : Bytes) : Prop where
  octets : bs = ended.flatMap (· ++ [lineFeed]) ++ rest
  ended_free : ∀ s ∈ ended, lineFeed ∉ s
  rest_free : lineFeed ∉ rest

/-- The rest, if there is one. -/
def lastSegment (rest : Bytes) : List Bytes := if rest = [] then [] else [rest]

/-- No carriage return stands in front of a line feed or at the end. -/
structure ReturnFree (bs : Bytes) : Prop where
  inside : ∀ front back, bs ≠ front ++ carriageReturn :: lineFeed :: back
  last : bs.getLast? ≠ some carriageReturn

variable {bs rest rest' s : Bytes} {ended ended' : List Bytes}

theorem exists_segments (bs : Bytes) : ∃ ended rest, Segments bs ended rest := by
  induction bs with
  | nil => exact ⟨[], [], rfl, nofun, nofun⟩
  | cons b bs ih =>
    obtain ⟨ended, rest, hbs, hended, hrest⟩ := ih
    by_cases hb : b = lineFeed
    · refine ⟨[] :: ended, rest, ?_, List.forall_mem_cons.2 ⟨nofun, hended⟩, hrest⟩
      rw [hb, hbs]
      rfl
    · have hne : lineFeed ≠ b := Ne.symm hb
      -- the octet belongs to the first segment, or to the rest if there is no segment
      cases ended with
      | nil =>
        refine ⟨[], b :: rest, ?_, nofun, List.not_mem_cons_of_ne_of_not_mem hne hrest⟩
        rw [hbs]
        rfl
      | cons s ended =>
        obtain ⟨hs, hended⟩ := List.forall_mem_cons.1 hended
        refine ⟨(b :: s) :: ended, rest, ?_, List.forall_mem_cons.2 ⟨?_, hended⟩, hrest⟩
        · rw [hbs]
          rfl
        · exact List.not_mem_cons_of_ne_of_not_mem hne hs

theorem rawLinesFrom_append (hs : lineFeed ∉ s) (front bs : Bytes) :
    rawLinesFrom front (s ++ bs) = rawLinesFrom (s.reverse ++ front) bs := by
  induction s generalizing front with
  | nil => rfl
  | cons b s ih =>
    have hb : b ≠ lineFeed := (List.ne_of_not_mem_cons hs).symm
    rw [List.cons_append, rawLinesFrom, if_neg hb, ih (List.not_mem_of_not_mem_cons hs),
      List.reverse_cons, List.append_assoc, List.singleton_append]

theorem rawLines_append_lineFeed (hs : lineFeed ∉ s) (bs : Bytes) :
    rawLines (s ++ lineFeed :: bs) = ⟨s, true⟩ :: rawLines bs := by
  rw [rawLines, rawLinesFrom_append hs, List.append_nil, rawLinesFrom, if_pos rfl,
    List.reverse_reverse, rawLines]

theorem rawLines_of_free (hs : lineFeed ∉ s) :
    rawLines s = (lastSegment s).map fun l => ⟨l, false⟩ := by
  have happend := rawLinesFrom_append hs [] []
  rw [List.append_nil, List.append_nil] at happend
  rw [rawLines, happend, rawLinesFrom, lastSegment, List.isEmpty_reverse, List.reverse_reverse]
  by_cases hnil : s = [] <;> simp [hnil]

namespace Segments

theorem rawLines_eq (h : Segments bs ended rest) :
    rawLines bs = (ended.map fun l => ⟨l, true⟩) ++ (lastSegment rest).map fun l => ⟨l, false⟩ := by
  obtain ⟨rfl, hended, hrest⟩ := h
  induction ended with
  | nil => exact rawLines_of_free hrest
  | cons s ended ih =>
    obtain ⟨hs, hended⟩ := List.forall_mem_cons.1 hended
    have hsplit : (s :: ended).flatMap (· ++ [lineFeed]) ++ rest =
        s ++ lineFeed :: (ended.flatMap (· ++ [lineFeed]) ++ rest) := by simp
    rw [hsplit, rawLines_append_lineFeed hs, ih hended]
    rfl

/-- Each segment is a line, and the rest is one if it is not empty. -/
theorem lines_eq (h : Segments bs ended rest) :
    lines bs = (ended ++ lastSegment rest).map lineText := by
  rw [lines, h.rawLines_eq, List.map_append, List.map_append, List.map_map, List.map_map]
  rfl

/-- There is one way only to cut octets into segments. -/
theorem unique (h : Segments bs ended rest) (h' : Segments bs ended' rest') :
    ended = ended' ∧ rest = rest' := by
  have hfilter {es : List Bytes} {r : Bytes} (hs : Segments bs es r) :
      ((rawLines bs).filter (·.ended)).map (·.octets) = es := by
    rw [hs.rawLines_eq]
    simp [List.filter_map, Function.comp_def]
  have hended : ended = ended' := (hfilter h).symm.trans (hfilter h')
  refine ⟨hended, ?_⟩
  have hoctets := h.octets.symm.trans h'.octets
  rw [hended] at hoctets
  exact List.append_cancel_left hoctets

/-- The segments of a text are texts. -/
theorem texts {text : String} (h : Segments (toBytes text) ended rest) :
    ∀ s ∈ ended ++ lastSegment rest, ∃ line, s = toBytes line := by
  obtain ⟨htext, -, -⟩ := h
  induction ended generalizing text with
  | nil =>
    intro s hs
    rw [List.nil_append, lastSegment] at hs
    split at hs
    · cases hs
    · obtain rfl := List.mem_singleton.1 hs
      exact ⟨text, htext.symm⟩
  | cons s ended ih =>
    have hsplit : toBytes text = s ++ lineFeed :: (ended.flatMap (· ++ [lineFeed]) ++ rest) := by
      rw [htext]
      simp
    obtain ⟨front, back, hfront, hback⟩ := exists_split_of_toBytes (by decide) hsplit
    exact List.forall_mem_cons.2 ⟨⟨front, hfront⟩, ih hback.symm⟩

/-- No segment of octets without such carriage returns ends with one. -/
theorem getLast?_ne_return (h : Segments bs ended rest) (hfree : ReturnFree bs) :
    ∀ s ∈ ended ++ lastSegment rest, s.getLast? ≠ some carriageReturn := by
  intro s hs hlast
  obtain ⟨front, rfl⟩ := List.getLast?_eq_some_iff.1 hlast
  rcases List.mem_append.1 hs with hs | hs
  · obtain ⟨before, after, rfl⟩ := List.append_of_mem hs
    refine hfree.inside (before.flatMap (· ++ [lineFeed]) ++ front)
      (after.flatMap (· ++ [lineFeed]) ++ rest) ?_
    rw [h.octets]
    simp
  · rw [lastSegment] at hs
    split at hs
    · cases hs
    · obtain rfl := List.mem_singleton.1 hs
      refine hfree.last ?_
      rw [h.octets, ← List.append_assoc, List.getLast?_concat]

/-- The octets are their segments with line feeds between them, apart from a line feed at the
end. -/
theorem intercalate_eq (h : Segments bs ended rest) :
    bs = [lineFeed].intercalate (ended ++ lastSegment rest) ++
      if bs.getLast? = some lineFeed then [lineFeed] else [] := by
  obtain ⟨rfl, -, hrest⟩ := h
  induction ended with
  | nil =>
    have hlast : rest.getLast? ≠ some lineFeed := fun hl => hrest (List.mem_of_getLast? hl)
    rw [List.flatMap_nil, List.nil_append, List.nil_append, if_neg hlast, List.append_nil,
      lastSegment]
    by_cases hnil : rest = [] <;> simp [hnil, List.intercalate]
  | cons s ended ih =>
    let back := ended.flatMap (· ++ [lineFeed]) ++ rest
    have hsplit : (s :: ended).flatMap (· ++ [lineFeed]) ++ rest = s ++ lineFeed :: back := by
      simp [back]
    rw [hsplit]
    by_cases hback : back = []
    · obtain ⟨hended, hrest'⟩ := List.append_eq_nil_iff.1 hback
      have hnil : ended = [] := by
        cases ended with
        | nil => rfl
        | cons s ended => simp at hended
      rw [hback, hnil, hrest']
      simp [lastSegment, List.intercalate]
    · have hlast : (s ++ lineFeed :: back).getLast? = back.getLast? := by
        rw [List.append_cons, List.getLast?_append_of_ne_nil _ hback]
      have hmore : ended ++ lastSegment rest ≠ [] := by
        intro hnil
        rw [List.append_eq_nil_iff] at hnil
        have hrest' : rest = [] := by
          by_contra hne
          simp [lastSegment, hne] at hnil
        exact hback (by simp [back, hnil.1, hrest'])
      rw [hlast, List.cons_append, List.intercalate_cons_of_ne_nil hmore, List.append_assoc,
        List.append_assoc, ← ih]
      rfl

end Segments

theorem dropReturn_of_getLast? (h : s.getLast? ≠ some carriageReturn) : dropReturn s = s :=
  if_neg h

/-- A text without carriage returns at the ends of its lines is its lines with line feeds between
them, apart from a line feed at the end. -/
theorem toBytes_eq_intercalate {text : String} (hfree : ReturnFree (toBytes text)) :
    toBytes text = [lineFeed].intercalate ((lines (toBytes text)).map toBytes) ++
      if (toBytes text).getLast? = some lineFeed then [lineFeed] else [] := by
  obtain ⟨ended, rest, h⟩ := exists_segments (toBytes text)
  have hback : ((ended ++ lastSegment rest).map lineText).map toBytes =
      ended ++ lastSegment rest := by
    rw [List.map_map]
    refine (List.map_congr_left fun s hs => ?_).trans (List.map_id _)
    obtain ⟨line, rfl⟩ := h.texts s hs
    rw [Function.comp_apply, lineText, dropReturn_of_getLast? (h.getLast?_ne_return hfree _ hs),
      lossy_toBytes, id]
  rw [h.lines_eq, hback]
  exact h.intercalate_eq

end Text

end Pipework
