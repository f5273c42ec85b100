import Pipework.Frame.Head
import Pipework.Proofs.Except
import Pipework.Proofs.Frame.FieldName
import Pipework.Proofs.NameMap
import Pipework.Proofs.Text

/-! What the lines of a header block say. A line with a name in front starts a field, and the lines
behind it that start with a space or a tab continue its value. The table that is filled line by
line holds, under each canonical name, the last value that the lines give for it. -/

namespace Pipework

open Text

namespace FieldLines

/-- Does the line go on with the value of the line before it? -/
def isContinuation (line : String) : Bool := line.toList.head?.any isGap

/-- A name, a colon, and whatever is behind it. -/
def IsField (line : String) : Prop :=
  ∃ name text, FieldName.isToken name = true ∧ line = name ++ ":" ++ text

/-- The text before the first colon. -/
def nameOf (line : String) : String := String.ofList (line.toList.takeWhile (· != ':'))

/-- The text behind the first colon. -/
def textOf (line : String) : String := String.ofList (line.toList.dropWhile (· != ':')).tail

/-- The text without the spaces and tabs at its edges. -/
def trimmed (text : String) : String := String.ofList (trimGaps text.toList)

/-- One value from several pieces: each is trimmed, and single spaces join those that are not empty
then. -/
def joined (pieces : List String) : String :=
  " ".intercalate ((pieces.map trimmed).filter (· ≠ ""))

/-- The fields of a header block in order, with their whole values. -/
def fieldsOf : List String → List (String × String)
  | [] => []
  | line :: later =>
    if isContinuation line then fieldsOf later
    else (nameOf line, joined (textOf line :: later.takeWhile isContinuation)) :: fieldsOf later

/-- The value of the last field of a name, in any case. -/
def finalValue? (lines : List String) (name : String) : Option String :=
  ((fieldsOf lines).reverse.find? (FieldName.sameName ·.1 name)).map (·.2)

theorem finalValue?_congr (lines : List String) {a b : String}
    (h : FieldName.sameName a b = true) : finalValue? lines a = finalValue? lines b := by
  unfold finalValue?
  simp only [FieldName.sameName_congr h]

/-- Every line is a field or continues one. -/
structure WellFormed (lines : List String) : Prop where
  first : ∀ line ∈ lines.head?, isContinuation line = false
  field : ∀ line ∈ lines, isContinuation line = false → IsField line

theorem isField_iff {line : String} : IsField line ↔
    ∃ text, line.toList.dropWhile (· != ':') = ':' :: text ∧
      FieldName.isToken (nameOf line) = true := by
  constructor
  · rintro ⟨name, text, ht, rfl⟩
    have hl : (name ++ ":" ++ text).toList = name.toList ++ ':' :: text.toList := by simp
    have hcolon : ':' ∉ name.toList := by
      intro hm
      unfold FieldName.isToken at ht
      rw [Bool.and_eq_true, List.all_eq_true] at ht
      exact absurd (ht.2 ':' hm) (by decide)
    refine ⟨text.toList, ?_, ?_⟩
    · rw [hl, dropWhile_append_cons hcolon]
    · rwa [nameOf, hl, takeWhile_append_cons hcolon, String.ofList_toList]
  · rintro ⟨text, hd, ht⟩
    refine ⟨nameOf line, String.ofList text, ht, ?_⟩
    rw [← String.toList_inj, (split_of_dropWhile hd).2.2]
    simp [nameOf]

theorem intercalate_append (sep a b : String) (l : List String) :
    sep.intercalate ((a ++ sep ++ b) :: l) = sep.intercalate (a :: b :: l) := by
  rw [← String.toList_inj, String.toList_intercalate, String.toList_intercalate]
  cases l <;> simp [List.intercalate]

theorem foldl_extend (value : String) (pieces : List String) :
    pieces.foldl FieldTable.extend value = " ".intercalate ((value :: pieces).filter (· ≠ "")) := by
  induction pieces generalizing value with
  | nil => by_cases h : value = "" <;> simp [h]
  | cons m ms ih =>
    rw [List.foldl_cons, ih]
    unfold FieldTable.extend
    -- either text may be empty, and then no space joins the two
    by_cases hm : m = ""
    · by_cases hv : value = "" <;> simp [hm, hv]
    · by_cases hv : value = ""
      · simp [hm, hv]
      · simp only [String.isEmpty_iff, hm, hv, if_false]
        rw [List.filter_cons_of_pos (by simp), List.filter_cons_of_pos (by simpa using hv),
          List.filter_cons_of_pos (by simpa using hm), intercalate_append]

theorem joined_cons (text : String) (lines : List String) :
    joined (text :: lines) = (lines.map trimmed).foldl FieldTable.extend (trimmed text) := by
  rw [foldl_extend, joined, List.map_cons]

theorem isToken_of_mem_fieldsOf {lines : List String}
    (hf : ∀ line ∈ lines, isContinuation line = false → IsField line) {e : String × String}
    (he : e ∈ fieldsOf lines) : FieldName.isToken e.1 = true := by
  induction lines with
  | nil => cases he
  | cons line later ih =>
    obtain ⟨hline, hlater⟩ := List.forall_mem_cons.1 hf
    unfold fieldsOf at he
    split at he
    · exact ih hlater he
    · rename_i hc
      rcases List.mem_cons.1 he with rfl | he
      · obtain ⟨text, -, ht⟩ := isField_iff.1 (hline (by simpa using hc))
        exact ht
      · exact ih hlater he

end FieldLines

namespace FieldTable

open FieldLines

/-- The table with the field `e` under the canonical spelling of its name. -/
def store (t : FieldTable) (e : String × String) : FieldTable where
  fields := t.fields.insert (FieldName.canonicalName e.1) e.2
  last := some (FieldName.canonicalName e.1)

/-- The table with the value of its last field continued by lines. -/
def continued (t : FieldTable) (lines : List String) : FieldTable :=
  match t.last with
  | none => t
  | some name => { t with
      fields := t.fields.insert name
        ((lines.map trimmed).foldl extend ((t.fields.get? name).getD "")) }

/-- The last field of the table has a value. -/
def Open (t : FieldTable) : Prop := ∀ name ∈ t.last, (t.fields.get? name).isSome = true

theorem addField_eq_ok_iff {t t' : FieldTable} {line : String} : t.addField line = .ok t' ↔
    IsField line ∧ t' = t.store (nameOf line, trimmed (textOf line)) := by
  rw [isField_iff]
  cases hd : line.toList.dropWhile (· != ':') with
  | nil => simp [addField, hd]
  | cons c text =>
    have hc : c = ':' := (split_of_dropWhile hd).1
    have ht : String.ofList text = textOf line := by rw [textOf, hd, List.tail_cons]
    have hadd : t.addField line = if FieldName.isToken (nameOf line) = true
        then .ok (t.store (nameOf line, trimmed (textOf line)))
        else .error (.malformedHeader line) := by
      rw [addField, hd, ← ht, trimmed, String.toList_ofList]
      rfl
    rw [hadd, hc]
    by_cases hn : FieldName.isToken (nameOf line) = true
    · simp [hn, eq_comm]
    · simp [hn]

theorem addContinuation_eq_ok_iff {t t' : FieldTable} {line : String} :
    t.addContinuation line = .ok t' ↔ t.last.isSome = true ∧ t' = t.continued [line] := by
  rw [addContinuation, continued]
  cases t.last with
  | none => simp
  | some name =>
    simp only [Except.ok.injEq, Option.isSome_some, true_and, List.map_cons, List.map_nil,
      List.foldl_cons, List.foldl_nil]
    exact eq_comm

theorem addLine_toBytes (t : FieldTable) (line : String) : t.addLine (toBytes line) =
    if isContinuation line then t.addContinuation line else t.addField line := by
  rw [addLine, ofBytes?_toBytes]
  rfl

theorem open_store (t : FieldTable) (e : String × String) : (t.store e).Open := by
  intro name hname
  obtain rfl := Option.some.inj hname
  simp [store, NameMap.get?_insert]

theorem open_continued {t : FieldTable} (ht : t.Open) (lines : List String) :
    (t.continued lines).Open := by
  intro name hname
  unfold continued at hname ⊢
  cases hl : t.last with
  | none =>
    rw [hl] at hname
    exact ht name hname
  | some last =>
    simp only [hl, Option.mem_def, Option.some.injEq] at hname ⊢
    simp [NameMap.get?_insert, hname]

theorem continued_nil {t : FieldTable} (ht : t.Open) : t.continued [] = t := by
  unfold continued
  cases hl : t.last with
  | none => rfl
  | some name =>
    obtain ⟨value, hv⟩ := Option.isSome_iff_exists.1 (ht name hl)
    have hsame : t.fields.insert name value = t.fields := NameMap.insert_of_get? hv
    simp only [hv, List.map_nil, List.foldl_nil, Option.getD_some, hsame]
    rw [← hl]

theorem last_continued (t : FieldTable) (lines : List String) :
    (t.continued lines).last = t.last := by
  unfold continued
  cases hl : t.last <;> simp [hl]

theorem continued_continued {t : FieldTable} (first second : List String) :
    (t.continued first).continued second = t.continued (first ++ second) := by
  unfold continued
  cases hl : t.last with
  | none => simp [hl]
  | some name => simp [NameMap.get?_insert, NameMap.insert_insert]

theorem store_continued (t : FieldTable) (line : String) (later : List String) :
    (t.store (nameOf line, trimmed (textOf line))).continued later =
      t.store (nameOf line, joined (textOf line :: later)) := by
  simp [continued, store, NameMap.get?_insert, NameMap.insert_insert, joined_cons]

/-- Lines fill a table if each of them is a field or has something to continue. -/
theorem foldlM_addLine_eq_ok_iff {lines : List String} {t t' : FieldTable} (ht : t.Open) :
    (lines.map toBytes).foldlM addLine t = .ok t' ↔
      (∀ line ∈ lines.head?, isContinuation line = true → t.last.isSome = true) ∧
      (∀ line ∈ lines, isContinuation line = false → IsField line) ∧
      t' = (fieldsOf lines).foldl store (t.continued (lines.takeWhile isContinuation)) := by
  -- continuations in front belong to the last field of `t`, whose value has to be there
  induction lines generalizing t with
  | nil =>
    simp only [List.map_nil, List.foldlM_nil, fieldsOf, List.takeWhile_nil, continued_nil ht,
      List.foldl_nil]
    exact ⟨fun h => ⟨fun _ hm => (nomatch hm), fun _ hm => (nomatch hm), (Except.ok.inj h).symm⟩,
      fun h => congrArg Except.ok h.2.2.symm⟩
  | cons line later ih =>
    rw [List.map_cons, List.foldlM_cons, bind_eq_ok_iff, List.forall_mem_cons]
    cases hc : isContinuation line with
    | true =>
      -- the line belongs to the field that is open, and so do the continuations behind it
      have hstep (u : FieldTable) : t.addLine (toBytes line) = .ok u ↔
          t.last.isSome = true ∧ u = t.continued [line] := by
        rw [addLine_toBytes, if_pos hc, addContinuation_eq_ok_iff]
      have hrest := ih (open_continued ht [line])
      rw [continued_continued, last_continued, List.singleton_append] at hrest
      simp only [hstep, fieldsOf, hc, List.takeWhile_cons, if_true]
      constructor
      · rintro ⟨u, ⟨hl, rfl⟩, h⟩
        obtain ⟨-, hfields, ht'⟩ := hrest.1 h
        exact ⟨fun _ _ _ => hl, ⟨fun hf => (nomatch hf), hfields⟩, ht'⟩
      · rintro ⟨hhead, ⟨-, hfields⟩, ht'⟩
        have hl := hhead line rfl hc
        exact ⟨_, ⟨hl, rfl⟩, hrest.2 ⟨fun _ _ _ => hl, hfields, ht'⟩⟩
    | false =>
      -- the line opens a field, and the continuations behind it go to that one
      have hstep (u : FieldTable) : t.addLine (toBytes line) = .ok u ↔
          IsField line ∧ u = t.store (nameOf line, trimmed (textOf line)) := by
        rw [addLine_toBytes, if_neg (by simp [hc]), addField_eq_ok_iff]
      have hrest := ih (open_store t (nameOf line, trimmed (textOf line)))
      rw [store_continued] at hrest
      simp only [hstep, fieldsOf, hc, List.takeWhile_cons, Bool.false_eq_true, if_false,
        continued_nil ht, List.foldl_cons]
      constructor
      · rintro ⟨u, ⟨hf, rfl⟩, h⟩
        obtain ⟨-, hfields, ht'⟩ := hrest.1 h
        refine ⟨fun l hm hcont => ?_, ⟨fun _ => hf, hfields⟩, ht'⟩
        rw [← Option.some.inj hm, hc] at hcont
        cases hcont
      · rintro ⟨-, ⟨hf, hfields⟩, ht'⟩
        exact ⟨_, ⟨hf trivial, rfl⟩, hrest.2 ⟨fun _ _ _ => rfl, hfields, ht'⟩⟩

/-- The table of a header block holds its fields in order, later ones in the place of earlier
ones. -/
theorem ofLines_eq_ok_iff {lines : List String} {t : FieldTable} :
    ofLines (lines.map toBytes) = .ok t ↔
      WellFormed lines ∧ t = (fieldsOf lines).foldl store {} := by
  have hopen : Open {} := fun _ hm => (nomatch hm)
  rw [ofLines, foldlM_addLine_eq_ok_iff hopen]
  constructor
  · rintro ⟨hhead, hfields, ht⟩
    exact ⟨⟨fun l hm => Bool.eq_false_iff.2 fun hc => (nomatch hhead l hm hc), hfields⟩, ht⟩
  · rintro ⟨hw, ht⟩
    refine ⟨fun l hm hc => ?_, hw.field, ht⟩
    rw [hw.first l hm] at hc
    cases hc

theorem get?_foldl_store (es : List (String × String)) (t : FieldTable) (key : String) :
    (es.foldl store t).fields.get? key =
      ((es.reverse.find? (FieldName.canonicalName ·.1 == key)).map (·.2)).or
        (t.fields.get? key) := by
  induction es generalizing t with
  | nil => rfl
  | cons e es ih =>
    rw [List.foldl_cons, ih, List.reverse_cons, List.find?_append]
    -- a later field of the name hides `e`, whichever value `e` stores
    by_cases hk : FieldName.canonicalName e.1 = key
    · cases es.reverse.find? (FieldName.canonicalName ·.1 == key) <;>
        simp [store, NameMap.get?_insert, hk]
    · have hk' : ¬key = FieldName.canonicalName e.1 := fun h => hk h.symm
      cases es.reverse.find? (FieldName.canonicalName ·.1 == key) <;>
        simp [store, NameMap.get?_insert, hk, hk']

/-- The table of a header block under a canonical name, and under any other text. -/
theorem get?_ofLines {lines : List String} (hw : WellFormed lines) (name : String) :
    ((fieldsOf lines).foldl store {}).fields.get? name =
      if FieldName.isToken name = true ∧ FieldName.canonicalName name = name
      then finalValue? lines name else none := by
  have htoken {e : String × String} (he : e ∈ (fieldsOf lines).reverse) :
      FieldName.isToken e.1 = true :=
    isToken_of_mem_fieldsOf hw.field (List.mem_reverse.1 he)
  have hnone : NameMap.get? (FieldTable.fields {}) name = none := rfl
  rw [get?_foldl_store, hnone, Option.or_none]
  -- keys of the table are canonical spellings of tokens, so nothing is found under other texts
  split
  · rename_i hn
    have hsame : ∀ e ∈ (fieldsOf lines).reverse,
        (FieldName.canonicalName e.1 == name) = FieldName.sameName e.1 name := by
      intro e he
      rw [Bool.eq_iff_iff, beq_iff_eq, ← FieldName.canonicalName_eq_iff (htoken he) hn.1, hn.2]
    rw [finalValue?, List.find?_congr hsame]
  · rename_i hn
    rw [Option.map_eq_none_iff, List.find?_eq_none]
    intro e he hname
    rw [beq_iff_eq] at hname
    subst hname
    exact hn ⟨FieldName.isToken_canonicalName (htoken he),
      FieldName.canonicalName_canonicalName e.1⟩

end FieldTable

end Pipework
