import Pipework.Proofs.Json.Scalars
import Pipework.Proofs.NameMap

/-! Arrays, objects and whole values are read back from what has been written. Each reader of a list
is compared with the written list item by item, and what follows an item is a comma or a bracket, so
nothing can be taken for more of it. -/

namespace Pipework.Json

variable {α β : Type} {item : Reader α} {text : List Char} {x : α}

theorem endsNumeral_cons {c : Char} (hd : c.isDigit = false) (hp : c ≠ '.') (he : c ≠ 'e')
    (hE : c ≠ 'E') (cs : List Char) : EndsNumeral (c :: cs) := by
  intro d hm
  obtain rfl := Option.some.inj hm
  exact ⟨hd, hp, he, hE⟩

/-- A reader that only changes what another one has found. -/
theorem Reads.map (h : Reads item text x) (f : α → β) :
    Reads (fun cs => (item cs).map fun ⟨y, rest, h'⟩ => ⟨f y, rest, h'⟩) text (f x) := by
  refine ⟨h.starts, fun rest hrest => ?_⟩
  obtain ⟨h', hfound⟩ := h.found rest hrest
  exact ⟨h', by rw [hfound]; rfl⟩

/-! ### Texts with commas between them -/

/-- Texts with a comma in front of each. -/
def afterCommas (ts : List String) : List Char := ts.flatMap fun t => ',' :: t.toList

theorem toList_commaSeparated_cons (t : String) (ts : List String) :
    (commaSeparated (t :: ts)).toList = t.toList ++ afterCommas ts := by
  induction ts generalizing t with
  | nil => simp [commaSeparated, afterCommas]
  | cons u ts ih =>
    have hcomma : ",".toList = [','] := rfl
    rw [commaSeparated, String.intercalate_cons_cons, String.toList_append, String.toList_append,
      ← commaSeparated, ih, hcomma, afterCommas, afterCommas, List.flatMap_cons, List.append_assoc]
    rfl

/-- Behind an item comes the next one, or the closing bracket. -/
theorem endsNumeral_afterCommas (ts : List String) {c : Char} (hc : c = ']' ∨ c = '\x7d')
    (rest : List Char) : EndsNumeral (afterCommas ts ++ c :: rest) := by
  cases ts with
  | nil =>
    rcases hc with rfl | rfl <;>
      exact endsNumeral_cons rfl (by decide) (by decide) (by decide) rest
  | cons t ts => exact endsNumeral_cons rfl (by decide) (by decide) (by decide) _

/-! ### Arrays -/

theorem nextItem_close (first : Bool) (rest : List Char) :
    ∃ h, nextItem first (']' :: rest) = .ok (.finished rest h) :=
  ⟨Nat.lt_succ_self _, rfl⟩

theorem nextItem_first {c : Char} (hblank : isBlank c = false) (hbracket : c ≠ ']')
    (cs : List Char) : ∃ h, nextItem true (c :: cs) = .ok (.more (c :: cs) h) := by
  refine ⟨Nat.le_refl _, ?_⟩
  unfold nextItem
  split
  · rename_i hskip
    rw [skipBlanks_cons hblank] at hskip
    cases hskip
  · rename_i d rest hskip
    rw [skipBlanks_cons hblank] at hskip
    obtain ⟨rfl, rfl⟩ := List.cons.inj hskip
    rw [if_neg hbracket, if_pos rfl]

theorem nextItem_comma {c : Char} (hblank : isBlank c = false) (hbracket : c ≠ ']')
    (cs : List Char) : ∃ h, nextItem false (',' :: c :: cs) = .ok (.more (c :: cs) h) := by
  refine ⟨Nat.le_succ _, ?_⟩
  unfold nextItem
  split
  · rename_i hskip
    cases hskip
  · rename_i d rest hskip
    obtain ⟨rfl, rfl⟩ := List.cons.inj hskip
    rw [if_neg (by decide), if_neg Bool.false_ne_true, if_pos rfl]
    split
    · rename_i hskip'
      rw [skipBlanks_cons hblank] at hskip'
      cases hskip'
    · rename_i d rest' hskip'
      rw [skipBlanks_cons hblank] at hskip'
      obtain ⟨rfl, rfl⟩ := List.cons.inj hskip'
      rw [if_neg hbracket]

variable {ts : List String} {xs : List α}

theorem readItemsFrom_of_next {first : Bool} {done : List α} {cs text rest : List Char}
    (hnext : ∃ h, nextItem first cs = .ok (.more text h))
    (hitem : ∃ h, item text = .ok ⟨x, rest, h⟩) :
    readItemsFrom item first done cs = readItemsFrom item false (x :: done) rest := by
  obtain ⟨h, hnext⟩ := hnext
  obtain ⟨h', hitem⟩ := hitem
  rw [readItemsFrom, hnext]
  simp only [hitem]

theorem readItemsFrom_afterCommas (h : List.Forall₂ (fun t x => Reads item t.toList x) ts xs)
    (done : List α) (rest : List Char) :
    readItemsFrom item false done (afterCommas ts ++ ']' :: rest) =
      .ok (done.reverse ++ xs, rest) := by
  induction h generalizing done with
  | nil =>
    obtain ⟨h, hnext⟩ := nextItem_close false rest
    change readItemsFrom item false done (']' :: rest) = _
    rw [readItemsFrom, hnext, List.append_nil]
  | @cons t x ts xs ht _ ih =>
    -- the start of the item has to be seen, since a bracket behind the comma is an error
    obtain ⟨c, cs, htext, hblank, hbracket⟩ := ht.starts
    have hnext := nextItem_comma hblank hbracket (cs ++ (afterCommas ts ++ ']' :: rest))
    have hitem := ht.found (afterCommas ts ++ ']' :: rest)
      (endsNumeral_afterCommas ts (.inl rfl) rest)
    have hsplit : afterCommas (t :: ts) ++ ']' :: rest =
        ',' :: c :: (cs ++ (afterCommas ts ++ ']' :: rest)) := by
      simp [afterCommas, htext]
    rw [htext] at hitem
    rw [hsplit, readItemsFrom_of_next hnext hitem, ih, List.reverse_cons, List.append_assoc,
      List.singleton_append]

theorem readItems_eq_ok {cs rest : List Char}
    (h : readItemsFrom item true [] cs = .ok (xs, rest)) :
    ∃ h', readItems item cs = .ok ⟨xs, rest, h'⟩ := by
  refine ⟨length_lt_of_readItemsFrom h, ?_⟩
  unfold readItems
  split
  · rename_i e he
    cases h.symm.trans he
  · rename_i ys rest' hys
    cases h.symm.trans hys
    rfl

theorem readItems_commaSeparated (h : List.Forall₂ (fun t x => Reads item t.toList x) ts xs)
    (rest : List Char) :
    ∃ h', readItems item ((commaSeparated ts).toList ++ ']' :: rest) = .ok ⟨xs, rest, h'⟩ := by
  apply readItems_eq_ok
  cases h with
  | nil =>
    obtain ⟨h, hnext⟩ := nextItem_close true rest
    change readItemsFrom item true [] (']' :: rest) = _
    rw [readItemsFrom, hnext]
    rfl
  | @cons t x ts xs ht hts =>
    obtain ⟨c, cs, htext, hblank, hbracket⟩ := ht.starts
    have hnext := nextItem_first hblank hbracket (cs ++ (afterCommas ts ++ ']' :: rest))
    have hitem := ht.found (afterCommas ts ++ ']' :: rest)
      (endsNumeral_afterCommas ts (.inl rfl) rest)
    have hsplit : (commaSeparated (t :: ts)).toList ++ ']' :: rest =
        c :: (cs ++ (afterCommas ts ++ ']' :: rest)) := by
      rw [toList_commaSeparated_cons, htext]
      simp
    rw [htext] at hitem
    rw [hsplit, readItemsFrom_of_next hnext hitem, readItemsFrom_afterCommas hts]
    rfl

theorem toList_writeArray (ts : List String) :
    (writeArray ts).toList = '[' :: ((commaSeparated ts).toList ++ [']']) := by
  simp [writeArray]

theorem reads_array {write : α → String} (h : ∀ x ∈ xs, Reads item (write x).toList x) :
    Reads (readArray item) (writeArray (xs.map write)).toList xs := by
  have hall : List.Forall₂ (fun t x => Reads item t.toList x) (xs.map write) xs := by
    rw [List.forall₂_map_left_iff, List.forall₂_same]
    exact h
  rw [toList_writeArray]
  refine ⟨⟨'[', _, rfl, rfl, by decide⟩, fun rest _ => ?_⟩
  have htext : '[' :: ((commaSeparated (xs.map write)).toList ++ [']']) ++ rest =
      '[' :: ((commaSeparated (xs.map write)).toList ++ ']' :: rest) := by simp
  obtain ⟨h', hitems⟩ := readItems_commaSeparated hall rest
  rw [htext]
  refine ⟨Nat.lt_succ_of_lt h', ?_⟩
  change (readItems item _).map _ = _
  rw [hitems]
  rfl

/-! ### Objects -/

theorem Reads.member (h : Reads item text x) : Reads (readMember item) (':' :: text) x := by
  refine ⟨⟨':', text, rfl, rfl, by decide⟩, fun rest hrest => ?_⟩
  obtain ⟨h', hfound⟩ := h.found rest hrest
  have hcolon : readColon (':' :: (text ++ rest)) =
      .ok ⟨(), text ++ rest, Nat.lt_succ_self _⟩ := rfl
  refine ⟨Nat.lt_succ_of_lt h', ?_⟩
  change (readColon (':' :: (text ++ rest)) >>= _) = _
  rw [hcolon, ok_bind]
  simp only [hfound]
  rfl

/-- Written members that lead from what was found before them to what is found with them. -/
inductive Fills (step : α → String → Reader α) : α → List (String × String) → α → Prop
  | nil (x : α) : Fills step x [] x
  | cons {x y z : α} {m : String × String} {ms : List (String × String)} :
      Reads (step x m.1) (':' :: m.2.toList) y → Fills step y ms z → Fills step x (m :: ms) z

theorem Fills.append {step : α → String → Reader α} {x y z : α} {ms ms' : List (String × String)}
    (h : Fills step x ms y) (h' : Fills step y ms' z) : Fills step x (ms ++ ms') z := by
  induction h with
  | nil => exact h'
  | cons hm _ ih => exact .cons hm (ih h')

theorem nextMember_close (first : Bool) (rest : List Char) :
    ∃ h, nextMember first ('\x7d' :: rest) = .ok (.finished rest h) :=
  ⟨Nat.lt_succ_self _, rfl⟩

theorem nextMember_first (cs : List Char) :
    ∃ h, nextMember true ('"' :: cs) = .ok (.more cs h) :=
  ⟨Nat.le_succ _, rfl⟩

theorem nextMember_comma (cs : List Char) :
    ∃ h, nextMember false (',' :: '"' :: cs) = .ok (.more cs h) :=
  ⟨Nat.le_succ_of_le (Nat.le_succ _), rfl⟩

theorem toList_writeMember (name value : String) :
    (writeMember name value).toList =
      '"' :: (name.toList.flatMap escapeChar ++ '"' :: ':' :: value.toList) := by
  simp [writeMember, writeString]

variable {step : α → String → Reader α} {y z : α} {ms : List (String × String)}

theorem readMembersFrom_of_next {first : Bool} {m : String × String} {cs rest : List Char}
    (hnext : ∃ h, nextMember first cs =
      .ok (.more (m.1.toList.flatMap escapeChar ++ '"' :: (':' :: m.2.toList ++ rest)) h))
    (hstep : Reads (step x m.1) (':' :: m.2.toList) y) (hrest : EndsNumeral rest) :
    readMembersFrom step first x cs = readMembersFrom step false y rest := by
  obtain ⟨h, hnext⟩ := hnext
  obtain ⟨h', hname⟩ := readStringBody_escaped m.1 (':' :: m.2.toList ++ rest)
  obtain ⟨h'', hvalue⟩ := hstep.found rest hrest
  rw [readMembersFrom, hnext]
  simp only [hname, hvalue]

theorem readMembersFrom_afterCommas (h : Fills step x ms y) (rest : List Char) :
    readMembersFrom step false x
      (afterCommas (ms.map fun m => writeMember m.1 m.2) ++ '\x7d' :: rest) = .ok (y, rest) := by
  induction h with
  | nil x =>
    obtain ⟨h, hnext⟩ := nextMember_close false rest
    change readMembersFrom step false x ('\x7d' :: rest) = _
    rw [readMembersFrom, hnext]
  | @cons x y z m ms hm _ ih =>
    have hsplit : afterCommas ((m :: ms).map fun m => writeMember m.1 m.2) ++ '\x7d' :: rest =
        ',' :: '"' :: (m.1.toList.flatMap escapeChar ++ '"' :: (':' :: m.2.toList ++
          (afterCommas (ms.map fun m => writeMember m.1 m.2) ++ '\x7d' :: rest))) := by
      simp [afterCommas, toList_writeMember]
    rw [hsplit, readMembersFrom_of_next (nextMember_comma _) hm
      (endsNumeral_afterCommas _ (.inr rfl) rest), ih]

theorem readMembers_eq_ok {cs rest : List Char}
    (h : readMembersFrom step true x cs = .ok (y, rest)) :
    ∃ h', readMembers step x cs = .ok ⟨y, rest, h'⟩ := by
  refine ⟨length_lt_of_readMembersFrom h, ?_⟩
  unfold readMembers
  split
  · rename_i e he
    cases h.symm.trans he
  · rename_i y' rest' hy
    cases h.symm.trans hy
    rfl

theorem readMembers_commaSeparated (h : Fills step x ms y) (rest : List Char) :
    ∃ h', readMembers step x
      ((commaSeparated (ms.map fun m => writeMember m.1 m.2)).toList ++ '\x7d' :: rest) =
        .ok ⟨y, rest, h'⟩ := by
  apply readMembers_eq_ok
  cases h with
  | nil =>
    obtain ⟨h, hnext⟩ := nextMember_close true rest
    change readMembersFrom step true x ('\x7d' :: rest) = _
    rw [readMembersFrom, hnext]
  | @cons _ y _ m ms hm hms =>
    have hsplit : (commaSeparated ((m :: ms).map fun m => writeMember m.1 m.2)).toList ++
        '\x7d' :: rest = '"' :: (m.1.toList.flatMap escapeChar ++ '"' :: (':' :: m.2.toList ++
          (afterCommas (ms.map fun m => writeMember m.1 m.2) ++ '\x7d' :: rest))) := by
      rw [List.map_cons, toList_commaSeparated_cons, toList_writeMember]
      simp
    rw [hsplit, readMembersFrom_of_next (nextMember_first _) hm
      (endsNumeral_afterCommas _ (.inr rfl) rest), readMembersFrom_afterCommas hms]

theorem toList_writeObject (ms : List (String × String)) :
    (writeObject ms).toList =
      '\x7b' :: ((commaSeparated (ms.map fun m => writeMember m.1 m.2)).toList ++ ['\x7d']) := by
  simp [writeObject]

/-- A reader that passes the members on to `step` reads the whole object. -/
theorem reads_object {item : Reader β} {b : β} (h : Fills step x ms y)
    (hitem : ∀ cs rest, (∃ h', readMembers step x cs = .ok ⟨y, rest, h'⟩) →
      ∃ h', item ('\x7b' :: cs) = .ok ⟨b, rest, h'⟩) :
    Reads item (writeObject ms).toList b := by
  rw [toList_writeObject]
  refine ⟨⟨'\x7b', _, rfl, rfl, by decide⟩, fun rest _ => ?_⟩
  have htext : '\x7b' :: ((commaSeparated (ms.map fun m => writeMember m.1 m.2)).toList ++
      ['\x7d']) ++ rest =
        '\x7b' :: ((commaSeparated (ms.map fun m => writeMember m.1 m.2)).toList ++
          '\x7d' :: rest) := by simp
  rw [htext]
  exact hitem _ _ (readMembers_commaSeparated h rest)

theorem fills_tableStep {write : α → String} {es : List (String × α)}
    (h : ∀ e ∈ es, Reads item (write e.2).toList e.2) (table : NameMap α) :
    Fills (tableStep item) table (es.map fun e => (e.1, write e.2))
      (es.foldl (fun t e => t.insert e.1 e.2) table) := by
  induction es generalizing table with
  | nil => exact .nil table
  | cons e es ih =>
    obtain ⟨he, hes⟩ := List.forall_mem_cons.1 h
    exact .cons (he.member.map fun x => table.insert e.1 x) (ih hes _)

/-- The entries of a table are taken in one by one, and make the table they came from. -/
theorem fills_table {write : α → String} {t : NameMap α}
    (h : ∀ e ∈ t.entries, Reads item (write e.2).toList e.2) :
    Fills (tableStep item) ∅ (t.entries.map fun e => (e.1, write e.2)) t := by
  have hfills := fills_tableStep h ∅
  rwa [← NameMap.ofList, NameMap.ofList_entries] at hfills

theorem reads_table {write : α → String} {t : NameMap α}
    (h : ∀ e ∈ t.entries, Reads item (write e.2).toList e.2) :
    Reads (readTable item) (writeObject (t.entries.map fun e => (e.1, write e.2))).toList t := by
  apply reads_object (fills_table h)
  rintro cs rest ⟨h', hmembers⟩
  refine ⟨Nat.lt_succ_of_lt h', ?_⟩
  change (readMembers (tableStep item) ∅ cs).map _ = _
  rw [hmembers]
  rfl

/-! ### Whole values -/

mutual

/-- How deep arrays and objects are nested in a value. -/
def depth : Json → ℕ
  | .array items => depthItems items + 1
  | .object members => depthMembers members + 1
  | _ => 0

/-- How deep the items of an array are nested. -/
def depthItems : List Json → ℕ
  | [] => 0
  | x :: xs => max (depth x) (depthItems xs)

/-- How deep the members of an object are nested. -/
def depthMembers : List (String × Json) → ℕ
  | [] => 0
  | (_, x) :: ms => max (depth x) (depthMembers ms)

end

theorem depthItems_le_iff {items : List Json} {n : ℕ} :
    depthItems items ≤ n ↔ ∀ x ∈ items, x.depth ≤ n := by
  induction items with
  | nil => simp [depthItems]
  | cons x items ih => rw [depthItems, Nat.max_le, ih, List.forall_mem_cons]

theorem depthMembers_le_iff {members : List (String × Json)} {n : ℕ} :
    depthMembers members ≤ n ↔ ∀ m ∈ members, m.2.depth ≤ n := by
  induction members with
  | nil => simp [depthMembers]
  | cons m members ih => rw [depthMembers, Nat.max_le, ih, List.forall_mem_cons]

theorem depth_array_le_iff {items : List Json} {n : ℕ} :
    (Json.array items).depth ≤ n + 1 ↔ ∀ x ∈ items, x.depth ≤ n := by
  rw [depth, Nat.succ_le_succ_iff, depthItems_le_iff]

theorem depth_object_le_iff {members : List (String × Json)} {n : ℕ} :
    (Json.object members).depth ≤ n + 1 ↔ ∀ m ∈ members, m.2.depth ≤ n := by
  rw [depth, Nat.succ_le_succ_iff, depthMembers_le_iff]

/-- Values without doubles. Whole numbers fit a signed or an unsigned machine word, and no object
has two members of one name. -/
inductive Plain : Json → Prop
  | null : Plain .null
  | bool (b : Bool) : Plain (.bool b)
  | whole {n : ℤ} : -(Text.wordBound / 2 : ℕ) ≤ n → n < Text.wordBound → Plain (.number (.whole n))
  | string (s : String) : Plain (.string s)
  | array {items : List Json} : (∀ x ∈ items, Plain x) → Plain (.array items)
  | object {members : List (String × Json)} : members.Pairwise (fun a b => a.1 < b.1) →
      (∀ m ∈ members, Plain m.2) → Plain (.object members)

theorem writeItems_eq_map (items : List Json) : writeItems items = items.map write := by
  induction items with
  | nil => rfl
  | cons x items ih => rw [writeItems, ih, List.map_cons]

theorem writeMembers_eq_map (members : List (String × Json)) :
    writeMembers members = members.map fun m => (m.1, m.2.write) := by
  induction members with
  | nil => rfl
  | cons m members ih => rw [writeMembers, ih, List.map_cons]

/-- The start of a text decides which reader goes on with it. -/
theorem Reads.of_starts {item' : Reader α} (h : Reads item text x)
    (heq : ∀ c cs, text = c :: cs → isBlank c = false → ∀ rest,
      item' (c :: (cs ++ rest)) = item (c :: (cs ++ rest))) : Reads item' text x := by
  obtain ⟨c, cs, rfl, hblank, hbracket⟩ := h.starts
  refine ⟨⟨c, cs, rfl, hblank, hbracket⟩, fun rest hrest => ?_⟩
  obtain ⟨h', hfound⟩ := h.found rest hrest
  exact ⟨h', (heq c cs rfl hblank rest).trans hfound⟩

theorem readValue_scalar (levels : ℕ) {c : Char} (hblank : isBlank c = false) (hsquare : c ≠ '[')
    (hcurly : c ≠ '\x7b') (cs : List Char) :
    readValue levels (c :: cs) = readScalar (c :: cs) := by
  unfold readValue
  split
  · rename_i hskip
    rw [skipBlanks_cons hblank] at hskip
    exact absurd (List.cons.inj hskip).1 hsquare
  · rename_i hskip
    rw [skipBlanks_cons hblank] at hskip
    exact absurd (List.cons.inj hskip).1 hcurly
  · rfl

theorem Reads.value {x : Json} (h : Reads readScalar text x) (levels : ℕ) :
    Reads (readValue levels) text x := by
  apply h.of_starts
  rintro c cs rfl hblank rest
  exact readValue_scalar levels hblank h.ne_bracket.1 h.ne_bracket.2 _

theorem reads_value_array {levels : ℕ} {items : List Json}
    (h : ∀ x ∈ items, Reads (readValue levels) x.write.toList x) :
    Reads (readValue (levels + 1)) (Json.array items).write.toList (.array items) := by
  rw [write, writeItems_eq_map]
  -- behind the bracket, both readers read the same items
  apply ((reads_array h).map Json.array).of_starts
  intro c cs htext _ rest
  obtain ⟨rfl, -⟩ := List.cons.inj ((toList_writeArray _).symm.trans htext)
  change (readItems (readValue levels) (cs ++ rest)).map _ = Except.map _ (Except.map _ _)
  cases readItems (readValue levels) (cs ++ rest) <;> rfl

theorem reads_value_object {levels : ℕ} {members : List (String × Json)}
    (hsorted : members.Pairwise fun a b => a.1 < b.1)
    (h : ∀ m ∈ members, Reads (readValue levels) m.2.write.toList m.2) :
    Reads (readValue (levels + 1)) (Json.object members).write.toList (.object members) := by
  have htable := reads_table (t := ⟨members, hsorted⟩) h
  rw [write, writeMembers_eq_map]
  apply (htable.map fun t => Json.object t.entries).of_starts
  intro c cs htext _ rest
  obtain ⟨rfl, -⟩ := List.cons.inj ((toList_writeObject _).symm.trans htext)
  change (readMembers _ ∅ (cs ++ rest)).map _ = Except.map _ (Except.map _ _)
  cases readMembers (tableStep (readValue levels)) ∅ (cs ++ rest) <;> rfl

/-- A plain value is read back as it was written, if it is nested no deeper than allowed. -/
theorem Plain.reads {x : Json} (h : x.Plain) {levels : ℕ} (hdepth : x.depth ≤ levels) :
    Reads (readValue levels) x.write.toList x := by
  -- each bracket takes one level, so the levels vary with the value
  induction h generalizing levels with
  | null =>
    have hword : Reads readScalar ['n', 'u', 'l', 'l'] .null := reads_word (by simp [wordValues])
    exact hword.value levels
  | bool b =>
    have htrue : Reads readScalar ['t', 'r', 'u', 'e'] (.bool true) :=
      reads_word (by simp [wordValues])
    have hfalse : Reads readScalar ['f', 'a', 'l', 's', 'e'] (.bool false) :=
      reads_word (by simp [wordValues])
    cases b with
    | true => exact htrue.value levels
    | false => exact hfalse.value levels
  | whole hlow hhigh => exact (reads_whole hlow hhigh).value levels
  | string s => exact (reads_string_value s).value levels
  | array _ ih =>
    cases levels with
    | zero => exact absurd hdepth (Nat.not_succ_le_zero _)
    | succ levels => exact reads_value_array fun x hx => ih x hx (depth_array_le_iff.1 hdepth x hx)
  | object hsorted _ ih =>
    cases levels with
    | zero => exact absurd hdepth (Nat.not_succ_le_zero _)
    | succ levels =>
      exact reads_value_object hsorted fun m hm => ih m hm (depth_object_le_iff.1 hdepth m hm)

theorem Reads.value_eq_null {levels : ℕ} {cs : List Char} {x : Json}
    (h : Reads (readValue levels) ('n' :: cs) x) : x = .null := by
  have hscalar : Reads readScalar ('n' :: cs) x := by
    apply h.of_starts
    intro c cs' htext hblank rest
    obtain ⟨rfl, -⟩ := List.cons.inj htext
    exact (readValue_scalar levels hblank (by decide) (by decide) _).symm
  exact hscalar.eq_null

/-- What does not start like a null is read as a value that is there. -/
theorem Reads.optional (h : Reads item text x) (hnull : text.head? ≠ some 'n') :
    Reads (readOptional item) text (some x) := by
  apply (h.map some).of_starts
  rintro c cs rfl hblank rest
  have hn : c ≠ 'n' := fun hc => hnull (congrArg some hc)
  unfold readOptional
  split
  · rename_i hskip
    rw [skipBlanks_cons hblank] at hskip
    exact absurd (List.cons.inj hskip).1 hn
  · rfl

theorem readDocument_eq_ok {text : String} (h : Reads item text.toList x) :
    readDocument item text = .ok x := by
  have hfound := h.found [] nofun
  rw [List.append_nil] at hfound
  obtain ⟨h', hfound⟩ := hfound
  rw [readDocument, hfound]
  rfl

end Pipework.Json
