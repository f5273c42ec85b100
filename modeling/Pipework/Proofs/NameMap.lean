import Mathlib.Data.List.Nodup
import Pipework.NameMap

/-! Tables through their look-ups. A table is known by the values of its names, so two ways to
build one are compared name by name. -/

namespace Pipework.NameMap

universe u

variable {α : Type u} {β : Type u}

theorem lookup_cons_ite (a : String) (e : String × α) (es : List (String × α)) :
    (e :: es).lookup a = if a = e.1 then some e.2 else es.lookup a := by
  rw [List.lookup_cons]
  by_cases h : a = e.1
  · simp [h]
  · rw [if_neg h, beq_eq_false_iff_ne.2 h]

theorem lookup_insertEntry (a b : String) (x : α) (es : List (String × α)) :
    (insertEntry a x es).lookup b = if b = a then some x else es.lookup b := by
  induction es with
  | nil => rw [insertEntry, lookup_cons_ite]
  | cons e es ih =>
    unfold insertEntry
    split
    · rw [lookup_cons_ite]
    · split
      · rename_i he
        rw [lookup_cons_ite, lookup_cons_ite, ← he]
        by_cases h : b = a <;> simp [h]
      · rename_i he
        rw [lookup_cons_ite, lookup_cons_ite, ih]
        by_cases h : b = a
        · rw [if_pos h, if_pos h, if_neg (h ▸ he)]
        · rw [if_neg h, if_neg h]

@[simp] theorem get?_empty (a : String) : (∅ : NameMap α).get? a = none := rfl

theorem get?_insert (m : NameMap α) (a b : String) (x : α) :
    (m.insert a x).get? b = if b = a then some x else m.get? b :=
  lookup_insertEntry a b x m.entries

/-- Of the entries for some keys, a look-up finds what it finds among all entries. -/
theorem lookup_filter {κ : Type} [BEq κ] [LawfulBEq κ] (f : κ → Bool) (k : κ)
    (es : List (κ × α)) :
    (es.filter fun e => f e.1).lookup k = if f k then es.lookup k else none := by
  induction es with
  | nil => simp
  | cons e es ih =>
    obtain ⟨key, x⟩ := e
    rw [List.filter_cons]
    by_cases hk : k = key
    · subst hk
      cases hf : f k <;> simp [hf, ih]
    · have hne : (k == key) = false := beq_eq_false_iff_ne.2 hk
      cases hf : f key <;> simp [List.lookup_cons, hne, ih]

theorem get?_eraseAll (m : NameMap α) (p : String → Bool) (a : String) :
    (m.eraseAll p).get? a = if p a then none else m.get? a := by
  change (m.entries.filter (fun e => !p e.1)).lookup a = if p a then none else m.entries.lookup a
  rw [lookup_filter (fun name => !p name)]
  cases p a <;> rfl

theorem get?_erase (m : NameMap α) (a b : String) :
    (m.erase a).get? b = if b = a then none else m.get? b := by
  rw [erase, get?_eraseAll]
  simp

theorem get?_mapValues (m : NameMap α) (f : String → α → β) (a : String) :
    (m.mapValues f).get? a = (m.get? a).map (f a) := by
  change (m.entries.map (fun e => (e.1, f e.1 e.2))).lookup a = (m.entries.lookup a).map (f a)
  induction m.entries with
  | nil => rfl
  | cons e es ih =>
    rw [List.map_cons, lookup_cons_ite, lookup_cons_ite, ih]
    by_cases h : a = e.1 <;> simp [h]

theorem mapValues_mapValues {γ : Type u} (m : NameMap α) (f : String → α → β)
    (k : String → β → γ) :
    (m.mapValues f).mapValues k = m.mapValues fun name x => k name (f name x) := by
  unfold mapValues
  congr 1
  rw [List.map_map]
  rfl

theorem names_sorted (m : NameMap α) : m.names.Pairwise (· < ·) := by
  rw [names, List.pairwise_map]
  exact m.sorted

/-- Names are in strict order, so none stands twice. -/
theorem nodup_names (m : NameMap α) : m.names.Nodup := by
  rw [List.nodup_iff_pairwise_ne]
  refine m.names_sorted.imp ?_
  intro a b hlt heq
  rw [heq] at hlt
  exact String.lt_irrefl _ hlt

theorem lookup_eq_some_of_mem {es : List (String × α)} (hn : (es.map Prod.fst).Nodup)
    {a : String} {x : α} (h : (a, x) ∈ es) : es.lookup a = some x := by
  induction es with
  | nil => cases h
  | cons e es ih =>
    rw [List.map_cons, List.nodup_cons] at hn
    rcases List.mem_cons.1 h with rfl | h
    · exact List.lookup_cons_self
    · have hne : a ≠ e.1 := by
        intro he
        exact hn.1 (he ▸ List.mem_map_of_mem (f := Prod.fst) h)
      rw [lookup_cons_ite, if_neg hne]
      exact ih hn.2 h

theorem mem_of_lookup_eq_some {es : List (String × α)} {a : String} {x : α}
    (h : es.lookup a = some x) : (a, x) ∈ es := by
  obtain ⟨l, r, rfl, -⟩ := List.lookup_eq_some_iff.1 h
  simp

theorem mem_entries_iff {m : NameMap α} {a : String} {x : α} :
    (a, x) ∈ m.entries ↔ m.get? a = some x :=
  ⟨lookup_eq_some_of_mem m.nodup_names, mem_of_lookup_eq_some⟩

theorem forall_entries_iff {m : NameMap α} {P : String × α → Prop} :
    (∀ e ∈ m.entries, P e) ↔ ∀ name x, m.get? name = some x → P (name, x) :=
  ⟨fun h name x hx => h (name, x) (mem_entries_iff.2 hx),
    fun h e he => h e.1 e.2 (mem_entries_iff.1 he)⟩

theorem mem_names_iff {m : NameMap α} {a : String} : a ∈ m.names ↔ (m.get? a).isSome := by
  rw [Option.isSome_iff_exists, names, List.mem_map]
  constructor
  · rintro ⟨⟨b, x⟩, hm, rfl⟩
    exact ⟨x, mem_entries_iff.1 hm⟩
  · rintro ⟨x, hx⟩
    exact ⟨(a, x), mem_entries_iff.2 hx, rfl⟩

theorem contains_iff_mem_names {m : NameMap α} {a : String} : m.contains a = true ↔ a ∈ m.names :=
  mem_names_iff.symm

theorem mem_names_insert {m : NameMap α} {a b : String} {x : α} :
    b ∈ (m.insert a x).names ↔ b = a ∨ b ∈ m.names := by
  rw [mem_names_iff, mem_names_iff, get?_insert]
  by_cases h : b = a <;> simp [h]

theorem mem_names_erase {m : NameMap α} {a b : String} :
    b ∈ (m.erase a).names ↔ b ≠ a ∧ b ∈ m.names := by
  rw [mem_names_iff, mem_names_iff, get?_erase]
  by_cases h : b = a <;> simp [h]

theorem length_names (m : NameMap α) : m.names.length = m.size := List.length_map _

theorem isEmpty_iff {m : NameMap α} : m.isEmpty = true ↔ m.names = [] := by
  rw [isEmpty, List.isEmpty_iff, names, List.map_eq_nil_iff]

theorem eq_of_entries {m n : NameMap α} (h : m.entries = n.entries) : m = n := by
  cases m
  cases n
  cases h
  rfl

/-- Two tables with the same look-ups are equal. -/
theorem ext_get? {m n : NameMap α} (h : ∀ a, m.get? a = n.get? a) : m = n := by
  have hmem (e : String × α) : e ∈ m.entries ↔ e ∈ n.entries := by
    rw [mem_entries_iff, mem_entries_iff, h]
  have hp : m.entries.Perm n.entries :=
    (List.perm_ext_iff_of_nodup m.nodup_names.of_map n.nodup_names.of_map).2 hmem
  apply eq_of_entries
  refine hp.eq_of_pairwise ?_ m.sorted n.sorted
  intro a b _ _ hab hba
  exact absurd (string_lt_trans hab hba) (String.lt_irrefl _)

theorem insert_of_get? {m : NameMap α} {a : String} {x : α} (h : m.get? a = some x) :
    m.insert a x = m := by
  apply ext_get?
  intro b
  rw [get?_insert]
  split
  · rename_i hb
    rw [hb, h]
  · rfl

theorem insert_insert (m : NameMap α) (a : String) (x y : α) :
    (m.insert a x).insert a y = m.insert a y := by
  apply ext_get?
  intro b
  rw [get?_insert, get?_insert, get?_insert]
  split <;> rfl

theorem get?_foldl_insert {es : List (String × α)} (hn : (es.map Prod.fst).Nodup)
    (m : NameMap α) (a : String) :
    (es.foldl (fun m e => m.insert e.1 e.2) m).get? a = (es.lookup a).or (m.get? a) := by
  induction es generalizing m with
  | nil => rfl
  | cons e es ih =>
    rw [List.map_cons, List.nodup_cons] at hn
    rw [List.foldl_cons, ih hn.2, get?_insert, lookup_cons_ite]
    by_cases h : a = e.1
    · have hl : es.lookup e.1 = none := by
        rw [List.lookup_eq_none_iff]
        intro p hp
        have : p.1 ≠ e.1 := fun he => hn.1 (he ▸ List.mem_map_of_mem hp)
        simpa using this.symm
      simp [h, hl]
    · simp [h]

theorem get?_ofList {es : List (String × α)} (hn : (es.map Prod.fst).Nodup) (a : String) :
    (ofList es).get? a = es.lookup a := by
  rw [ofList, get?_foldl_insert hn, get?_empty, Option.or_none]

@[simp] theorem ofList_entries (m : NameMap α) : ofList m.entries = m :=
  ext_get? fun a => get?_ofList m.nodup_names a

end Pipework.NameMap
