import Pipework.Proofs.Files.Table
import Pipework.Proofs.Files.Ways
import Pipework.Proofs.NameMap

/-! Named pipes in a tree of files. No way leads through a pipe, so a pipe that is made or removed
changes nothing but its own place, and the table of the paths of a directory shows all that is made
there. -/

namespace Pipework

/-- What an entry is to the making of pipes. -/
def FileEntry.occupant : FileEntry → Occupant
  | directory => .other .directory nofun
  | regular _ _ | sink | tool _ => .other .regular nofun
  | pipe mode => .pipe mode
  | link _ => .other .link nofun

namespace FileTree

variable {t t' : FileTree} {dir l l' : Location} {name : Bytes} {mode : Nat} {e : FileEntry}
  {p : Path}

theorem lookup_drop (hl : l ≠ []) :
    (t.drop l).lookup l' = if l' = l then none else t.lookup l' := by
  unfold lookup drop
  by_cases hl' : l' = []
  · subst hl'
    simp [Ne.symm hl]
  · have hempty : ¬l'.isEmpty = true := by simpa using hl'
    rw [if_neg hempty, if_neg hempty, NameMap.lookup_filter (fun k => k != l)]
    by_cases he : l' = l <;> simp [he]

theorem lookup_put (hl : l ≠ []) :
    (t.put l e).lookup l' = if l' = l then some e else t.lookup l' := by
  unfold lookup put
  by_cases hl' : l' = []
  · subst hl'
    simp [Ne.symm hl]
  · have hempty : ¬l'.isEmpty = true := by simpa using hl'
    rw [if_neg hempty, if_neg hempty, List.lookup_cons, NameMap.lookup_filter (fun k => k != l)]
    by_cases he : l' = l
    · simp [he]
    · have hne : (l' == l) = false := beq_eq_false_iff_ne.2 he
      simp [he, hne]

@[simp] theorem put_put (t : FileTree) (l : Location) (e e' : FileEntry) :
    (t.put l e).put l e' = t.put l e' := by
  simp [put]

@[simp] theorem put_drop (t : FileTree) (l : Location) (e : FileEntry) :
    (t.drop l).put l e = t.put l e := by
  simp [put, drop]

namespace Leads

theorem kind_eq (h : t.Leads p dir name) : PipeStore.kind t p =
    match t.lookup (dir ++ [name]) with
    | some e => .ok e.kind
    | none => .error .noEntry := by
  change (t.status p).map FileEntry.kind = _
  unfold status find
  rw [h.resolve_eq (Or.inl rfl), ok_bind]
  cases t.lookup (dir ++ [name]) <;> rfl

theorem remove_eq (h : t.Leads p dir name) {mode : Nat}
    (hl : t.lookup (dir ++ [name]) = some (.pipe mode)) :
    PipeStore.remove t p = .ok (t.drop (dir ++ [name])) := by
  change t.remove p = _
  unfold remove
  rw [find_eq_ok_iff.2 ⟨h.resolve_eq (Or.inl rfl), hl⟩]
  rfl

theorem makePipe_eq (h : t.Leads p dir name) (hfree : t.lookup (dir ++ [name]) = none)
    (hmode : mode < 0o10000) :
    PipeStore.makePipe t p mode = .ok (t.put (dir ++ [name]) (.pipe mode)) := by
  have hkind : ¬mode / 0o20000 % 8 ≠ 0 := by omega
  change t.makePipe p mode = _
  unfold makePipe
  rw [if_neg hkind, h.freePlace_eq hfree, permissions, Nat.mod_eq_of_lt hmode]
  rfl

theorem setMode_eq (h : t.Leads p dir name) {made : Nat}
    (hl : t.lookup (dir ++ [name]) = some (.pipe made)) (hmode : mode < 0o10000) :
    PipeStore.setMode t p mode = .ok (t.put (dir ++ [name]) (.pipe mode)) := by
  have hlink : ∀ target, t.lookup (dir ++ [name]) ≠ some (.link target) := by
    intro target
    rw [hl]
    nofun
  change t.setMode p mode = _
  unfold setMode
  rw [find_eq_ok_iff.2 ⟨h.resolve_eq (Or.inr hlink), hl⟩]
  simp only [permissions, Nat.mod_eq_of_lt hmode]
  rfl

end Leads

/-- What a location is to the making of pipes. -/
def occupant (t : FileTree) (l : Location) : Occupant :=
  match t.lookup l with
  | none => .nothing
  | some e => e.occupant

theorem occupant_congr (h : t'.lookup l' = t.lookup l) : t'.occupant l' = t.occupant l := by
  unfold occupant
  rw [h]

theorem lookup_of_not_isOther (h : (t.occupant l).isOther = false) :
    t.lookup l = none ∨ ∃ mode, t.lookup l = some (.pipe mode) := by
  unfold occupant at h
  cases he : t.lookup l with
  | none => exact Or.inl rfl
  | some e =>
    rw [he] at h
    cases e with
    | pipe mode => exact Or.inr ⟨mode, rfl⟩
    | _ => cases h

/-- No way leads through a place where nothing lies or a pipe. -/
theorem Leads.of_changed (h : t.Leads p dir name) (ho : (t.occupant l).isOther = false)
    (hl : ∀ k, k ≠ l → t'.lookup k = t.lookup k) (hcurrent : t'.current = t.current) :
    t'.Leads p dir name := by
  have hne {k : Location} {e : FileEntry} (hk : t.lookup k = some e)
      (he : e.occupant.isOther = true) : k ≠ l := by
    rintro rfl
    rw [occupant, hk] at ho
    rw [he] at ho
    cases ho
  apply h.mono hcurrent
  · intro k hk
    rw [hl k (hne hk rfl), hk]
  · intro k target hk
    rw [hl k (hne hk rfl), hk]

theorem Leads.put (h : t.Leads p dir name) (hl : l ≠ []) (ho : (t.occupant l).isOther = false)
    (e : FileEntry) : (t.put l e).Leads p dir name := by
  refine h.of_changed ho (fun k hk => ?_) rfl
  rw [lookup_put hl, if_neg hk]

theorem Leads.drop (h : t.Leads p dir name) (hl : l ≠ []) (ho : (t.occupant l).isOther = false) :
    (t.drop l).Leads p dir name := by
  refine h.of_changed ho (fun k hk => ?_) rfl
  rw [lookup_drop hl, if_neg hk]

theorem make_eq (h : t.Leads p dir name) (hfree : t.lookup (dir ++ [name]) = none)
    (hmode : mode < 0o10000) :
    NamedPipe.make t p mode = (.ok (), t.put (dir ++ [name]) (.pipe mode)) := by
  have hl : dir ++ [name] ≠ [] := by simp
  have ho : (t.occupant (dir ++ [name])).isOther = false := by
    rw [occupant, hfree]
    rfl
  have hmade : (t.put (dir ++ [name]) (.pipe mode)).lookup (dir ++ [name]) = some (.pipe mode) := by
    rw [lookup_put hl, if_pos rfl]
  rw [NamedPipe.make, h.makePipe_eq hfree hmode]
  simp only
  rw [(h.put hl ho _).setMode_eq hmade hmode, put_put]

/-- Making a pipe in a directory that exists is refused where something else lies, and puts a new
pipe in place anywhere else. -/
theorem create_eq (h : t.Leads p dir name) (hmode : mode < 0o10000) :
    NamedPipe.create t p mode =
      if (t.occupant (dir ++ [name])).isOther then (.error (.notAFifo p), t)
      else (.ok (), t.put (dir ++ [name]) (.pipe mode)) := by
  have hl : dir ++ [name] ≠ [] := by simp
  have hvalid : ((Path.fileName? p).isNone || Path.hasZero p) = false := by
    rw [h.fileName, (checkPath_eq_ok_iff.1 h.accepted).1]
    rfl
  rw [NamedPipe.create, hvalid, if_neg Bool.false_ne_true, h.kind_eq]
  cases ho : (t.occupant (dir ++ [name])).isOther with
  | true =>
    rw [occupant] at ho
    cases he : t.lookup (dir ++ [name]) with
    | none =>
      rw [he] at ho
      cases ho
    | some e =>
      rw [he] at ho
      cases e with
      | pipe => cases ho
      | _ => rfl
  | false =>
    rw [if_neg Bool.false_ne_true]
    rcases lookup_of_not_isOther ho with hnone | ⟨made, hpipe⟩
    · have hkind : IoError.noEntry.kind = .notFound := rfl
      rw [hnone]
      simp only
      rw [if_pos hkind, make_eq h hnone hmode]
    · have hgone : (t.drop (dir ++ [name])).lookup (dir ++ [name]) = none := by
        rw [lookup_drop hl, if_pos rfl]
      rw [hpipe]
      simp only [FileEntry.kind]
      rw [h.remove_eq hpipe]
      simp only
      rw [make_eq (h.drop hl ho) hgone hmode, put_drop]

/-! ## The table of a directory -/

/-- Where a path to a name in the directory leads. -/
def place (dir : Location) (p : Path) : Location := dir ++ (Path.fileName? p).toList

theorem Leads.place_eq (h : t.Leads p dir name) : place dir p = dir ++ [name] := by
  rw [place, h.fileName]
  rfl

/-- What lies at the paths to names in a directory. -/
def table (t : FileTree) (dir : Location) : FileTable where
  look p := t.occupant (place dir p)

/-- The table shows what lies at some paths to names in a directory, and a tree differs from the
tree at the beginning where the table has been changed. -/
structure Shown (start : FileTree) (dir : Location) (ps : List Path) (mode : Nat) (t : FileTree)
    (table : FileTable) : Prop where
  leads : ∀ p ∈ ps, ∃ name, t.Leads p dir name
  look : ∀ p ∈ ps, table.look p = t.occupant (place dir p)
  lookup : ∀ l, t.lookup l = if ∃ p ∈ ps, place dir p = l ∧ table.changesAt p ≠ [] then
    some (.pipe mode) else start.lookup l

variable {start : FileTree} {table : FileTable} {ps : List Path}

theorem shown_table (h : ∀ p ∈ ps, ∃ name, t.Leads p dir name) (mode : Nat) :
    Shown t dir ps mode t (t.table dir) where
  leads := h
  look _ _ := rfl
  lookup l := by
    rw [if_neg]
    rintro ⟨p, -, -, hchanges⟩
    exact hchanges rfl

/-- Making one of the pipes has the same result in both and is shown by the table. -/
theorem Shown.create (h : Shown start dir ps mode t table)
    (hplaces : ∀ p ∈ ps, ∀ q ∈ ps, place dir p = place dir q → p = q) (hmode : mode < 0o10000)
    (hp : p ∈ ps) :
    (NamedPipe.create t p mode).1 = (NamedPipe.create table p mode).1 ∧
      Shown start dir ps mode (NamedPipe.create t p mode).2 (NamedPipe.create table p mode).2 := by
  obtain ⟨name, hleads⟩ := h.leads p hp
  have hname : (Path.fileName? p).isSome = true := by
    rw [hleads.fileName]
    rfl
  have hl : place dir p ≠ [] := by
    rw [hleads.place_eq]
    simp
  rw [create_eq hleads hmode, FileTable.create_eq hname (checkPath_eq_ok_iff.1 hleads.accepted).1,
    h.look p hp, ← hleads.place_eq]
  cases ho : (t.occupant (place dir p)).isOther with
  | true => exact ⟨rfl, h⟩
  | false =>
    rw [if_neg Bool.false_ne_true, if_neg Bool.false_ne_true]
    have hchanges (q : Path) : (table.renew mode [p]).changesAt q ≠ [] ↔
        q = p ∨ table.changesAt q ≠ [] := by
      rw [FileTable.changesAt_renew (List.nodup_singleton p)]
      by_cases hq : q = p
      · simp [hq, FileTable.renewal]
      · simp [hq]
    refine ⟨rfl, ?_, ?_, ?_⟩
    · intro q hq
      obtain ⟨name', hleads'⟩ := h.leads q hq
      exact ⟨name', hleads'.put hl ho _⟩
    · intro q hq
      by_cases hqp : q = p
      · subst hqp
        have hmade : (t.put (place dir q) (.pipe mode)).lookup (place dir q) =
            some (.pipe mode) := by
          rw [lookup_put hl, if_pos rfl]
        simp [FileTable.renew, occupant, hmade, FileEntry.occupant]
      · -- no other path leads to the new pipe
        have hplace : place dir q ≠ place dir p := fun he => hqp (hplaces q hq p hp he)
        have hkept : (t.put (place dir p) (.pipe mode)).lookup (place dir q) =
            t.lookup (place dir q) := by
          rw [lookup_put hl, if_neg hplace]
        rw [occupant_congr hkept, ← h.look q hq]
        simp [FileTable.renew, hqp]
    · intro l
      simp only [hchanges]
      rw [lookup_put hl]
      by_cases he : l = place dir p
      · rw [if_pos he, if_pos ⟨p, hp, he.symm, Or.inl rfl⟩]
      · rw [if_neg he, h.lookup l]
        apply if_congr _ rfl rfl
        constructor
        · rintro ⟨q, hq, hplace, hq'⟩
          exact ⟨q, hq, hplace, Or.inr hq'⟩
        · rintro ⟨q, hq, hplace, rfl | hq'⟩
          · exact absurd hplace.symm he
          · exact ⟨q, hq, hplace, hq'⟩

end FileTree

end Pipework
