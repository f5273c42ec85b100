import Mathlib.Data.List.Nodup
import Pipework.Files.NamedPipe
import Pipework.Proofs.Path

/-! Files as a map from paths, in which each operation succeeds wherever it makes sense. The table
keeps a record of its changes, so that what is made anew can be told from what has always been
there. -/

namespace Pipework

/-- What lies at a path. -/
inductive Occupant where
  | nothing
  | pipe (mode : Nat)
  | other (kind : FileKind) (h : kind ≠ .pipe)
deriving DecidableEq

namespace Occupant

def isOther : Occupant → Bool
  | nothing | pipe _ => false
  | other _ _ => true

def isPipe : Occupant → Bool
  | nothing | other _ _ => false
  | pipe _ => true

@[simp] theorem isOther_nothing : nothing.isOther = false := rfl

@[simp] theorem isOther_pipe (mode : Nat) : (pipe mode).isOther = false := rfl

@[simp] theorem isOther_other (kind : FileKind) (h : kind ≠ .pipe) :
    (other kind h).isOther = true := rfl

@[simp] theorem isPipe_nothing : nothing.isPipe = false := rfl

end Occupant

/-- A change of what lies at a path. -/
inductive FileChange where
  | removed
  | made
  | permitted (mode : Nat)
deriving DecidableEq, Repr

/-- What lies at each path, with all changes so far. -/
structure FileTable where
  look : Path → Occupant
  changes : List (Path × FileChange) := []
  /-- What a new pipe gets of the permissions that it is made with. -/
  mask : Nat → Nat := id

namespace FileTable

def change (t : FileTable) (p : Path) (o : Occupant) (c : FileChange) : FileTable :=
  { t with look := fun q => if q = p then o else t.look q, changes := t.changes ++ [(p, c)] }

instance : PipeStore FileTable where
  kind t p := match t.look p with
    | .nothing => .error .noEntry
    | .pipe _ => .ok .pipe
    | .other kind _ => .ok kind
  remove t p := match t.look p with
    | .nothing => .error .noEntry
    | _ => .ok (t.change p .nothing .removed)
  makePipe t p mode := match t.look p with
    | .nothing => .ok (t.change p (.pipe (t.mask mode)) .made)
    | _ => .error .alreadyExists
  setMode t p mode := match t.look p with
    | .nothing => .error .noEntry
    | .pipe _ => .ok (t.change p (.pipe mode) (.permitted mode))
    | .other _ _ => .ok t

def changesAt (t : FileTable) (p : Path) : List FileChange :=
  (t.changes.filter (·.1 == p)).map Prod.snd

/-- The changes that put a new pipe in the place of nothing or of a stale one. -/
def renewal (t : FileTable) (mode : Nat) (p : Path) : List FileChange :=
  (if (t.look p).isPipe then [.removed] else []) ++ [.made, .permitted mode]

/-- The table with new pipes at some paths. -/
def renew (t : FileTable) (mode : Nat) (ps : List Path) : FileTable :=
  { t with
    look := fun q => if q ∈ ps then .pipe mode else t.look q
    changes := t.changes ++ ps.flatMap fun p => (t.renewal mode p).map (p, ·) }

/-- The first of the paths where something else lies. -/
def blocker? (t : FileTable) (ps : List Path) : Option Path := ps.find? fun p => (t.look p).isOther

/-- The paths in front of the first where something else lies. -/
def clear (t : FileTable) (ps : List Path) : List Path :=
  ps.takeWhile fun p => !(t.look p).isOther

/-- What comes of making pipes at the paths. -/
def verdict (t : FileTable) (ps : List Path) : Except PipeError Unit :=
  match t.blocker? ps with
  | some p => .error (.notAFifo p)
  | none => .ok ()

variable {t : FileTable} {mode : Nat} {p : Path} {ps qs : List Path}

@[simp] theorem renew_nil (t : FileTable) (mode : Nat) : t.renew mode [] = t := by
  simp [renew]

theorem renew_append (h : List.Disjoint ps qs) :
    (t.renew mode ps).renew mode qs = t.renew mode (ps ++ qs) := by
  -- at a path that had been renewed before, a stale pipe would be found and removed
  have hrenewal : ∀ q ∈ qs, (t.renew mode ps).renewal mode q = t.renewal mode q := by
    intro q hq
    have hnot : q ∉ ps := fun hp => h hp hq
    simp [renewal, renew, hnot]
  have hchanges : (qs.flatMap fun q => ((t.renew mode ps).renewal mode q).map (q, ·)) =
      qs.flatMap fun q => (t.renewal mode q).map (q, ·) := by
    apply List.flatMap_congr
    intro q hq
    rw [hrenewal q hq]
  unfold renew at hchanges ⊢
  congr 1
  · funext q
    by_cases hq : q ∈ qs <;> by_cases hp : q ∈ ps <;> simp [hq, hp]
  · rw [hchanges, List.flatMap_append, List.append_assoc]

theorem mem_clear_imp (h : p ∈ t.clear ps) : p ∈ ps ∧ (t.look p).isOther = false := by
  refine ⟨(List.takeWhile_sublist _).subset h, ?_⟩
  simpa using List.mem_takeWhile_imp h

theorem clear_eq_self (h : ∀ p ∈ ps, (t.look p).isOther = false) : t.clear ps = ps := by
  rw [clear, List.takeWhile_eq_self_iff]
  intro p hp
  rw [h p hp, Bool.not_false]

/-- New pipes are never in the way of other pipes. -/
theorem isOther_renew (h : ∀ p ∈ ps, (t.look p).isOther = false) (q : Path) :
    ((t.renew mode ps).look q).isOther = (t.look q).isOther := by
  by_cases hq : q ∈ ps
  · rw [h q hq]
    simp [renew, hq]
  · simp [renew, hq]

theorem blocker?_renew (h : ∀ p ∈ ps, (t.look p).isOther = false) (qs : List Path) :
    (t.renew mode ps).blocker? qs = t.blocker? qs := by
  unfold blocker?
  rw [funext (isOther_renew h)]

theorem clear_renew (h : ∀ p ∈ ps, (t.look p).isOther = false) (qs : List Path) :
    (t.renew mode ps).clear qs = t.clear qs := by
  unfold clear
  simp only [isOther_renew h]

theorem make_eq (h : t.look p = .nothing) :
    NamedPipe.make t p mode = (.ok (), t.renew mode [p]) := by
  have hmake : PipeStore.makePipe t p mode = .ok (t.change p (.pipe (t.mask mode)) .made) := by
    simp [PipeStore.makePipe, h]
  have hset : PipeStore.setMode (t.change p (.pipe (t.mask mode)) .made) p mode =
      .ok ((t.change p (.pipe (t.mask mode)) .made).change p (.pipe mode) (.permitted mode)) := by
    simp [PipeStore.setMode, change]
  have hboth : (t.change p (.pipe (t.mask mode)) .made).change p (.pipe mode) (.permitted mode) =
      t.renew mode [p] := by
    unfold change renew renewal
    congr 1
    · funext q
      by_cases hq : q = p <;> simp [hq]
    · simp [h]
  rw [NamedPipe.make, hmake]
  simp only
  rw [hset, hboth]

/-- A stale pipe makes no difference, apart from its own removal. -/
theorem renew_of_removed (h : (t.look p).isPipe = true) :
    (t.change p .nothing .removed).renew mode [p] = t.renew mode [p] := by
  unfold change renew renewal
  congr 1
  · funext q
    by_cases hq : q = p <;> simp [hq]
  · simp [h]

/-- Making a pipe is refused where something else lies, and puts a new pipe in place anywhere
else. -/
theorem create_eq (hname : (Path.fileName? p).isSome = true) (hzero : Path.hasZero p = false) :
    NamedPipe.create t p mode = if (t.look p).isOther then (.error (.notAFifo p), t)
      else (.ok (), t.renew mode [p]) := by
  have hvalid : ((Path.fileName? p).isNone || Path.hasZero p) = false := by
    rw [hzero, Bool.or_false, Option.isNone_eq_false_iff]
    exact hname
  rw [NamedPipe.create, hvalid, if_neg Bool.false_ne_true]
  cases hp : t.look p with
  | nothing =>
    have hkind : PipeStore.kind t p = .error .noEntry := by simp [PipeStore.kind, hp]
    have hnone : IoError.noEntry.kind = .notFound := rfl
    rw [hkind]
    simp only
    rw [if_pos hnone, make_eq hp, Occupant.isOther_nothing, if_neg Bool.false_ne_true]
  | pipe m =>
    have hkind : PipeStore.kind t p = .ok .pipe := by simp [PipeStore.kind, hp]
    have hremove : PipeStore.remove t p = .ok (t.change p .nothing .removed) := by
      simp [PipeStore.remove, hp]
    have hnothing : (t.change p .nothing .removed).look p = .nothing := by simp [change]
    rw [hkind]
    simp only
    rw [hremove]
    simp only
    rw [make_eq hnothing, renew_of_removed (by rw [hp]; rfl), Occupant.isOther_pipe,
      if_neg Bool.false_ne_true]
  | other kind h =>
    have hkind : PipeStore.kind t p = .ok kind := by simp [PipeStore.kind, hp]
    rw [hkind, Occupant.isOther_other, if_pos rfl]
    cases kind with
    | pipe => exact absurd rfl h
    | directory | regular | link => rfl

/-- Pipes are made up to the first path where something else lies. -/
theorem createAll_eq (hps : ∀ p ∈ ps, (Path.fileName? p).isSome = true ∧ Path.hasZero p = false)
    (hn : ps.Nodup) :
    NamedPipe.createAll t mode ps = (t.verdict ps, t.renew mode (t.clear ps)) := by
  induction ps generalizing t with
  | nil => simp [NamedPipe.createAll, verdict, blocker?, clear]
  | cons p ps ih =>
    obtain ⟨⟨hname, hzero⟩, hps⟩ := List.forall_mem_cons.1 hps
    obtain ⟨hnot, hn⟩ := List.nodup_cons.1 hn
    rw [NamedPipe.createAll, create_eq hname hzero]
    cases ho : (t.look p).isOther with
    | true => simp [verdict, blocker?, clear, ho]
    | false =>
      have hone : ∀ q ∈ [p], (t.look q).isOther = false := by simpa using ho
      -- the new pipe is in nobody's way, so the rest goes as it would without it
      have hdisjoint : List.Disjoint [p] (t.clear ps) := by
        intro q hq hc
        exact hnot (List.mem_singleton.1 hq ▸ (mem_clear_imp hc).1)
      have hverdict : t.verdict (p :: ps) = t.verdict ps := by
        simp [verdict, blocker?, ho]
      have hclear : t.clear (p :: ps) = [p] ++ t.clear ps := by
        simp [clear, ho]
      rw [if_neg Bool.false_ne_true]
      simp only
      rw [ih hps hn, verdict, blocker?_renew hone, ← verdict, clear_renew hone,
        renew_append hdisjoint, hverdict, hclear]

theorem changesAt_renew (hn : ps.Nodup) (p : Path) : (t.renew mode ps).changesAt p =
    t.changesAt p ++ if p ∈ ps then t.renewal mode p else [] := by
  unfold changesAt renew
  rw [List.filter_append, List.map_append]
  congr 1
  induction ps with
  | nil => rfl
  | cons q ps ih =>
    obtain ⟨hnot, hn⟩ := List.nodup_cons.1 hn
    rw [List.flatMap_cons, List.filter_append, List.map_append, ih hn]
    by_cases hq : q = p
    · subst hq
      simp [hnot, List.filter_map, Function.comp_def]
    · simp [hq, Ne.symm hq, List.filter_map, Function.comp_def]

/-- Nothing has been done to the path. -/
structure Untouched (t t' : FileTable) (p : Path) : Prop where
  look : t'.look p = t.look p
  changes : t'.changesAt p = t.changesAt p

/-- At the path is a new pipe, which has been made once and is as it was made. -/
structure Renewed (t t' : FileTable) (mode : Nat) (p : Path) : Prop where
  look : t'.look p = .pipe mode
  changes : t'.changesAt p = t.changesAt p ++ t.renewal mode p

theorem Untouched.trans {t' t'' : FileTable} (h : Untouched t t' p) (h' : Untouched t' t'' p) :
    Untouched t t'' p :=
  ⟨h'.look.trans h.look, h'.changes.trans h.changes⟩

theorem untouched_self (t : FileTable) (p : Path) : Untouched t t p := ⟨rfl, rfl⟩

theorem untouched_change {q : Path} (h : p ≠ q) (t : FileTable) (o : Occupant) (c : FileChange) :
    Untouched t (t.change q o c) p where
  look := if_neg h
  changes := by
    have hother : (q == p) = false := beq_eq_false_iff_ne.2 (Ne.symm h)
    simp [changesAt, change, hother]

/-- Making a pipe at another path leaves a path alone, whatever comes of it. -/
theorem untouched_make {q : Path} (h : p ≠ q) (t : FileTable) (mode : Nat) :
    Untouched t (NamedPipe.make t q mode).2 p := by
  cases hq : t.look q with
  | nothing =>
    rw [make_eq hq]
    exact ⟨if_neg (List.mem_singleton.not.2 h), by simp [changesAt, renew, Ne.symm h]⟩
  | pipe m | other kind hkind =>
    have hrefused : PipeStore.makePipe t q mode = .error .alreadyExists := by
      simp [PipeStore.makePipe, hq]
    rw [NamedPipe.make, hrefused]
    exact untouched_self t p

theorem untouched_create {q : Path} (h : p ≠ q) (t : FileTable) (mode : Nat) :
    Untouched t (NamedPipe.create t q mode).2 p := by
  unfold NamedPipe.create
  split
  · exact untouched_self t p
  · split
    · split
      · rename_i t' hremove
        have hchange : t' = t.change q .nothing .removed := by
          cases hq : t.look q with
          | nothing => simp [PipeStore.remove, hq] at hremove
          | pipe m | other kind hkind => simpa [PipeStore.remove, hq] using hremove.symm
        rw [hchange]
        exact (untouched_change h t .nothing .removed).trans (untouched_make h _ mode)
      · exact untouched_self t p
    · exact untouched_self t p
    · split
      · exact untouched_make h t mode
      · exact untouched_self t p

theorem untouched_createAll (h : p ∉ ps) (t : FileTable) (mode : Nat) :
    Untouched t (NamedPipe.createAll t mode ps).2 p := by
  induction ps generalizing t with
  | nil => exact untouched_self t p
  | cons q ps ih =>
    have hq : p ≠ q := List.ne_of_not_mem_cons h
    have hps : p ∉ ps := List.not_mem_of_not_mem_cons h
    have hfirst : Untouched t (NamedPipe.create t q mode).2 p := untouched_create hq t mode
    rw [NamedPipe.createAll]
    split
    · rename_i t' hcreate
      rw [hcreate] at hfirst
      exact hfirst.trans (ih hps t')
    · rename_i e t' hcreate
      rw [hcreate] at hfirst
      exact hfirst

theorem renewed_of_mem (hn : ps.Nodup) (h : p ∈ ps) : Renewed t (t.renew mode ps) mode p where
  look := if_pos h
  changes := by rw [changesAt_renew hn, if_pos h]

theorem untouched_of_not_mem (hn : ps.Nodup) (h : p ∉ ps) : Untouched t (t.renew mode ps) p where
  look := if_neg h
  changes := by rw [changesAt_renew hn, if_neg h, List.append_nil]

end FileTable

end Pipework
