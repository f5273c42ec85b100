import Pipework.Files.Tree
import Pipework.Proofs.Except
import Pipework.Proofs.Path

/-! Where paths lead in a tree of files. A path is walked through directories and links only, so its
way stays as it is whatever becomes of files of other kinds. -/

namespace Pipework

namespace FileTree

/-- A step that is looked up by its name. -/
structure IsEntryName (step : Bytes) : Prop where
  short : step.length ≤ maxNameLength
  not_dot : step ≠ Path.dot
  not_dots : step ≠ Path.dotDot

/-- The steps `xs` lead from one directory to another. Links are followed, and `links'` of them are
left to follow. -/
inductive Walks (t : FileTree) : Nat → Location → List Bytes → Nat → Location → Prop
  | stay {links dir} : Walks t links dir [] links dir
  | dot {links dir xs links' l} (hd : t.isDirectory dir = true)
      (h : Walks t links dir xs links' l) : Walks t links dir (Path.dot :: xs) links' l
  | above {links dir xs links' l} (hd : t.isDirectory dir = true)
      (h : Walks t links dir.dropLast xs links' l) :
      Walks t links dir (Path.dotDot :: xs) links' l
  | enter {links dir step xs links' l} (hd : t.isDirectory dir = true) (hs : IsEntryName step)
      (hl : t.lookup (dir ++ [step]) = some .directory)
      (h : Walks t links (dir ++ [step]) xs links' l) : Walks t links dir (step :: xs) links' l
  | follow {links dir step target xs links' l} (hd : t.isDirectory dir = true)
      (hs : IsEntryName step) (hl : t.lookup (dir ++ [step]) = some (.link target))
      (ht : target ≠ []) (h : Walks t links (origin dir target) (steps target ++ xs) links' l) :
      Walks t (links + 1) dir (step :: xs) links' l

variable {t t' : FileTree} {links links' : Nat} {dir l : Location} {name step : Bytes}
  {xs rest : List Bytes} {keepLink : Bool} {e : FileEntry} {p : Path}

/-! ## Ways -/

theorem walk_dot (hd : t.isDirectory dir = true) :
    t.walk keepLink links dir (Path.dot :: rest) = t.walk keepLink links dir rest := by
  rw [walk, hd, if_neg (by decide), if_neg (by decide), if_pos rfl]

theorem walk_above (hd : t.isDirectory dir = true) :
    t.walk keepLink links dir (Path.dotDot :: rest) = t.walk keepLink links dir.dropLast rest := by
  rw [walk, hd, if_neg (by decide), if_neg (by decide), if_neg (by decide), if_pos rfl]

theorem walk_enter (hd : t.isDirectory dir = true) (hs : IsEntryName step)
    (hl : t.lookup (dir ++ [step]) = some .directory) :
    t.walk keepLink links dir (step :: rest) = t.walk keepLink links (dir ++ [step]) rest := by
  rw [walk, hd, if_neg (by decide), if_neg (Nat.not_lt.2 hs.short), if_neg hs.not_dot,
    if_neg hs.not_dots]
  simp only [hl]

theorem walk_follow {target : Path} (hd : t.isDirectory dir = true) (hs : IsEntryName step)
    (hl : t.lookup (dir ++ [step]) = some (.link target)) (ht : target ≠ []) (hrest : rest ≠ []) :
    t.walk keepLink (links + 1) dir (step :: rest) =
      t.walk keepLink links (origin dir target) (steps target ++ rest) := by
  rw [walk, hd, if_neg (by decide), if_neg (Nat.not_lt.2 hs.short), if_neg hs.not_dot,
    if_neg hs.not_dots]
  simp [hl, ht, hrest]

/-- The last step leads to a place of its own, unless a link there is to be followed. -/
theorem walk_last (hd : t.isDirectory dir = true) (hs : IsEntryName step)
    (hl : keepLink = true ∨ ∀ target, t.lookup (dir ++ [step]) ≠ some (.link target)) :
    t.walk keepLink links dir [step] = .ok (dir ++ [step]) := by
  rw [walk, hd, if_neg (by decide), if_neg (Nat.not_lt.2 hs.short), if_neg hs.not_dot,
    if_neg hs.not_dots]
  cases he : t.lookup (dir ++ [step]) with
  | none => simp [he]
  | some e =>
    cases e with
    | link target =>
      rcases hl with rfl | hl
      · simp [he]
      · exact absurd he (hl target)
    | _ => simp [he, walk]

/-- A walk goes on from where its first steps have led. -/
theorem Walks.walk_append (h : t.Walks links dir xs links' l) (hrest : rest ≠ []) :
    t.walk keepLink links dir (xs ++ rest) = t.walk keepLink links' l rest := by
  induction h with
  | stay => rfl
  | dot hd _ ih => rw [List.cons_append, walk_dot hd, ih]
  | above hd _ ih => rw [List.cons_append, walk_above hd, ih]
  | enter hd hs hl _ ih => rw [List.cons_append, walk_enter hd hs hl, ih]
  | follow hd hs hl ht _ ih =>
    rw [List.cons_append, walk_follow hd hs hl ht (by simp [hrest]), ← List.append_assoc, ih]

theorem Walks.isDirectory_start (h : t.Walks links dir xs links' l)
    (hl : t.isDirectory l = true) : t.isDirectory dir = true := by
  cases h with
  | stay => exact hl
  | dot hd | above hd | enter hd | follow hd => exact hd

/-- A walk that comes to a directory has led through directories and links only. -/
theorem walks_of_walk (h : t.walk false links dir xs = .ok l) (hl : t.isDirectory l = true) :
    ∃ links', t.Walks links dir xs links' l := by
  fun_induction t.walk false links dir xs with
  | case1 links dir =>
    obtain rfl := Except.ok.inj h
    exact ⟨links, .stay⟩
  | case4 links dir rest hd hshort ih =>
    obtain ⟨links', hw⟩ := ih h
    exact ⟨links', .dot (by simpa using hd) hw⟩
  | case5 links dir rest hd hshort hdot ih =>
    obtain ⟨links', hw⟩ := ih h
    exact ⟨links', .above (by simpa using hd) hw⟩
  | case6 links dir step rest hd hshort hdot hdots here hnone hrest =>
    -- nothing lies here
    obtain rfl := Except.ok.inj h
    rw [isDirectory, hnone] at hl
    cases hl
  | case8 links dir step rest hd hshort hdot hdots here target hlink hrest =>
    simp at hrest
  | case11 dir step rest hd hshort hdot hdots here target hlink hrest links htarget ih =>
    obtain ⟨links', hw⟩ := ih h
    exact ⟨links', .follow (by simpa using hd) ⟨Nat.not_lt.1 hshort, hdot, hdots⟩ hlink
      (by simpa using htarget) hw⟩
  | case12 links dir step rest hd hshort hdot hdots here e hlink he ih =>
    obtain ⟨links', hw⟩ := ih h
    have hhere := hw.isDirectory_start hl
    rw [isDirectory, beq_iff_eq] at hhere
    exact ⟨links', .enter (by simpa using hd) ⟨Nat.not_lt.1 hshort, hdot, hdots⟩ hhere hw⟩
  | _ => cases h

/-- Only directories and links matter to a walk. -/
theorem Walks.mono (h : t.Walks links dir xs links' l)
    (hdir : ∀ k, t.lookup k = some .directory → t'.lookup k = some .directory)
    (hlink : ∀ k target, t.lookup k = some (.link target) → t'.lookup k = some (.link target)) :
    t'.Walks links dir xs links' l := by
  have hisdir {k : Location} (hk : t.isDirectory k = true) : t'.isDirectory k = true := by
    rw [isDirectory, beq_iff_eq] at hk ⊢
    exact hdir k hk
  induction h with
  | stay => exact .stay
  | dot hd _ ih => exact .dot (hisdir hd) ih
  | above hd _ ih => exact .above (hisdir hd) ih
  | enter hd hs hl _ ih => exact .enter (hisdir hd) hs (hdir _ hl) ih
  | follow hd hs hl ht _ ih => exact .follow (hisdir hd) hs (hlink _ _ hl) ht ih

/-- A dot at the end leads nowhere else. -/
theorem Walks.of_append_dot {ys : List Bytes} (h : t.Walks links dir ys links' l)
    (hys : ys = xs ++ [Path.dot]) : t.Walks links dir xs links' l := by
  induction h generalizing xs with
  | stay => simp at hys
  | dot hd h ih =>
    rcases List.cons_eq_append_iff.1 hys with ⟨rfl, hdot⟩ | ⟨xs, rfl, rfl⟩
    · obtain ⟨-, rfl⟩ := List.cons.inj hdot
      exact h
    · exact .dot hd (ih rfl)
  | above hd _ ih =>
    rcases List.cons_eq_append_iff.1 hys with ⟨-, hdot⟩ | ⟨xs, rfl, rfl⟩
    · cases (List.cons.inj hdot).1
    · exact .above hd (ih rfl)
  | enter hd hs hl _ ih =>
    rcases List.cons_eq_append_iff.1 hys with ⟨-, hdot⟩ | ⟨xs, rfl, rfl⟩
    · exact absurd (List.cons.inj hdot).1.symm hs.not_dot
    · exact .enter hd hs hl (ih rfl)
  | follow hd hs hl ht _ ih =>
    rcases List.cons_eq_append_iff.1 hys with ⟨-, hdot⟩ | ⟨xs, rfl, rfl⟩
    · exact absurd (List.cons.inj hdot).1.symm hs.not_dot
    · exact .follow hd hs hl ht (ih (List.append_assoc _ _ _).symm)

/-! ## Places -/

/-- The path leads to a name in a directory. Nothing needs to lie there. -/
structure Leads (t : FileTree) (p : Path) (dir : Location) (name : Bytes) : Prop where
  accepted : checkPath p = .ok ()
  fileName : Path.fileName? p = some name
  isEntryName : IsEntryName name
  no_slash : p.getLast? ≠ some Path.slash
  directory : t.isDirectory dir = true
  way : ∃ front links, (Path.pieces p).filter (· != []) = front ++ [name] ∧
    t.Walks maxLinks (origin t.current p) front links dir

theorem checkPath_eq_ok_iff : checkPath p = .ok () ↔
    Path.hasZero p = false ∧ p ≠ [] ∧ p.length ≤ maxPathLength := by
  unfold checkPath
  split
  · simp [*]
  · split
    · simp_all
    · split <;> simp_all

theorem find_eq_ok_iff : t.find keepLink p = .ok (l, e) ↔
    t.resolve keepLink p = .ok l ∧ t.lookup l = some e := by
  unfold find
  rw [bind_eq_ok_iff]
  constructor
  · rintro ⟨l', hl', he⟩
    cases hlook : t.lookup l' with
    | none =>
      rw [hlook] at he
      cases he
    | some e' =>
      rw [hlook] at he
      cases he
      exact ⟨hl', hlook⟩
  · rintro ⟨hl, he⟩
    refine ⟨l, hl, ?_⟩
    rw [he]
    rfl

/-- In a directory, each name has a path that leads to it. -/
theorem leads_join (hdir : t.find false p = .ok (dir, .directory)) (hname : Path.IsName name)
    (hzero : Path.hasZero name = false) (hshort : name.length ≤ maxNameLength)
    (hlength : (Path.join p name).length ≤ maxPathLength) :
    t.Leads (Path.join p name) dir name := by
  obtain ⟨hresolve, hlook⟩ := find_eq_ok_iff.1 hdir
  obtain ⟨u, hcheck, hwalk⟩ := bind_eq_ok_iff.1 hresolve
  obtain ⟨hpzero, hp, -⟩ := checkPath_eq_ok_iff.1 hcheck
  obtain ⟨sep, -, heq, front, hpieces, hfront⟩ := Path.join_cases hname p
  have hisdir : t.isDirectory dir = true := by
    rw [isDirectory, hlook]
    rfl
  have hjoin : Path.join p name ≠ [] := by simp [heq, hp]
  have horigin : origin t.current (Path.join p name) = origin t.current p := by
    unfold origin Path.isAbsolute
    rw [heq, List.append_assoc, List.head?_append_of_ne_nil p hp]
  obtain ⟨links, hsteps⟩ := walks_of_walk hwalk hisdir
  refine ⟨checkPath_eq_ok_iff.2 ⟨?_, hjoin, hlength⟩, Path.fileName?_join hname p,
    ⟨hshort, hname.not_dot, hname.not_dots⟩, ?_, hisdir, front.filter (· != []), links, ?_, ?_⟩
  · rw [Path.hasZero_join hname, hpzero, hzero]
    rfl
  · rw [heq, List.getLast?_append_of_ne_nil _ hname.nonempty]
    intro hlast
    exact hname.no_slash (List.mem_of_getLast? hlast)
  · rw [hpieces, List.filter_append]
    simp [hname.nonempty]
  · rw [horigin, hfront]
    unfold steps at hsteps
    split at hsteps
    · exact hsteps.of_append_dot rfl
    · exact hsteps

/-- A name alone leads to its place in the directory at hand. -/
theorem leads_of_name (hname : Path.IsName name) (hzero : Path.hasZero name = false)
    (hshort : name.length ≤ maxNameLength) (hdir : t.isDirectory t.current = true) :
    t.Leads name t.current name := by
  have hlength : name.length ≤ maxPathLength := hshort.trans (by decide)
  have hpieces : (Path.pieces name).filter (· != []) = [] ++ [name] := by
    rw [Path.pieces_of_no_slash hname.no_slash]
    simp [hname.nonempty]
  have horigin : origin t.current name = t.current := by
    rw [origin, hname.isAbsolute]
    rfl
  refine ⟨checkPath_eq_ok_iff.2 ⟨hzero, hname.nonempty, hlength⟩, hname.fileName?_eq,
    ⟨hshort, hname.not_dot, hname.not_dots⟩, ?_, hdir, [], maxLinks, hpieces, ?_⟩
  · intro hlast
    exact hname.no_slash (List.mem_of_getLast? hlast)
  · rw [horigin]
    exact .stay

namespace Leads

/-- A path leads to its place as long as directories and links stay as they are. -/
theorem mono (h : t.Leads p dir name) (hcurrent : t'.current = t.current)
    (hdir : ∀ k, t.lookup k = some .directory → t'.lookup k = some .directory)
    (hlink : ∀ k target, t.lookup k = some (.link target) → t'.lookup k = some (.link target)) :
    t'.Leads p dir name where
  accepted := h.accepted
  fileName := h.fileName
  isEntryName := h.isEntryName
  no_slash := h.no_slash
  directory := by
    have hd := h.directory
    rw [isDirectory, beq_iff_eq] at hd ⊢
    exact hdir dir hd
  way := by
    obtain ⟨front, links, hsteps, hw⟩ := h.way
    rw [← hcurrent] at hw
    exact ⟨front, links, hsteps, hw.mono hdir hlink⟩

theorem resolve_eq (h : t.Leads p dir name)
    (hl : keepLink = true ∨ ∀ target, t.lookup (dir ++ [name]) ≠ some (.link target)) :
    t.resolve keepLink p = .ok (dir ++ [name]) := by
  obtain ⟨front, links, hnames, hw⟩ := h.way
  have hsteps : steps p = front ++ [name] := by
    unfold steps
    rw [hnames]
    simp [h.no_slash]
  unfold resolve
  rw [h.accepted, hsteps]
  change t.walk _ _ _ _ = _
  rw [hw.walk_append (by simp), walk_last h.directory h.isEntryName hl]

/-- The contents of a file that may be read. -/
theorem contents_eq {octets : Bytes} {mode : Nat} (h : t.Leads p dir name)
    (hfile : t.lookup (dir ++ [name]) = some (.regular octets mode))
    (hmode : (FileEntry.regular octets mode).isReadable = true) : t.contents p = .ok octets := by
  have hlink : ∀ target, t.lookup (dir ++ [name]) ≠ some (.link target) := by
    rw [hfile]
    nofun
  have hfind : t.find false p = .ok (dir ++ [name], .regular octets mode) :=
    find_eq_ok_iff.2 ⟨h.resolve_eq (Or.inr hlink), hfile⟩
  have hopen : t.openToRead p = .ok (.regular octets mode) := by
    rw [openToRead, hfind, ok_bind]
    exact if_pos hmode
  rw [contents, hopen]
  rfl

theorem freePlace_eq (h : t.Leads p dir name) (hfree : t.lookup (dir ++ [name]) = none) :
    t.freePlace p = .ok (dir ++ [name]) := by
  obtain ⟨front, links, hnames, hw⟩ := h.way
  have hwalk : t.walk false maxLinks (origin t.current p) (front ++ [Path.dot]) = .ok dir := by
    rw [hw.walk_append (by simp), walk_dot h.directory, walk]
  have hspecial : ¬(name = Path.dot ∨ name = Path.dotDot) :=
    not_or.2 ⟨h.isEntryName.not_dot, h.isEntryName.not_dots⟩
  unfold freePlace
  rw [h.accepted, ok_bind]
  simp only [hnames, List.getLast?_concat, List.dropLast_concat]
  rw [hwalk, ok_bind]
  simp [hspecial, Nat.not_lt.2 h.isEntryName.short, hfree, h.no_slash, pure, Except.pure]

end Leads

end FileTree

end Pipework
