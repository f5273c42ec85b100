import Pipework.Files.NamedPipe
import Pipework.Proofs.Run.Planning

/-! Where the named pipes of a network lie. The names in a graph come from anywhere, and a pipe is
removed and made anew at the path that they lead to, so this path must not leave the directory that
is meant for pipes. -/

namespace Pipework

open Text

namespace NamedPipe

variable {σ : Type} [PipeStore σ]

theorem make_ne_invalidPath (s : σ) (p q : Path) (mode : Nat) :
    (make s p mode).1 ≠ .error (.invalidPath q) := by
  unfold make
  split
  · exact nofun
  · split <;> exact nofun

/-- A path is called invalid before the files are looked at, and only then. -/
theorem create_eq_invalidPath_iff {s : σ} {p q : Path} {mode : Nat} :
    (create s p mode).1 = .error (.invalidPath q) ↔
      (Path.fileName? p = none ∨ Path.hasZero p = true) ∧ q = p := by
  have htest : ((Path.fileName? p).isNone || Path.hasZero p) = true ↔
      Path.fileName? p = none ∨ Path.hasZero p = true := by
    rw [Bool.or_eq_true, Option.isNone_iff_eq_none]
  unfold create
  split
  · rename_i hinvalid
    constructor
    · intro h
      cases h
      exact ⟨htest.1 hinvalid, rfl⟩
    · rintro ⟨-, rfl⟩
      rfl
  · rename_i hvalid
    have hnever : ¬((Path.fileName? p = none ∨ Path.hasZero p = true) ∧ q = p) :=
      fun h => hvalid (htest.2 h.1)
    refine iff_of_false ?_ hnever
    split
    · split
      · exact make_ne_invalidPath _ _ _ _
      · exact nofun
    · exact nofun
    · split
      · exact make_ne_invalidPath _ _ _ _
      · exact nofun

end NamedPipe

/-- The path is that of the directory with one more name, which is the dotted name of an inport. -/
structure Endpoint.InDirectory (dir : Path) (p : Endpoint) (path : Path) : Prop where
  path_eq : path = dir.join (toBytes p.dotted)
  usable : UsableName p.dotted
  no_zero : Path.hasZero (toBytes p.dotted) = false
  child : path.components = dir.components ++ [.name (toBytes p.dotted)]
  extends_dir : dir <+: path
  absolute : path.isAbsolute = dir.isAbsolute
  /-- In any store of files, the path is invalid only on account of the directory. -/
  invalid_iff : ∀ {σ : Type} [PipeStore σ] (s : σ) (mode : Nat) (q : Path),
    (NamedPipe.create s path mode).1 = .error (.invalidPath q) ↔ dir.hasZero = true ∧ q = path

theorem Endpoint.inDirectory_pipePath {p : Endpoint} (hprocess : UsableName p.process)
    (hport : UsableName p.port) (dir : Path) :
    p.InDirectory dir (ComponentArgs.pipePath dir p.process p.port) := by
  have husable := usable_dotted hprocess hport
  obtain ⟨hname, hzero⟩ := husable.isName
  have hpath : ComponentArgs.pipePath dir p.process p.port = dir.join (toBytes p.dotted) := rfl
  rw [hpath]
  obtain ⟨sep, -, hjoin, -⟩ := Path.join_cases hname dir
  have hprefix : dir <+: dir.join (toBytes p.dotted) := by
    rw [hjoin, List.append_assoc]
    exact List.prefix_append _ _
  refine ⟨rfl, husable, hzero, Path.components_join hname dir, hprefix,
    Path.isAbsolute_join hname dir, ?_⟩
  intro σ _ s mode q
  rw [NamedPipe.create_eq_invalidPath_iff, Path.fileName?_join hname, Path.hasZero_join hname,
    hzero, Bool.or_false]
  simp

namespace Wiring

variable {g : Graph} {n : Network} {dir : Path} {boundary : ComponentArgs}

theorem inDirectory_of_edge (hn : Network.ofGraph g = .ok n) {e : Edge} (he : e ∈ g.edges)
    (dir : Path) : e.target.InDirectory dir (e.pipe dir) := by
  have hm : e.target ∈ n.internalInports :=
    (internalInports_perm hn).mem_iff.2 (List.mem_map_of_mem he)
  obtain ⟨hprocess, hport⟩ := usable_of_mem_internalInports hn hm
  exact Endpoint.inDirectory_pipePath hprocess hport dir

/-- Every path that planning makes up, be it for an inport, for the outport that feeds it or for a
refusal, is one name below the directory for pipes, and this name is that of an inport. -/
theorem pipes_inside_directory (hn : Network.ofGraph g = .ok n) (dir : Path)
    (boundary : ComponentArgs) :
    (∀ w, plan n dir boundary = .ok w →
      (∀ b ∈ w.received, Endpoint.InDirectory dir ⟨b.1, b.2.port⟩ b.2.path) ∧
      ∀ b ∈ w.sent, ∃ e ∈ g.edges, b = e.sending dir ∧ e.receiving dir ∈ w.received ∧
        e.target.InDirectory dir b.2.path) ∧
    ∀ path first second, plan n dir boundary = .error (.pathCollision path first second) →
      ∃ p ∈ n.internalInports, p.InDirectory dir path := by
  constructor
  · intro w hw
    have hreceived := received_perm hn hw
    constructor
    · intro b hb
      obtain ⟨e, he, rfl⟩ := List.mem_map.1 (hreceived.mem_iff.1 hb)
      exact inDirectory_of_edge hn he dir
    · intro b hb
      obtain ⟨e, he, rfl⟩ := List.mem_map.1 ((sent_perm hn hw).mem_iff.1 hb)
      have hfed : e.receiving dir ∈ w.received := hreceived.mem_iff.2 (List.mem_map_of_mem he)
      exact ⟨e, he, rfl, hfed, inDirectory_of_edge hn he dir⟩
  · intro path first second he
    have hrefusal := refusal_of_plan hn he
    cases hrefusal with
    | @collision p q hp hq hdiffer hsame =>
      obtain ⟨hprocess, hport⟩ := usable_of_mem_internalInports hn hp
      exact ⟨p, hp, Endpoint.inDirectory_pipePath hprocess hport dir⟩

/-- Names made of dots, which lead nowhere else: the pipe is a file of the directory, seen from
either end. -/
theorem pipes_inside_directory_of_dots :
    let g := ((Graph.empty.addProcess "..." "bin/a").addProcess "..b" "bin/b").connect
      ⟨"...", "OUT"⟩ ⟨"..b", "..."⟩
    let dir : Path := toBytes "/dev/shm/"
    let path : Path := toBytes "/dev/shm/..b...."
    ∃ n w, Network.ofGraph g = .ok n ∧ plan n dir {} = .ok w ∧
      ("..b", ⟨"...", path, .network⟩) ∈ w.received ∧
      ("...", ⟨"OUT", path, .network⟩) ∈ w.sent ∧
      path.components =
        [.root, .name (toBytes "dev"), .name (toBytes "shm"), .name (toBytes "..b....")] ∧
      ∀ (t : FileTree) (mode : Nat) (q : Path),
        (NamedPipe.create t path mode).1 ≠ .error (.invalidPath q) := by
  intro g dir path
  have hok : (do plan (← Network.ofGraph g) dir {}).isOk = true := by decide +kernel
  cases hrun : (do plan (← Network.ofGraph g) dir {} : Except NetworkError Wiring) with
  | error e =>
    rw [hrun] at hok
    cases hok
  | ok w =>
    obtain ⟨n, hn, hw⟩ := bind_eq_ok_iff.1 hrun
    obtain ⟨hplanned, -⟩ := pipes_inside_directory hn dir {}
    obtain ⟨hreceived, -⟩ := hplanned w hw
    let e : Edge := ⟨⟨"...", "OUT"⟩, ⟨"..b", "..."⟩⟩
    have he : e ∈ g.edges := by decide +kernel
    have hb : e.receiving dir ∈ w.received :=
      (received_perm hn hw).mem_iff.2 (List.mem_map_of_mem he)
    have hs : e.sending dir ∈ w.sent := (sent_perm hn hw).mem_iff.2 (List.mem_map_of_mem he)
    have hpath : e.pipe dir = path := by decide +kernel
    have hinside : e.target.InDirectory dir (e.pipe dir) := hreceived _ hb
    rw [hpath] at hinside
    have hvalid : dir.hasZero = false := by decide
    refine ⟨n, w, hn, hw, ?_, ?_, ?_, ?_⟩
    · rw [← hpath]
      exact hb
    · rw [← hpath]
      exact hs
    · rw [hinside.child]
      decide +kernel
    · intro t mode q hinvalid
      have hzero := ((hinside.invalid_iff t mode q).1 hinvalid).1
      rw [hvalid] at hzero
      cases hzero

end Wiring

end Pipework
