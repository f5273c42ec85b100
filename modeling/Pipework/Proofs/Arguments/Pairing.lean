import Pipework.Proofs.Arguments

/-! The two flags of a binding belong together: a port, then its path. The flags of inports and
those of outports are paired by themselves, however they stand among one another. -/

namespace Pipework

open Text

namespace PortFlag

/-- Flags taken one after the other make these bindings. A port may still wait for its path. -/
def Binds (port : PortFlag) : Option String → List (PortFlag × Bytes) → List PortPath → Prop
  | none, [], bs => bs = []
  | some _, [], _ => False
  | waiting, f :: fs, bs =>
    if f.1 = port then waiting = none ∧ Binds port (some (lossy f.2)) fs bs
    else if f.1 = port.partner then
      ∃ name rest, waiting = some name ∧ bs = ⟨name, f.2⟩ :: rest ∧ Binds port none fs rest
    else Binds port waiting fs bs

/-- The flags of one kind of binding. -/
def side (port : PortFlag) (fs : List (PortFlag × Bytes)) : List (PortFlag × Bytes) :=
  fs.filter fun f => f.1 == port || f.1 == port.partner

/-- The flags of these ports and paths, in order. -/
def pairs (port : PortFlag) (ps : List (Bytes × Bytes)) : List (PortFlag × Bytes) :=
  ps.flatMap fun p => [(port, p.1), (port.partner, p.2)]

/-- The bindings of these ports and paths. -/
def bindings (ps : List (Bytes × Bytes)) : List PortPath := ps.map fun p => ⟨lossy p.1, p.2⟩

variable {port : PortFlag}

theorem partner_ne (port : PortFlag) : port.partner ≠ port := by
  cases port <;> decide

theorem side_cons (f : PortFlag × Bytes) (fs : List (PortFlag × Bytes)) : port.side (f :: fs) =
    if f.1 = port ∨ f.1 = port.partner then f :: port.side fs else port.side fs := by
  simp [side, List.filter_cons]

/-- The first of the flags is a port, if no port waits, and a path otherwise. -/
theorem binds_iff_side (fs : List (PortFlag × Bytes)) :
    (∀ bs, Binds port none fs bs ↔ ∃ ps, port.side fs = pairs port ps ∧ bs = bindings ps) ∧
    ∀ name bs, Binds port (some name) fs bs ↔ ∃ path ps,
      port.side fs = (port.partner, path) :: pairs port ps ∧ bs = ⟨name, path⟩ :: bindings ps := by
  -- a port leads from the first statement to the second and a path leads back, so both go together
  induction fs with
  | nil =>
    constructor
    · intro bs
      constructor
      · rintro rfl
        exact ⟨[], rfl, rfl⟩
      · rintro ⟨_ | ⟨p, ps⟩, hside, rfl⟩
        · rfl
        · cases hside
    · intro name bs
      constructor
      · exact False.elim
      · rintro ⟨path, ps, hside, -⟩
        cases hside
  | cons f fs ih =>
    obtain ⟨flag, value⟩ := f
    by_cases hport : flag = port
    · subst hport
      have hne := partner_ne flag
      rw [side_cons, if_pos (Or.inl rfl)]
      constructor
      · intro bs
        simp only [Binds, if_true, true_and, ih.2]
        constructor
        · rintro ⟨path, ps, hside, rfl⟩
          exact ⟨(value, path) :: ps, by rw [hside]; rfl, rfl⟩
        · rintro ⟨_ | ⟨p, ps⟩, hside, rfl⟩
          · cases hside
          · obtain ⟨hf, htail⟩ := List.cons.inj hside
            obtain rfl := (Prod.mk.inj hf).2
            exact ⟨p.2, ps, htail, rfl⟩
      · intro name bs
        simp only [Binds, if_true, reduceCtorEq, false_and, false_iff]
        rintro ⟨path, ps, hside, -⟩
        exact hne (Prod.mk.inj (List.cons.inj hside).1).1.symm
    · by_cases hpath : flag = port.partner
      · subst hpath
        rw [side_cons, if_pos (Or.inr rfl)]
        constructor
        · intro bs
          simp only [Binds, if_neg hport, if_true, reduceCtorEq, false_and, exists_false, false_iff]
          rintro ⟨_ | ⟨p, ps⟩, hside, -⟩
          · cases hside
          · exact hport (Prod.mk.inj (List.cons.inj hside).1).1
        · intro name bs
          simp only [Binds, if_neg hport, if_true, ih.1]
          constructor
          · rintro ⟨_, _, hname, rfl, ps, hside, rfl⟩
            obtain rfl := Option.some.inj hname
            exact ⟨value, ps, by rw [hside], rfl⟩
          · rintro ⟨path, ps, hside, rfl⟩
            obtain ⟨hf, htail⟩ := List.cons.inj hside
            obtain rfl := (Prod.mk.inj hf).2
            exact ⟨name, bindings ps, rfl, rfl, ps, htail, rfl⟩
      · -- flags of the other side are passed over
        rw [side_cons, if_neg (not_or.2 ⟨hport, hpath⟩)]
        simp only [Binds, if_neg hport, if_neg hpath]
        exact ih

/-- Flags make bindings exactly if ports and paths take turns, from a port to a path. -/
theorem binds_iff {fs : List (PortFlag × Bytes)} {bs : List PortPath} :
    Binds port none fs bs ↔ ∃ ps, port.side fs = pairs port ps ∧ bs = bindings ps :=
  (binds_iff_side fs).1 bs

/-- The path of a binding is the value of a flag. -/
theorem Binds.mem_flags {fs : List (PortFlag × Bytes)} {bs : List PortPath}
    (h : Binds port none fs bs) {b : PortPath} (hb : b ∈ bs) : (port.partner, b.path) ∈ fs := by
  obtain ⟨ps, hside, rfl⟩ := binds_iff.1 h
  obtain ⟨p, hp, rfl⟩ := List.mem_map.1 hb
  have hm : (port.partner, p.2) ∈ pairs port ps := by
    rw [pairs, List.mem_flatMap]
    exact ⟨p, hp, by simp⟩
  rw [← hside] at hm
  exact List.mem_of_mem_filter hm

end PortFlag

namespace PortPairing

open PortFlag

/-- All flags are taken, and no port is left without its path, exactly if the flags make bindings on
either side. -/
theorem foldlM_add_close_eq_ok_iff (q : PortPairing) (fs : List (PortFlag × Bytes))
    (ports : ComponentArgs) : (fs.foldlM add q >>= close) = .ok ports ↔
      ∃ ins outs, Binds .inport q.openInport fs ins ∧ Binds .outport q.openOutport fs outs ∧
        ports = { inports := q.inports ++ ins, outports := q.outports ++ outs } := by
  induction fs generalizing q with
  | nil =>
    obtain ⟨ins, outs, openIn, openOut⟩ := q
    cases openIn <;> cases openOut <;> simp [pure, Except.pure, close, Binds, eq_comm]
  | cons f fs ih =>
    obtain ⟨ins, outs, openIn, openOut⟩ := q
    obtain ⟨flag, value⟩ := f
    rw [List.foldlM_cons, bind_assoc]
    cases flag <;> cases openIn <;> cases openOut <;> simp [add, Binds, ih, PortFlag.partner]

end PortPairing

end Pipework
