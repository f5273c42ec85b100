import Pipework.Proofs.Wiring.Plan

/-! Why the ports of a network cannot be bound: no path has been supplied, or a pipe is claimed for
the second time. Of what is supplied only the paths that some port asks for make a difference. -/

namespace Pipework.Wiring

variable {dir : Path} {boundary other : ComponentArgs} {taken : Taken} {e : NetworkError}

/-- A port of the process asks for a path that has not been supplied. -/
inductive Unsupplied (boundary : ComponentArgs) (n : Node) : NetworkError → Prop
  | inport {p : Inport} {name : String} (mem : p ∈ n.inports) (asks : p.boundary = some name)
      (missing : boundary.inport? name = none) :
      Unsupplied boundary n (.missingBoundaryPath "inport" name)
  | outport {p : Outport} {name : String} (mem : p ∈ n.outports)
      (asks : p.target = .boundary name) (missing : boundary.outport? name = none) :
      Unsupplied boundary n (.missingBoundaryPath "outport" name)

/-- One of the pipes `cs` is claimed after it has been given away. -/
def Collides (taken cs : Taken) (e : NetworkError) : Prop :=
  ∃ before c after first, cs = before ++ c :: after ∧ (c.1, first) ∈ before ++ taken ∧
    e = .pathCollision c.1 first c.2

theorem Collides.append {cs : Taken} (h : Collides taken cs e) (ds : Taken) :
    Collides taken (cs ++ ds) e := by
  obtain ⟨before, c, after, first, rfl, hfirst, he⟩ := h
  exact ⟨before, c, after ++ ds, first, by simp, hfirst, he⟩

/-- It makes no difference whether pipes were given away before or are claimed first. -/
theorem Collides.prepend {taken' xs cs : Taken} (h : Collides taken' cs e)
    (ht : ∀ c ∈ taken', c ∈ xs ++ taken) : Collides taken (xs ++ cs) e := by
  obtain ⟨before, c, after, first, rfl, hfirst, he⟩ := h
  refine ⟨xs ++ before, c, after, first, by simp, ?_, he⟩
  rcases List.mem_append.1 hfirst with hb | ht'
  · exact List.mem_append_left _ (List.mem_append_right _ hb)
  · rcases List.mem_append.1 (ht _ ht') with hx | hx
    · exact List.mem_append_left _ (List.mem_append_left _ hx)
    · exact List.mem_append_right _ hx

theorem supplied_eq_error {path : Option Path} {d : Direction} {name : String}
    (h : supplied path d name = .error e) :
    path = none ∧ e = .missingBoundaryPath d.portWord name := by
  cases path with
  | none => exact ⟨rfl, (Except.error.inj h).symm⟩
  | some path => cases h

theorem bindInport_eq_error {n : Node} {p : Inport} (hp : p ∈ n.inports)
    (h : bindInport dir boundary n.name taken p = .error e) :
    Unsupplied boundary n e ∨ Collides taken (claim? dir n.name p).toList e := by
  unfold bindInport at h
  unfold claim?
  cases hb : p.boundary with
  | some name =>
    rw [hb] at h
    rcases bind_eq_error_iff.1 h with hs | ⟨path, -, hnone⟩
    · obtain ⟨hmissing, rfl⟩ := supplied_eq_error hs
      exact Or.inl (.inport hp hb hmissing)
    · cases hnone
  | none =>
    rw [hb] at h
    simp only at h
    split at h
    · rename_i first hfirst
      right
      refine ⟨[], _, [], first, rfl, ?_, (Except.error.inj h).symm⟩
      obtain ⟨l, r, hl, -⟩ := List.lookup_eq_some_iff.1 hfirst
      rw [hl]
      simp
    · cases h

theorem bindInports_eq_error {n : Node} {ps : List Inport} (hps : ∀ p ∈ ps, p ∈ n.inports)
    (h : bindInports dir boundary n.name taken ps = .error e) :
    Unsupplied boundary n e ∨ Collides taken (claims dir n.name ps) e := by
  induction ps generalizing taken with
  | nil => cases h
  | cons p ps ih =>
    obtain ⟨hp, hps⟩ := List.forall_mem_cons.1 hps
    have hclaims : claims dir n.name (p :: ps) =
        (claim? dir n.name p).toList ++ claims dir n.name ps := by
      cases hc : claim? dir n.name p <;> simp [claims, hc]
    rw [bindInports] at h
    rw [hclaims]
    rcases bind_eq_error_iff.1 h with hfirst | ⟨⟨taken', b⟩, hb, hlater⟩
    · exact (bindInport_eq_error hp hfirst).imp id fun hc => hc.append _
    · obtain ⟨-, -, hr⟩ := bindInport_eq_ok_iff.1 hb
      obtain ⟨rfl, rfl⟩ := Prod.mk.inj hr
      rcases bind_eq_error_iff.1 hlater with hrest | ⟨r, -, hnone⟩
      · exact (ih hps hrest).imp id fun hc => hc.prepend fun _ hm => hm
      · cases hnone

theorem bindOutports_eq_error {n : Node}
    (h : n.outports.mapM (bindOutport dir boundary) = .error e) : Unsupplied boundary n e := by
  obtain ⟨p, hp, he⟩ := exists_of_mapM_eq_error h
  unfold bindOutport at he
  cases ht : p.target with
  | port process port =>
    rw [ht] at he
    cases he
  | boundary name =>
    rw [ht] at he
    rcases bind_eq_error_iff.1 he with hs | ⟨path, -, hnone⟩
    · obtain ⟨hmissing, rfl⟩ := supplied_eq_error hs
      exact .outport hp ht hmissing
    · cases hnone

theorem bindNodes_eq_error (hn : (taken.map Prod.fst).Nodup) {ns : List Node}
    (h : bindNodes dir boundary taken ns = .error e) :
    (∃ n ∈ ns, Unsupplied boundary n e) ∨ Collides taken (allClaims dir ns) e := by
  induction ns generalizing taken with
  | nil => cases h
  | cons n ns ih =>
    have hclaims : allClaims dir (n :: ns) = claims dir n.name n.inports ++ allClaims dir ns := rfl
    rw [bindNodes] at h
    rw [hclaims]
    rcases bind_eq_error_iff.1 h with hin | ⟨⟨taken', ins⟩, hin, hlater⟩
    · rcases bindInports_eq_error (fun _ hp => hp) hin with hs | hc
      · exact Or.inl ⟨n, List.mem_cons_self, hs⟩
      · exact Or.inr (hc.append _)
    · -- what the first process has claimed is given away before the others claim
      obtain ⟨-, hfresh, hr⟩ := (bindInports_eq_ok_iff hn).1 hin
      obtain ⟨rfl, rfl⟩ := Prod.mk.inj hr
      rcases bind_eq_error_iff.1 hlater with hout | ⟨outs, -, hlater⟩
      · exact Or.inl ⟨n, List.mem_cons_self, bindOutports_eq_error hout⟩
      · rcases bind_eq_error_iff.1 hlater with hrest | ⟨r, -, hnone⟩
        · rcases ih hfresh hrest with ⟨n', hn', hs⟩ | hc
          · exact Or.inl ⟨n', List.mem_cons_of_mem n hn', hs⟩
          · exact Or.inr (hc.prepend fun _ hm => by simpa using hm)
        · cases hnone

/-- A network is not wired because a path is missing or because two claims meet. -/
theorem plan_eq_error {n : Network} (h : plan n dir boundary = .error e) :
    (∃ p ∈ n.processes.values, Unsupplied boundary p e) ∨
      Collides [] (allClaims dir n.processes.values) e := by
  rcases bind_eq_error_iff.1 h with hbind | ⟨bound, -, hnone⟩
  · have hnil : (([] : Taken).map Prod.fst).Nodup := List.nodup_nil
    exact bindNodes_eq_error hnil hbind
  · cases hnone

end Pipework.Wiring
