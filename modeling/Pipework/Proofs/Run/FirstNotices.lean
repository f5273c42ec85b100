import Mathlib.Data.List.Dedup
import Mathlib.Data.List.Induction
import Mathlib.Data.List.Perm.Basic
import Pipework.Run.Tally

/-! The first notice of every process. All others are stray, and what comes of a process is decided
by its first notice alone. -/

namespace Pipework

/-- The failure that a notice reports, if it reports one. -/
def Notice.failure? (n : Notice) : Option ProcessFailure :=
  n.outcome.failure?.map fun reason => ⟨n.process, reason⟩

namespace Tally

/-- The first notice of every process in the list, in order. -/
def firstNotices (processes : List String) (ns : List Notice) : List Notice :=
  ns.foldl (fun firsts n =>
    if n.process ∈ processes ∧ n.process ∉ firsts.map (·.process) then firsts ++ [n]
    else firsts) []

/-- Why a process counts as failed, if it does, when these are the notices. -/
def verdict? (ns : List Notice) (process : String) : Option FailureReason :=
  match ns.find? (·.process == process) with
  | none => some .lost
  | some n => n.outcome.failure?

section

variable {processes : List String} {ns ms : List Notice} {n : Notice} {p : String}

theorem mem_map_firstNotices : p ∈ (firstNotices processes ns).map (·.process) ↔
    p ∈ processes ∧ p ∈ ns.map (·.process) := by
  induction ns using List.reverseRecOn with
  | nil => simp [firstNotices]
  | append_singleton ns n ih =>
    rw [firstNotices, List.foldl_append, ← firstNotices]
    change p ∈ List.map _ (if _ then _ else _) ↔ _
    split
    · rename_i hn
      simp only [List.map_append, List.mem_append, ih, List.map_singleton, List.mem_singleton]
      constructor
      · rintro (⟨hp, hm⟩ | rfl)
        · exact ⟨hp, .inl hm⟩
        · exact ⟨hn.1, .inr rfl⟩
      · rintro ⟨hp, hm | rfl⟩
        · exact .inl ⟨hp, hm⟩
        · exact .inr rfl
    · rename_i hn
      rw [ih, List.map_append, List.mem_append, List.map_singleton, List.mem_singleton]
      refine and_congr_right fun hp => ⟨.inl, ?_⟩
      rintro (hm | rfl)
      · exact hm
      · by_contra hc
        exact hn ⟨hp, fun hf => hc (ih.1 hf).2⟩

theorem firstNotices_append_singleton : firstNotices processes (ns ++ [n]) =
    if n.process ∈ processes ∧ n.process ∉ ns.map (·.process) then
      firstNotices processes ns ++ [n]
    else firstNotices processes ns := by
  rw [firstNotices, List.foldl_append, ← firstNotices]
  apply if_congr _ rfl rfl
  refine and_congr_right fun hp => not_congr ?_
  rw [mem_map_firstNotices, and_iff_right hp]

theorem firstNotices_sublist (processes : List String) (ns : List Notice) :
    (firstNotices processes ns).Sublist ns := by
  induction ns using List.reverseRecOn with
  | nil => exact List.Sublist.refl []
  | append_singleton ns n ih =>
    rw [firstNotices_append_singleton]
    split
    · exact ih.append_right [n]
    · exact ih.trans (List.sublist_append_left ns [n])

theorem nodup_firstNotices (processes : List String) (ns : List Notice) :
    ((firstNotices processes ns).map (·.process)).Nodup := by
  induction ns using List.reverseRecOn with
  | nil => exact List.nodup_nil
  | append_singleton ns n ih =>
    rw [firstNotices_append_singleton]
    split
    · rename_i hn
      rw [List.map_append, List.map_singleton, ← List.concat_eq_append]
      exact ih.concat fun hm => hn.2 (mem_map_firstNotices.1 hm).2
    · exact ih

theorem find?_eq_none_iff : ns.find? (·.process == p) = none ↔ p ∉ ns.map (·.process) := by
  simp [List.find?_eq_none]

/-- The first notices are what a search by name finds. -/
theorem find?_of_mem_firstNotices (h : n ∈ firstNotices processes ns) :
    ns.find? (·.process == n.process) = some n := by
  induction ns using List.reverseRecOn with
  | nil => cases h
  | append_singleton ns n' ih =>
    rw [List.find?_append]
    rw [firstNotices_append_singleton] at h
    split at h
    · rename_i hn
      rcases List.mem_append.1 h with h | h
      · rw [ih h, Option.some_or]
      · rw [List.mem_singleton.1 h, find?_eq_none_iff.2 hn.2]
        simp
    · rw [ih h, Option.some_or]

/-- Later notices change nothing for processes that have had one. -/
theorem firstNotices_append (h : ∀ p ∈ processes, p ∈ ns.map (·.process)) :
    firstNotices processes (ns ++ ms) = firstNotices processes ns := by
  induction ms using List.reverseRecOn with
  | nil => rw [List.append_nil]
  | append_singleton ms m ih =>
    rw [← List.append_assoc, firstNotices_append_singleton, ih, if_neg]
    rintro ⟨hp, hn⟩
    rw [List.map_append, List.mem_append, not_or] at hn
    exact hn.1 (h _ hp)

/-- The processes without a notice. -/
def unheard (processes : List String) (ns : List Notice) : List String :=
  processes.dedup.filter fun p => p ∉ ns.map (·.process)

theorem mem_unheard_iff : p ∈ unheard processes ns ↔ p ∈ processes ∧ p ∉ ns.map (·.process) := by
  simp [unheard]

theorem nodup_unheard (processes : List String) (ns : List Notice) :
    (unheard processes ns).Nodup := (List.nodup_dedup processes).filter _

/-- A process has a first notice or none. -/
theorem perm_dedup (processes : List String) (ns : List Notice) :
    processes.dedup.Perm ((firstNotices processes ns).map (·.process) ++ unheard processes ns) := by
  have hnodup : ((firstNotices processes ns).map (·.process) ++ unheard processes ns).Nodup := by
    refine (nodup_firstNotices processes ns).append (nodup_unheard processes ns) ?_
    intro p hp hu
    exact (mem_unheard_iff.1 hu).2 (mem_map_firstNotices.1 hp).2
  rw [List.perm_ext_iff_of_nodup (List.nodup_dedup processes) hnodup]
  intro p
  rw [List.mem_dedup, List.mem_append, mem_map_firstNotices, mem_unheard_iff, ← and_or_left]
  exact ⟨fun hp => ⟨hp, em _⟩, fun hp => hp.1⟩

theorem verdict?_of_mem_firstNotices (h : n ∈ firstNotices processes ns) :
    verdict? ns n.process = n.outcome.failure? := by
  rw [verdict?, find?_of_mem_firstNotices h]

theorem verdict?_of_mem_unheard (h : p ∈ unheard processes ns) : verdict? ns p = some .lost := by
  rw [verdict?, find?_eq_none_iff.2 (mem_unheard_iff.1 h).2]

end

theorem countP_verdict? (processes : List String) (ns : List Notice) :
    processes.dedup.countP (fun p => (verdict? ns p).isNone) =
      (firstNotices processes ns).countP (·.failure?.isNone) := by
  have hfirsts : ((firstNotices processes ns).map (·.process)).countP
      (fun p => (verdict? ns p).isNone) =
      (firstNotices processes ns).countP (·.failure?.isNone) := by
    rw [List.countP_map]
    apply List.countP_congr
    intro n hn
    rw [Function.comp_apply, verdict?_of_mem_firstNotices hn, Notice.failure?, Option.isNone_map]
  have hunheard : (unheard processes ns).countP (fun p => (verdict? ns p).isNone) = 0 := by
    rw [List.countP_eq_zero]
    intro p hp
    rw [verdict?_of_mem_unheard hp]
    nofun
  rw [(perm_dedup processes ns).countP_eq, List.countP_append, hfirsts, hunheard, Nat.add_zero]

/-- The failure of a process, if it has one, when these are the notices. -/
def failureOf? (ns : List Notice) (process : String) : Option ProcessFailure :=
  (verdict? ns process).map fun reason => ⟨process, reason⟩

theorem filterMap_failureOf? (processes : List String) (ns : List Notice) :
    (processes.dedup.filterMap (failureOf? ns)).Perm
      ((firstNotices processes ns).filterMap Notice.failure? ++
        (unheard processes ns).map (⟨·, .lost⟩)) := by
  have hfirsts : ((firstNotices processes ns).map (·.process)).filterMap (failureOf? ns) =
      (firstNotices processes ns).filterMap Notice.failure? := by
    rw [List.filterMap_map]
    apply List.filterMap_congr
    intro n hn
    rw [Function.comp_apply, failureOf?, verdict?_of_mem_firstNotices hn, Notice.failure?]
  have hunheard : (unheard processes ns).filterMap (failureOf? ns) =
      (unheard processes ns).map (⟨·, .lost⟩) := by
    rw [← List.filterMap_eq_map]
    apply List.filterMap_congr
    intro p hp
    rw [failureOf?, verdict?_of_mem_unheard hp]
    rfl
  refine ((perm_dedup processes ns).filterMap _).trans ?_
  rw [List.filterMap_append, hfirsts, hunheard]

theorem countP_add_length_filterMap (processes : List String) (ns : List Notice) :
    processes.countP (fun p => (verdict? ns p).isNone) +
      (processes.filterMap (failureOf? ns)).length = processes.length := by
  rw [List.length_filterMap_eq_countP, Nat.add_comm,
    List.length_eq_countP_add_countP (fun p => (failureOf? ns p).isSome)]
  congr 1
  apply List.countP_congr
  intro p _
  simp [failureOf?]

/-- A list without repetitions has one entry for each of its names at most. -/
theorem filter_filterMap_failureOf? {l : List String} (hl : l.Nodup) (ns : List Notice)
    {p : String} (hp : p ∈ l) :
    (l.filterMap (failureOf? ns)).filter (·.process == p) = (failureOf? ns p).toList := by
  have hfilter : (l.filterMap (failureOf? ns)).filter (·.process == p) =
      (l.filter (· == p)).filterMap (failureOf? ns) := by
    rw [List.filter_filterMap, List.filterMap_filter]
    apply List.filterMap_congr
    intro q _
    unfold failureOf?
    by_cases hq : q = p <;> cases verdict? ns q <;> simp [hq]
  rw [hfilter, List.filter_beq, List.count_eq_one_of_mem hl hp, List.replicate_one]
  cases h : failureOf? ns p <;> simp [h]

end Tally

end Pipework
