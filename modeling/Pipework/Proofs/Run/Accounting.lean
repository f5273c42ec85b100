import Pipework.Proofs.Run.Completion
import Pipework.Proofs.Run.FirstNotices

/-! Every registered process is accounted for once. What a tally reports is a function of the first
notice of each process, so neither the streams nor stray notices have a part in it. -/

namespace Pipework

namespace Tally

/-- The sums of a tally, in terms of the notices that have been counted and the processes that have
been given up. -/
structure Accounts (processes : List String) (ns counted : List Notice) (lost : List String)
    (c : Tally) : Prop where
  firsts : firstNotices processes ns = counted ++ (c.retiring.map (·.notice)).toList
  succeeded : c.succeeded = counted.countP (·.failure?.isNone)
  failed : c.failed = counted.filterMap Notice.failure? ++ lost.map (⟨·, .lost⟩)
  waits : c.finished = false → lost = []
  missing : c.finished = true → lost.Perm (unheard processes ns)
  ended : lost ≠ [] → c.closed = true ∧ c.queue = []

section

variable {processes lost : List String} {es : List Event} {ns counted : List Notice}
  {c d : Tally}

theorem Accounts.apply (h : Accounts processes ns counted lost c) (e : Event) :
    Accounts processes ns counted lost (c.apply e) := by
  obtain ⟨marks, clock, heq, -⟩ := apply_eq c e
  rw [heq]
  refine ⟨h.firsts, h.succeeded, h.failed, h.waits, h.missing, fun hl => ?_⟩
  obtain ⟨hc, hq⟩ := h.ended hl
  -- nothing can be sent any more
  simp [hc, hq]

theorem Accounts.count (h : Accounts processes ns counted [] c) {r : Retiring}
    (hf : c.finished = false) (hr : c.retiring = some r) :
    Accounts processes ns (counted ++ [r.notice]) [] (c.count r.notice) := by
  have hfirsts : firstNotices processes ns = (counted ++ [r.notice]) ++ [] := by
    rw [h.firsts, hr, List.append_nil]
    rfl
  have hfailed := h.failed
  rw [List.map_nil, List.append_nil] at hfailed
  unfold Tally.count
  split
  · rename_i hnone
    have hn : r.notice.failure? = none := by rw [Notice.failure?, hnone, Option.map_none]
    refine ⟨hfirsts, ?_, ?_, fun _ => rfl, fun ht => ?_, fun hl => absurd rfl hl⟩
    · rw [List.countP_append, ← h.succeeded, List.countP_singleton, hn]
      rfl
    · simp [hfailed, hn]
    · cases hf.symm.trans ht
  · rename_i reason hsome
    have hn : r.notice.failure? = some ⟨r.notice.process, reason⟩ := by
      rw [Notice.failure?, hsome, Option.map_some]
    refine ⟨hfirsts, ?_, ?_, fun _ => rfl, fun ht => ?_, fun hl => absurd rfl hl⟩
    · rw [List.countP_append, ← h.succeeded, List.countP_singleton, hn]
      rfl
    · simp [hfailed, hn]
    · cases hf.symm.trans ht

theorem Accounts.step (h : Accounts processes ns counted lost c) (hk : Kept processes es ns c)
    (hs : c.step? = some d) :
    ∃ counted' lost', Accounts processes (ns ++ c.taken?.toList) counted' lost' d := by
  obtain ⟨hf, t, ht, hstep⟩ := step_cases hs
  obtain rfl := h.waits hf
  have hout (p : String) : p ∈ c.outstanding.names ↔ p ∈ unheard processes ns := by
    rw [hk.outstanding hf, mem_unheard_iff]
  have hgoes := Bool.eq_false_iff.1 hf
  rw [ht]
  cases hstep with
  | count r hr hm =>
    rw [Option.toList_none, List.append_nil]
    exact ⟨_, _, h.count hf hr⟩
  | complete hr ho =>
    rw [Option.toList_none, List.append_nil]
    refine ⟨counted, [], h.firsts, h.succeeded, h.failed, nofun, fun _ => ?_, h.ended⟩
    rw [List.nil_perm, List.eq_nil_iff_forall_not_mem]
    intro p hp
    rw [← hout, ho] at hp
    cases hp
  | takeUp n queue hr hq hn =>
    refine ⟨counted, [], ?_, h.succeeded, h.failed, fun _ => rfl, fun ht => absurd ht hgoes,
      fun hl => absurd rfl hl⟩
    have hfirsts := h.firsts
    rw [hr, Option.map_none, Option.toList_none, List.append_nil] at hfirsts
    rw [Option.toList_some, firstNotices_append_singleton,
      if_pos ((hk.outstanding hf _).1 hn), hfirsts]
    rfl
  | ignore n queue hr hq hn =>
    refine ⟨counted, [], ?_, h.succeeded, h.failed, fun _ => rfl, fun ht => absurd ht hgoes,
      fun hl => absurd rfl hl⟩
    rw [Option.toList_some, firstNotices_append_singleton,
      if_neg fun hp => hn ((hk.outstanding hf _).2 hp)]
    exact h.firsts
  | giveUp hr hq hc =>
    rw [Option.toList_none, List.append_nil]
    refine ⟨counted, c.outstanding.names, h.firsts, h.succeeded, ?_, nofun, fun _ => ?_,
      fun _ => ⟨hc, hq⟩⟩
    · change c.failed ++ _ = _
      rw [h.failed, List.map_nil, List.append_nil]
    · rw [List.perm_ext_iff_of_nodup c.outstanding.nodup_names (nodup_unheard processes ns)]
      exact hout

theorem Run.accounts {grace : Nat} (h : Run (ofProcesses grace processes) es ns c) :
    ∃ counted lost, Accounts processes ns counted lost c := by
  induction h with
  | start =>
    obtain ⟨outstanding, marks, heq, -⟩ := ofProcesses_eq grace processes
    rw [heq]
    exact ⟨[], [], rfl, rfl, rfl, fun _ => rfl, nofun, fun hl => absurd rfl hl⟩
  | event _ e ih =>
    obtain ⟨counted, lost, ha⟩ := ih
    exact ⟨counted, lost, ha.apply e⟩
  | step h hs ih =>
    obtain ⟨counted, lost, ha⟩ := ih
    exact ha.step h.kept hs

/-- What a complete tally reports. The last of the notices may not have been taken any more; they
tell nothing new. -/
theorem Run.books {grace : Nat} (h : Run (ofProcesses grace processes) es ns c)
    (hf : c.finished = true) : ∃ lost : List String, lost.Perm (unheard processes (sent es)) ∧
      c.succeeded = (firstNotices processes (sent es)).countP (·.failure?.isNone) ∧
      c.failed = (firstNotices processes (sent es)).filterMap Notice.failure? ++
        lost.map (⟨·, .lost⟩) := by
  obtain ⟨counted, lost, ha⟩ := h.accounts
  have hk := h.kept
  have hcounted : firstNotices processes ns = counted := by
    rw [ha.firsts, hk.counted hf, Option.map_none, Option.toList_none, List.append_nil]
  have hsent : firstNotices processes (sent es) = firstNotices processes ns ∧
      unheard processes (sent es) = unheard processes ns := by
    rw [← hk.sent]
    by_cases hl : lost = []
    · -- every process has had its notice, whatever is left in the queue
      have hnil : unheard processes ns = [] := by
        rw [← List.nil_perm, ← hl]
        exact ha.missing hf
      have hall : ∀ p ∈ processes, p ∈ ns.map (·.process) := by
        intro p hp
        by_contra hn
        have hu := mem_unheard_iff.2 ⟨hp, hn⟩
        rw [hnil] at hu
        cases hu
      refine ⟨firstNotices_append hall, ?_⟩
      rw [hnil, List.eq_nil_iff_forall_not_mem]
      intro p hp
      obtain ⟨hm, hn⟩ := mem_unheard_iff.1 hp
      rw [List.map_append, List.mem_append, not_or] at hn
      exact hn.1 (hall p hm)
    · -- somebody was given up, so the queue was empty and stays empty
      rw [(ha.ended hl).2, List.append_nil]
      exact ⟨rfl, rfl⟩
  rw [hsent.1, hsent.2, hcounted]
  exact ⟨lost, ha.missing hf, ha.succeeded, ha.failed⟩

theorem summary?_eq_some_iff {s : RunSummary} : c.summary? = some s ↔
    c.finished = true ∧ s = ⟨c.launched, c.succeeded, c.failed⟩ := by
  unfold summary?
  split
  · rename_i hf
    rw [Option.some.injEq, and_iff_right hf, eq_comm]
  · rename_i hf
    exact ⟨nofun, fun h => absurd h.1 hf⟩

/-- What is reported depends on the first notices alone. -/
theorem Run.summary {grace : Nat} {s : RunSummary}
    (h : Run (ofProcesses grace processes) es ns c) (hs : c.summary? = some s) :
    s.launched = processes.dedup.length ∧
    s.succeeded = processes.dedup.countP (fun p => (verdict? (sent es) p).isNone) ∧
    s.failed.Perm (processes.dedup.filterMap (failureOf? (sent es))) := by
  obtain ⟨hf, rfl⟩ := summary?_eq_some_iff.1 hs
  obtain ⟨lost, hlost, hsucceeded, hfailed⟩ := h.books hf
  refine ⟨h.kept.launched, ?_, ?_⟩
  · rw [countP_verdict?]
    exact hsucceeded
  · change c.failed.Perm _
    rw [hfailed]
    exact ((hlost.map _).append_left _).trans (filterMap_failureOf? processes _).symm

theorem Run.lost_iff {grace : Nat} (h : Run (ofProcesses grace processes) es ns c)
    (hf : c.finished = true) (p : String) :
    ⟨p, .lost⟩ ∈ c.failed ↔ p ∈ processes ∧ p ∉ ns.map (·.process) := by
  obtain ⟨acts, hp, rfl⟩ := h.exists_progress
  constructor
  · intro hl
    obtain ⟨-, hm, hn, -⟩ := hp.lost p hl
    exact ⟨hm, hn⟩
  · rintro ⟨hm, hn⟩
    exact hp.unheard hf p hm hn

theorem Run.filter_failed {grace : Nat} (h : Run (ofProcesses grace processes) es ns c)
    (hf : c.finished = true) : c.failed.filter (·.reason ≠ .lost) =
      (firstNotices processes (sent es)).filterMap Notice.failure? := by
  obtain ⟨lost, -, -, hfailed⟩ := h.books hf
  have hkept : ((firstNotices processes (sent es)).filterMap Notice.failure?).filter
      (·.reason ≠ .lost) = (firstNotices processes (sent es)).filterMap Notice.failure? := by
    rw [List.filter_eq_self]
    intro f hm
    obtain ⟨n, -, hn⟩ := List.mem_filterMap.1 hm
    obtain ⟨reason, hreason, rfl⟩ := Option.map_eq_some_iff.1 hn
    have hne : reason ≠ .lost := fun he => n.outcome.failure?_ne_lost (he ▸ hreason)
    simpa using hne
  have hnone : (lost.map fun p => (⟨p, .lost⟩ : ProcessFailure)).filter
      (·.reason ≠ .lost) = [] := by
    rw [List.filter_eq_nil_iff]
    intro f hm
    obtain ⟨p, -, rfl⟩ := List.mem_map.1 hm
    simp
  rw [hfailed, List.filter_append, hkept, hnone, List.append_nil]

/-- A complete tally reports every registered process once, by the first notice of its name, and
nothing else. -/
theorem exact_accounting {grace : Nat} {s : RunSummary}
    (h : Run (ofProcesses grace processes) es ns c) (hs : c.summary? = some s) :
    s.launched = processes.dedup.length ∧
    s.succeeded + s.failed.length = s.launched ∧
    s.succeeded = processes.dedup.countP (fun p => (verdict? (sent es) p).isNone) ∧
    s.failed.Perm (processes.dedup.filterMap (failureOf? (sent es))) ∧
    (∀ p ∈ processes,
      s.failed.filter (·.process == p) = (failureOf? (sent es) p).toList) ∧
    (∀ p, ⟨p, .lost⟩ ∈ s.failed ↔ p ∈ processes ∧ p ∉ ns.map (·.process)) ∧
    (∀ f ∈ s.failed, f.process ∈ processes) ∧
    (firstNotices processes (sent es)).Sublist (sent es) ∧
    s.failed.filter (·.reason ≠ .lost) =
      (firstNotices processes (sent es)).filterMap Notice.failure? ∧
    (s.isSuccess = true ↔ s.succeeded = s.launched) ∧
    ∀ grace' es' ns' c' s', Run (ofProcesses grace' processes) es' ns' c' →
      c'.summary? = some s' →
      (∀ p ∈ processes, (sent es').find? (·.process == p) = (sent es).find? (·.process == p)) →
      s'.succeeded = s.succeeded ∧ s'.failed.Perm s.failed := by
  obtain ⟨hlaunched, hsucceeded, hfailed⟩ := h.summary hs
  have hsum : s.succeeded + s.failed.length = s.launched := by
    rw [hlaunched, hsucceeded, hfailed.length_eq]
    exact countP_add_length_filterMap _ _
  obtain ⟨hf, rfl⟩ := summary?_eq_some_iff.1 hs
  refine ⟨hlaunched, hsum, hsucceeded, hfailed, fun p hp => ?_, h.lost_iff hf, fun f hm => ?_,
    firstNotices_sublist processes _, h.filter_failed hf, ?_,
    fun grace' es' ns' c' s' h' hs' hfind => ?_⟩
  · -- the entries of one name are at most one, and a permutation of one entry is that entry
    have hfilter := filter_filterMap_failureOf? (List.nodup_dedup processes) (sent es)
      (List.mem_dedup.2 hp)
    have hperm := hfailed.filter (·.process == p)
    rw [hfilter] at hperm
    cases hv : failureOf? (sent es) p with
    | none =>
      rw [hv] at hperm
      exact hperm.eq_nil
    | some f =>
      rw [hv] at hperm
      exact List.perm_singleton.1 hperm
  · obtain ⟨p, hp, hpf⟩ := List.mem_filterMap.1 (hfailed.mem_iff.1 hm)
    obtain ⟨reason, -, rfl⟩ := Option.map_eq_some_iff.1 hpf
    exact List.mem_dedup.1 hp
  · change c.failed.isEmpty = true ↔ c.succeeded = c.launched
    change c.succeeded + c.failed.length = c.launched at hsum
    rw [List.isEmpty_iff, ← List.length_eq_zero_iff]
    omega
  · obtain ⟨-, hsucceeded', hfailed'⟩ := h'.summary hs'
    have hverdict : ∀ p ∈ processes.dedup, verdict? (sent es') p = verdict? (sent es) p := by
      intro p hp
      rw [verdict?, verdict?, hfind p (List.mem_dedup.1 hp)]
    constructor
    · rw [hsucceeded', hsucceeded]
      apply List.countP_congr
      intro p hp
      rw [hverdict p hp]
    · refine hfailed'.trans (List.Perm.trans ?_ hfailed.symm)
      rw [List.filterMap_congr fun p hp => by rw [failureOf?, hverdict p hp, ← failureOf?]]

/-- A name that is registered twice, a notice that comes twice and one of a stranger, and a process
of which nothing is heard. -/
theorem exact_accounting_of_strays :
    let c := [.notice ⟨"B", .exited ⟨256⟩⟩, .marksDropped "B", .notice ⟨"Ghost", .timedOut⟩,
      .notice ⟨"B", .exited ⟨0⟩⟩, .closed, .notice ⟨"A", .exited ⟨0⟩⟩].foldl react
        (ofProcesses 2000 ["A", "B", "A"]).settle
    ∃ s, c.summary? = some s ∧ s.launched = 2 ∧ s.succeeded + s.failed.length = 2 ∧
      s.failed.Perm [⟨"B", .exited (some 1) none⟩, ⟨"A", .lost⟩] := by
  intro c
  obtain ⟨ns, hrun⟩ := run_foldl_react (ofProcesses 2000 ["A", "B", "A"]) _
  have hf : c.finished = true := by decide +kernel
  have hs := summary?_eq_some_iff.2 ⟨hf, rfl⟩
  obtain ⟨hlaunched, hsum, -, hfailed, -⟩ := exact_accounting hrun hs
  have htwo : c.launched = 2 := hlaunched.trans (by decide +kernel)
  refine ⟨_, hs, htwo, hsum.trans htwo, hfailed.trans ?_⟩
  decide +kernel

end

end Tally

end Pipework
