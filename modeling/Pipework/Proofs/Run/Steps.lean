import Mathlib.Data.List.Dedup
import Mathlib.Data.List.Induction
import Mathlib.Data.List.TakeWhile
import Pipework.Proofs.NameMap
import Pipework.Run.Tally

/-! Runs of a tally. What happens around a tally and the steps it takes by itself come in any
order. A run keeps the events and the notices that were taken from the queue. -/

namespace Pipework

namespace Tally

/-- The notice that the next step takes from the queue. -/
def taken? (c : Tally) : Option Notice :=
  if c.finished || c.retiring.isSome || c.outstanding.isEmpty then none else c.queue.head?

/-- What the next step of a tally can be, with the notice that it takes. -/
inductive Step (c : Tally) : Option Notice → Tally → Prop
  | count (r : Retiring) (hr : c.retiring = some r) (hm : c.mayCount r = true) :
      Step c none (c.count r.notice)
  | complete (hr : c.retiring = none) (ho : c.outstanding.names = []) :
      Step c none { c with finished := true }
  | takeUp (n : Notice) (queue : List Notice) (hr : c.retiring = none)
      (hq : c.queue = n :: queue) (hn : n.process ∈ c.outstanding.names) :
      Step c (some n) { c with
        queue := queue, outstanding := c.outstanding.erase n.process
        retiring := some ⟨n, if n.outcome = .timedOut then some (c.clock + c.grace) else none⟩ }
  | ignore (n : Notice) (queue : List Notice) (hr : c.retiring = none)
      (hq : c.queue = n :: queue) (hn : n.process ∉ c.outstanding.names) :
      Step c (some n) { c with queue := queue }
  | giveUp (hr : c.retiring = none) (hq : c.queue = []) (hc : c.closed = true) :
      Step c none c.giveUp

/-- All that a step can be. -/
theorem step_cases {c d : Tally} (h : c.step? = some d) :
    c.finished = false ∧ ∃ t, c.taken? = t ∧ Step c t d := by
  unfold step? at h
  split at h
  · cases h
  · rename_i hf
    refine ⟨by simpa using hf, ?_⟩
    split at h
    · rename_i r hr
      split at h
      · rename_i hm
        obtain rfl := Option.some.inj h
        exact ⟨none, by simp [taken?, hr], .count r hr hm⟩
      · cases h
    · rename_i hr
      split at h
      · rename_i ho
        obtain rfl := Option.some.inj h
        exact ⟨none, by simp [taken?, ho], .complete hr (NameMap.isEmpty_iff.1 ho)⟩
      · rename_i ho
        split at h
        · rename_i n queue hq
          obtain rfl := Option.some.inj h
          refine ⟨some n, by simp [taken?, hf, hr, ho, hq], ?_⟩
          unfold Tally.takeUp
          split
          · rename_i hn
            exact .takeUp n queue hr hq (NameMap.contains_iff_mem_names.1 hn)
          · rename_i hn
            exact .ignore n queue hr hq fun hm => hn (NameMap.contains_iff_mem_names.2 hm)
        · rename_i hq
          split at h
          · rename_i hc
            obtain rfl := Option.some.inj h
            exact ⟨none, by simp [taken?, hq], .giveUp hr hq hc⟩
          · cases h

/-- The notice that an event sends. -/
def Event.notice? : Event → Option Notice
  | .notice n => some n
  | _ => none

/-- The notices of events, up to the moment when the last sender is gone. -/
def sent (es : List Event) : List Notice :=
  (es.takeWhile (· ≠ .closed)).filterMap Event.notice?

theorem sent_append_of_mem {es : List Event} (h : .closed ∈ es) (e : Event) :
    sent (es ++ [e]) = sent es := by
  unfold sent
  rw [List.takeWhile_append, if_neg]
  intro hl
  have hall := (List.takeWhile_prefix _).eq_of_length hl
  have := List.takeWhile_eq_self_iff.1 hall _ h
  simp at this

theorem sent_append_of_not_mem {es : List Event} (h : .closed ∉ es) (e : Event) :
    sent (es ++ [e]) = sent es ++ e.notice?.toList := by
  have hall : es.takeWhile (· ≠ .closed) = es := by
    rw [List.takeWhile_eq_self_iff]
    intro x hx
    have : x ≠ .closed := fun he => h (he ▸ hx)
    simpa using this
  unfold sent
  rw [List.takeWhile_append, if_pos (by rw [hall]), hall, List.filterMap_append]
  cases e <;> simp [Event.notice?]

theorem mem_names_updateMarks (c : Tally) (process : String) (f : DrainMarks → DrainMarks)
    (p : String) : p ∈ (c.updateMarks process f).marks.names ↔ p ∈ c.marks.names := by
  unfold updateMarks
  split
  · rename_i m hm
    rw [NameMap.mem_names_insert, or_iff_right_iff_imp]
    rintro rfl
    rw [NameMap.mem_names_iff, hm]
    rfl
  · rfl

theorem updateMarks_eq (c : Tally) (process : String) (f : DrainMarks → DrainMarks) :
    c.updateMarks process f = { c with marks := (c.updateMarks process f).marks } := by
  unfold updateMarks
  split <;> rfl

/-- An event reaches nothing but the queue, the marks and the clock. -/
theorem apply_eq (c : Tally) (e : Event) : ∃ marks clock,
    c.apply e = { c with
      marks := marks, clock := clock, closed := c.closed || e == .closed
      queue := c.queue ++ if c.closed then [] else e.notice?.toList } ∧
    (∀ p, p ∈ marks.names ↔ p ∈ c.marks.names) ∧ c.clock ≤ clock := by
  have hmarks (process : String) (f : DrainMarks → DrainMarks) (he : e.notice? = none)
      (hc : (e == .closed) = false) : ∃ marks clock,
      c.updateMarks process f = { c with
        marks := marks, clock := clock, closed := c.closed || e == .closed
        queue := c.queue ++ if c.closed then [] else e.notice?.toList } ∧
      (∀ p, p ∈ marks.names ↔ p ∈ c.marks.names) ∧ c.clock ≤ clock := by
    refine ⟨_, c.clock, ?_, mem_names_updateMarks c process f, le_rfl⟩
    rw [he, hc, Option.toList_none, ite_self, List.append_nil, Bool.or_false]
    exact updateMarks_eq c process f
  cases e with
  | notice n =>
    refine ⟨c.marks, c.clock, ?_, fun _ => Iff.rfl, le_rfl⟩
    by_cases hc : c.closed = true
    · simp only [apply, hc, if_true, Bool.true_or, List.append_nil]
      rw [← hc]
    · simp [apply, hc, Event.notice?]
  | timePasses ms =>
    refine ⟨c.marks, c.clock + ms, ?_, fun _ => Iff.rfl, Nat.le_add_right _ _⟩
    simp [apply, Event.notice?]
  | closed =>
    refine ⟨c.marks, c.clock, ?_, fun _ => Iff.rfl, le_rfl⟩
    simp [apply, Event.notice?]
  | stdoutDrained p => exact hmarks p _ rfl rfl
  | stderrDrained p => exact hmarks p _ rfl rfl
  | stdoutDropped p => exact hmarks p _ rfl rfl
  | stderrDropped p => exact hmarks p _ rfl rfl
  | marksDropped p => exact hmarks p _ rfl rfl

/-- A run from `a`, with its events and the notices that were taken. -/
inductive Run (a : Tally) : List Event → List Notice → Tally → Prop
  | start : Run a [] [] a
  | event {es ns c} (h : Run a es ns c) (e : Event) : Run a (es ++ [e]) ns (c.apply e)
  | step {es ns c d} (h : Run a es ns c) (hs : c.step? = some d) :
      Run a es (ns ++ c.taken?.toList) d

theorem settle_of_none {c : Tally} (h : c.step? = none) : c.settle = c := by
  rw [settle]
  split
  · rfl
  · rename_i d hd
    rw [h] at hd
    cases hd

theorem settle_of_some {c d : Tally} (h : c.step? = some d) : c.settle = d.settle := by
  rw [settle]
  split
  · rename_i hd
    rw [h] at hd
    cases hd
  · rename_i d' hd
    rw [h] at hd
    rw [Option.some.inj hd]

section

variable {a c : Tally} {es : List Event} {ns : List Notice}

theorem Run.settle (h : Run a es ns c) : ∃ ns', Run a es ns' c.settle := by
  induction c using Tally.settle.induct generalizing ns with
  | case1 c hc =>
    rw [settle_of_none hc]
    exact ⟨ns, h⟩
  | case2 c d hc _ ih =>
    rw [settle_of_some hc]
    exact ih (h.step hc)

/-- A tally that reacts to events one by one is on one of its runs. -/
theorem run_foldl_react (c : Tally) (es : List Event) :
    ∃ ns, Run c es ns (es.foldl react c.settle) := by
  induction es using List.reverseRecOn with
  | nil => exact Run.start.settle
  | append_singleton es e ih =>
    obtain ⟨ns, h⟩ := ih
    rw [List.foldl_append]
    exact (h.event e).settle

end

/-- A tally at the beginning of a run. -/
def ofProcesses (grace : Nat) (processes : List String) : Tally :=
  processes.foldl register { grace := grace }

theorem ofProcesses_eq (grace : Nat) (processes : List String) : ∃ outstanding marks,
    ofProcesses grace processes = {
      outstanding := outstanding, marks := marks, launched := outstanding.size, grace := grace } ∧
    (∀ p, p ∈ outstanding.names ↔ p ∈ processes) ∧
    ∀ p, marks.get? p = if p ∈ processes then some {} else none := by
  induction processes using List.reverseRecOn with
  | nil => exact ⟨∅, ∅, rfl, fun p => by simp [NameMap.mem_names_iff], fun p => by simp⟩
  | append_singleton processes process ih =>
    obtain ⟨outstanding, marks, heq, ho, hm⟩ := ih
    refine ⟨outstanding.insert process (), marks.insert process {}, ?_, fun p => ?_, fun p => ?_⟩
    · rw [ofProcesses, List.foldl_append, ← ofProcesses, heq]
      rfl
    · rw [NameMap.mem_names_insert, ho, List.mem_append, List.mem_singleton, or_comm]
    · rw [NameMap.get?_insert, hm]
      by_cases hp : p = process <;> simp [hp]

/-- What a run keeps: the table of outstanding processes shrinks by the notices that were taken and
by nothing else, until the tally is complete. -/
structure Kept (processes : List String) (es : List Event) (ns : List Notice) (c : Tally) :
    Prop where
  launched : c.launched = processes.dedup.length
  sent : ns ++ c.queue = sent es
  closed : c.closed = true ↔ .closed ∈ es
  marks : ∀ p, p ∈ c.marks.names ↔ p ∈ processes
  outstanding : c.finished = false →
    ∀ p, p ∈ c.outstanding.names ↔ p ∈ processes ∧ p ∉ ns.map (·.process)
  counted : c.finished = true → c.retiring = none

theorem kept_ofProcesses (grace : Nat) (processes : List String) :
    Kept processes [] [] (ofProcesses grace processes) := by
  obtain ⟨outstanding, marks, heq, ho, hm⟩ := ofProcesses_eq grace processes
  rw [heq]
  refine ⟨?_, rfl, by simp, fun p => ?_, fun _ p => ?_, fun _ => rfl⟩
  · -- a name that comes twice stands once in the table
    have hp : outstanding.names.Perm processes.dedup := by
      rw [List.perm_ext_iff_of_nodup outstanding.nodup_names (List.nodup_dedup processes)]
      intro p
      rw [ho, List.mem_dedup]
    rw [← hp.length_eq, NameMap.length_names]
  · rw [NameMap.mem_names_iff, hm]
    by_cases hp : p ∈ processes <;> simp [hp]
  · simp [ho]

theorem Kept.apply {processes : List String} {es : List Event} {ns : List Notice} {c : Tally}
    (h : Kept processes es ns c) (e : Event) : Kept processes (es ++ [e]) ns (c.apply e) := by
  obtain ⟨marks, clock, heq, hmarks, -⟩ := apply_eq c e
  rw [heq]
  refine ⟨h.launched, ?_, ?_, fun p => (hmarks p).trans (h.marks p), h.outstanding, h.counted⟩
  · -- what is sent after the end is neither queued nor counted as sent
    change ns ++ (c.queue ++ if c.closed then [] else e.notice?.toList) = Tally.sent (es ++ [e])
    by_cases hc : c.closed = true
    · rw [if_pos hc, List.append_nil, sent_append_of_mem (h.closed.1 hc), h.sent]
    · rw [if_neg hc, ← List.append_assoc, h.sent,
        sent_append_of_not_mem fun hm => hc (h.closed.2 hm)]
  · change (c.closed || e == .closed) = true ↔ _
    rw [Bool.or_eq_true, h.closed, beq_iff_eq, List.mem_append, List.mem_singleton]
    exact or_congr_right eq_comm

theorem count_eq (c : Tally) (n : Notice) : ∃ succeeded failed,
    c.count n = { c with succeeded := succeeded, failed := failed, retiring := none } := by
  unfold count
  split
  · exact ⟨_, _, rfl⟩
  · exact ⟨_, _, rfl⟩

theorem Kept.step {processes : List String} {es : List Event} {ns : List Notice} {c d : Tally}
    (h : Kept processes es ns c) (hs : c.step? = some d) :
    Kept processes es (ns ++ c.taken?.toList) d := by
  obtain ⟨hf, t, ht, hstep⟩ := step_cases hs
  rw [ht]
  cases hstep with
  | count r hr hm =>
    obtain ⟨succeeded, failed, heq⟩ := count_eq c r.notice
    rw [heq, Option.toList_none, List.append_nil]
    exact ⟨h.launched, h.sent, h.closed, h.marks, h.outstanding, fun _ => rfl⟩
  | complete hr ho =>
    rw [Option.toList_none, List.append_nil]
    exact ⟨h.launched, h.sent, h.closed, h.marks, nofun, fun _ => hr⟩
  | takeUp n queue hr hq hn =>
    refine ⟨h.launched, ?_, h.closed, h.marks, fun _ p => ?_, fun ht => ?_⟩
    · rw [← h.sent, hq, Option.toList_some, List.append_assoc, List.singleton_append]
    · rw [NameMap.mem_names_erase, h.outstanding hf, Option.toList_some, List.map_append,
        List.mem_append, not_or, List.map_singleton, List.mem_singleton]
      tauto
    · rw [hf] at ht
      cases ht
  | ignore n queue hr hq hn =>
    refine ⟨h.launched, ?_, h.closed, h.marks, fun _ p => ?_, fun _ => hr⟩
    · rw [← h.sent, hq, Option.toList_some, List.append_assoc, List.singleton_append]
    · rw [h.outstanding hf, Option.toList_some, List.map_append, List.mem_append, not_or,
        List.map_singleton, List.mem_singleton]
      -- a process that is outstanding has another name than the notice
      refine ⟨fun hp => ⟨hp.1, hp.2, ?_⟩, fun hp => ⟨hp.1, hp.2.1⟩⟩
      rintro rfl
      exact hn ((h.outstanding hf _).2 hp)
  | giveUp hr hq hc =>
    rw [Option.toList_none, List.append_nil]
    exact ⟨h.launched, h.sent, h.closed, h.marks, nofun, fun _ => hr⟩

theorem Run.kept {processes : List String} {grace : Nat} {es : List Event} {ns : List Notice}
    {c : Tally} (h : Run (ofProcesses grace processes) es ns c) : Kept processes es ns c := by
  induction h with
  | start => exact kept_ofProcesses grace processes
  | event _ e ih => exact ih.apply e
  | step _ hs ih => exact ih.step hs

end Tally

end Pipework
