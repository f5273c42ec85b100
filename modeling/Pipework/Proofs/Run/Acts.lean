import Pipework.Proofs.Run.Steps

/-! Runs of a tally, act by act. The list of all acts fixes a run: its prefixes lead to the states on
the way, and what is said of a moment of the run is said of a place in the list. -/

namespace Pipework

namespace Tally

/-- What there is in a run: the events, and the steps that the tally takes by itself. -/
inductive Act where
  | event (e : Event)
  | step
deriving DecidableEq

/-- The event that an act is. -/
def Act.event? : Act → Option Event
  | .event e => some e
  | .step => none

theorem mem_filterMap_event? {acts : List Act} {e : Event} :
    e ∈ acts.filterMap Act.event? ↔ .event e ∈ acts := by
  rw [List.mem_filterMap]
  constructor
  · rintro ⟨x, hx, he⟩
    cases x with
    | event e' =>
      obtain rfl := Option.some.inj he
      exact hx
    | step => cases he
  · intro h
    exact ⟨_, h, rfl⟩

/-- The tally after one act. It cannot take a step while it has to wait. -/
def act? (c : Tally) : Act → Option Tally
  | .event e => some (c.apply e)
  | .step => c.step?

/-- The notices that one act takes from the queue. -/
def takes (c : Tally) : Act → List Notice
  | .event _ => []
  | .step => c.taken?.toList

/-- The tally after all acts, one after the other. -/
def after? (c : Tally) : List Act → Option Tally
  | [] => some c
  | x :: acts => (c.act? x).bind fun d => d.after? acts

/-- The notices that the acts take from the queue, in order. -/
def takenBy (c : Tally) : List Act → List Notice
  | [] => []
  | x :: acts => c.takes x ++ ((c.act? x).map fun d => d.takenBy acts).getD []

section

variable {a b c d : Tally} {acts more : List Act} {x : Act} {es : List Event} {ns : List Notice}

/-- A run can be cut at any place. -/
theorem after?_append (c : Tally) (acts more : List Act) :
    c.after? (acts ++ more) = (c.after? acts).bind fun d => d.after? more := by
  induction acts generalizing c with
  | nil => rfl
  | cons x acts ih =>
    rw [List.cons_append, after?, after?]
    cases c.act? x with
    | none => rfl
    | some d => exact ih d

theorem after?_concat (h : a.after? acts = some c) (x : Act) :
    a.after? (acts ++ [x]) = c.act? x := by
  rw [after?_append, h, Option.bind_some, after?]
  cases c.act? x <;> rfl

/-- The state before the last act of a run. -/
theorem exists_of_after?_concat (h : a.after? (acts ++ [x]) = some d) :
    ∃ c, a.after? acts = some c ∧ c.act? x = some d := by
  cases hc : a.after? acts with
  | none =>
    rw [after?_append, hc] at h
    cases h
  | some c =>
    rw [after?_concat hc] at h
    exact ⟨c, rfl, h⟩

theorem takenBy_append (h : a.after? acts = some c) (more : List Act) :
    a.takenBy (acts ++ more) = a.takenBy acts ++ c.takenBy more := by
  induction acts generalizing a with
  | nil =>
    cases h
    rfl
  | cons x acts ih =>
    obtain ⟨b, hb, hc⟩ := Option.bind_eq_some_iff.1 h
    rw [List.cons_append, takenBy, takenBy, hb, Option.map_some, Option.map_some, Option.getD_some,
      Option.getD_some, ih hc, List.append_assoc]

theorem takenBy_concat (h : a.after? acts = some c) (x : Act) :
    a.takenBy (acts ++ [x]) = a.takenBy acts ++ c.takes x := by
  rw [takenBy_append h, takenBy, List.append_cancel_left_eq]
  cases c.act? x <;> exact List.append_nil _

/-- Where nothing is asked of single moments, the events of a run and the notices taken are enough
of it. -/
theorem run_of_after? (h : a.after? acts = some c) :
    Run a (acts.filterMap Act.event?) (a.takenBy acts) c := by
  induction acts using List.reverseRecOn generalizing c with
  | nil =>
    cases h
    exact .start
  | append_singleton acts x ih =>
    obtain ⟨b, hb, hc⟩ := exists_of_after?_concat h
    rw [List.filterMap_append, takenBy_concat hb]
    cases x with
    | event e =>
      obtain rfl := Option.some.inj hc
      rw [takes, List.append_nil]
      exact (ih hb).event e
    | step =>
      have hnone : [Act.step].filterMap Act.event? = [] := rfl
      rw [hnone, List.append_nil]
      exact (ih hb).step hc

/-- Every run has its acts. -/
theorem Run.exists_acts (h : Run a es ns c) : ∃ acts, a.after? acts = some c ∧
    acts.filterMap Act.event? = es ∧ a.takenBy acts = ns := by
  induction h with
  | start => exact ⟨[], rfl, rfl, rfl⟩
  | event _ e ih =>
    obtain ⟨acts, hc, rfl, rfl⟩ := ih
    refine ⟨acts ++ [.event e], after?_concat hc _, List.filterMap_append, ?_⟩
    rw [takenBy_concat hc, takes, List.append_nil]
  | step _ hs ih =>
    obtain ⟨acts, hc, rfl, rfl⟩ := ih
    refine ⟨acts ++ [.step], (after?_concat hc .step).trans hs, ?_, takenBy_concat hc _⟩
    rw [List.filterMap_append]
    exact List.append_nil _

end

end Tally

end Pipework
