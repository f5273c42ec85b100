import Mathlib.Data.List.Basic
import Pipework.Frame.Sender

/-! The answers of a sink, one after the other. They decide how a call of the sender ends, and with
it what has been taken by then, whatever they are. -/

namespace Pipework

/-- How a sink answers one operation. -/
inductive SinkAnswer where
  | took (n : ℕ)
  | flushed
  | failed (cause : IoError)
deriving DecidableEq

namespace SinkAnswer

/-- The failure after which an operation is not tried again. -/
def fatal? : SinkAnswer → Option IoError
  | .failed cause => if cause.isTransient then none else some cause
  | _ => none

/-- How a call ends that gets the given answers. -/
def verdict (log : List SinkAnswer) : Except FrameError Unit :=
  if .took 0 ∈ log then .error .connectionClosed
  else match log.findSome? fatal? with
    | some cause => .error (.io cause)
    | none => .ok ()

theorem verdict_eq_ok_iff {log : List SinkAnswer} :
    verdict log = .ok () ↔ .took 0 ∉ log ∧ log.findSome? fatal? = none := by
  unfold verdict
  split
  · simp [*]
  · cases log.findSome? fatal? <;> simp [*]

/-- Answers after which a call goes on do not matter to how it ends. -/
theorem verdict_append {log : List SinkAnswer} (h : verdict log = .ok ())
    (more : List SinkAnswer) : verdict (log ++ more) = verdict more := by
  obtain ⟨hzero, hfatal⟩ := verdict_eq_ok_iff.1 h
  simp only [verdict, List.mem_append, hzero, false_or, List.findSome?_append, hfatal,
    Option.none_or]

theorem cause_of_verdict {log : List SinkAnswer} {e : FrameError} (h : verdict log = .error e) :
    if .took 0 ∈ log then e = .connectionClosed
    else ∃ cause, log.findSome? fatal? = some cause ∧ e = .io cause := by
  unfold verdict at h
  split at h
  · rename_i hzero
    rw [if_pos hzero]
    exact (Except.error.inj h).symm
  · rename_i hzero
    rw [if_neg hzero]
    cases hf : log.findSome? fatal? with
    | none =>
      rw [hf] at h
      cases h
    | some cause =>
      rw [hf] at h
      exact ⟨cause, rfl, (Except.error.inj h).symm⟩

theorem verdict_took_cons (n : ℕ) (log : List SinkAnswer) :
    verdict (.took (n + 1) :: log) = verdict log := by
  have hgoes : verdict [.took (n + 1)] = .ok () := verdict_eq_ok_iff.2 ⟨by simp, rfl⟩
  exact verdict_append hgoes log

theorem verdict_flushed_cons (log : List SinkAnswer) : verdict (.flushed :: log) = verdict log := by
  have hgoes : verdict [.flushed] = .ok () := rfl
  exact verdict_append hgoes log

theorem verdict_failed_cons {cause : IoError} (h : cause.isTransient = true)
    (log : List SinkAnswer) : verdict (.failed cause :: log) = verdict log := by
  have hgoes : verdict [.failed cause] = .ok () :=
    verdict_eq_ok_iff.2 ⟨by simp, by simp [fatal?, h]⟩
  exact verdict_append hgoes log

theorem verdict_failed {cause : IoError} (h : ¬cause.isTransient = true) :
    verdict [.failed cause] = .error (.io cause) := by
  simp [verdict, fatal?, h]

end SinkAnswer

namespace Sink

open SinkAnswer

variable {s t u : Sink} {bs rest last : Bytes} {n : ℕ} {e : IoError} {log more : List SinkAnswer}

theorem taken_of_write (h : s.write bs = (.ok n, t)) : t.taken = s.taken ++ bs.take n := by
  unfold write at h
  split at h
  · obtain ⟨hn, rfl⟩ := Prod.mk.inj h
    rw [← Except.ok.inj hn, List.take_length]
  · obtain ⟨hn, rfl⟩ := Prod.mk.inj h
    rw [← Except.ok.inj hn, ← List.take_eq_take_min]
  · cases h

theorem taken_of_write_error (h : s.write bs = (.error e, t)) : t.taken = s.taken := by
  unfold write at h
  split at h
  · cases h
  · cases h
  · obtain ⟨-, rfl⟩ := Prod.mk.inj h
    rfl

theorem taken_of_flush {r : Except IoError Unit} (h : s.flush = (r, t)) : t.taken = s.taken := by
  unfold flush at h
  split at h <;> obtain ⟨-, rfl⟩ := Prod.mk.inj h <;> rfl

/-- Operations one after the other, with their answers. Each write offers just what has not been
taken yet, of which `rest` is left in the end, and a flush comes only when nothing is left. -/
inductive Serves : Sink → Bytes → List SinkAnswer → Sink → Bytes → Prop where
  | idle (s : Sink) (bs : Bytes) : Serves s bs [] s bs
  | took {s t u : Sink} {bs rest : Bytes} {n : ℕ} {log : List SinkAnswer} : bs ≠ [] →
    s.write bs = (.ok n, t) → Serves t (bs.drop n) log u rest → Serves s bs (.took n :: log) u rest
  | refused {s t u : Sink} {bs rest : Bytes} {cause : IoError} {log : List SinkAnswer} : bs ≠ [] →
    s.write bs = (.error cause, t) → Serves t bs log u rest →
    Serves s bs (.failed cause :: log) u rest
  | flushed {s t u : Sink} {rest : Bytes} {log : List SinkAnswer} :
    s.flush = (.ok (), t) → Serves t [] log u rest → Serves s [] (.flushed :: log) u rest
  | unflushed {s t u : Sink} {rest : Bytes} {cause : IoError} {log : List SinkAnswer} :
    s.flush = (.error cause, t) → Serves t [] log u rest → Serves s [] (.failed cause :: log) u rest

theorem Serves.trans (h : Serves s bs log t rest) (hmore : Serves t rest more u last) :
    Serves s bs (log ++ more) u last := by
  induction h with
  | idle => exact hmore
  | took hne hw _ ih => exact .took hne hw (ih hmore)
  | refused hne hw _ ih => exact .refused hne hw (ih hmore)
  | flushed hf _ ih => exact .flushed hf (ih hmore)
  | unflushed hf _ ih => exact .unflushed hf (ih hmore)

/-- The octets that are taken are the first of those that were offered, and the others are left. -/
theorem Serves.exists_part (h : Serves s bs log t rest) :
    ∃ part, bs = part ++ rest ∧ t.taken = s.taken ++ part := by
  -- only a write that succeeds moves octets, from the front of what is offered to the sink
  induction h with
  | idle s bs => exact ⟨[], rfl, (List.append_nil _).symm⟩
  | @took s t u bs rest n log hne hw _ ih =>
    obtain ⟨part, hpart, htaken⟩ := ih
    refine ⟨bs.take n ++ part, ?_, ?_⟩
    · rw [List.append_assoc, ← hpart, List.take_append_drop]
    · rw [htaken, taken_of_write hw, List.append_assoc]
  | refused hne hw _ ih =>
    rw [← taken_of_write_error hw]
    exact ih
  | flushed hf _ ih =>
    rw [← taken_of_flush hf]
    exact ih
  | unflushed hf _ ih =>
    rw [← taken_of_flush hf]
    exact ih

end Sink

namespace FrameSender

open Pipework.Frame SinkAnswer

theorem serves_of_sendAll {s t : Sink} {bs : Bytes} {answer : Except FrameError Unit}
    (h : sendAll s bs = (answer, t)) : ∃ log rest, s.Serves bs log t rest ∧
      answer = verdict log ∧ .flushed ∉ log ∧ (answer = .ok () ↔ rest = []) := by
  -- an answer after which the loop goes on is put in front and does not change the verdict
  fun_induction sendAll s bs with
  | case1 s =>
    cases h
    exact ⟨[], [], .idle _ [], rfl, List.not_mem_nil, by simp⟩
  | case2 s bs hne u hw =>
    cases h
    exact ⟨[.took 0], bs, .took hne hw (.idle _ bs), rfl, by simp, by simp [hne]⟩
  | case3 s bs hne n u hw hle ih =>
    obtain ⟨log, rest, hserves, hanswer, hno, hrest⟩ := ih h
    refine ⟨.took (n + 1) :: log, rest, .took hne hw hserves, ?_, by simpa using hno, hrest⟩
    rw [verdict_took_cons, hanswer]
  | case4 s bs hne cause u hw hlt htr ih =>
    obtain ⟨log, rest, hserves, hanswer, hno, hrest⟩ := ih h
    refine ⟨.failed cause :: log, rest, .refused hne hw hserves, ?_, by simpa using hno, hrest⟩
    rw [verdict_failed_cons htr, hanswer]
  | case5 s bs hne cause u hw hlt htr =>
    cases h
    exact ⟨[.failed cause], bs, .refused hne hw (.idle _ bs), (verdict_failed htr).symm, by simp,
      by simp [hne]⟩

theorem serves_of_flushAll {s t : Sink} {answer : Except FrameError Unit}
    (h : flushAll s = (answer, t)) : ∃ log, s.Serves [] log t [] ∧
      answer = verdict log ∧ (answer = .ok () ↔ .flushed ∈ log) := by
  fun_induction flushAll s with
  | case1 s u hf =>
    cases h
    exact ⟨[.flushed], .flushed hf (.idle _ []), rfl, by simp⟩
  | case2 s cause u hf hlt htr ih =>
    obtain ⟨log, hserves, hanswer, hok⟩ := ih h
    refine ⟨.failed cause :: log, .unflushed hf hserves, ?_, by simpa using hok⟩
    rw [verdict_failed_cons htr, hanswer]
  | case3 s cause u hf hlt htr =>
    cases h
    exact ⟨[.failed cause], .unflushed hf (.idle _ []), (verdict_failed htr).symm, by simp⟩

theorem writeFrame_of_rejected (w : FrameSender) {f : Frame} {e : FrameError}
    (h : f.encode = .error e) : w.writeFrame f = (.error e, w) := by
  simp only [writeFrame, h]

/-- All that a call does with a frame that is accepted. -/
theorem serves_of_writeFrame (w : FrameSender) {f : Frame} {octets : Bytes}
    (h : f.encode = .ok octets) : ∃ log rest,
      w.sink.Serves octets log (w.writeFrame f).2.sink rest ∧
      (w.writeFrame f).2.sent = (if rest = [] then w.sent + 1 else w.sent) ∧
      (w.writeFrame f).1 = verdict log ∧
      ((w.writeFrame f).1 = .ok () ↔ rest = [] ∧ .flushed ∈ log) := by
  cases hs : sendAll w.sink octets with
  | mk answer s =>
    obtain ⟨log, rest, hserves, hanswer, hno, hrest⟩ := serves_of_sendAll hs
    cases answer with
    | error e =>
      have hcall : w.writeFrame f = (.error e, ⟨s, w.sent⟩) := by simp only [writeFrame, h, hs]
      have hleft : rest ≠ [] := fun hempty => by cases hrest.2 hempty
      rw [hcall]
      exact ⟨log, rest, hserves, (if_neg hleft).symm, hanswer, by simp [hleft]⟩
    | ok =>
      obtain rfl := hrest.1 rfl
      cases hf : flushAll s with
      | mk result t =>
        -- the counter stands already when the flushes begin
        have hcall : w.writeFrame f = (result, ⟨t, w.sent + 1⟩) := by
          simp only [writeFrame, h, hs, flush, hf]
        obtain ⟨more, hflushes, hresult, hok⟩ := serves_of_flushAll hf
        rw [hcall]
        refine ⟨log ++ more, [], hserves.trans hflushes, rfl, ?_, ?_⟩
        · rw [verdict_append hanswer.symm, hresult]
        · simp [hok, hno]

end FrameSender

end Pipework
