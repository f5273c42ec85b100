import Pipework.NameMap
import Pipework.Run.Error

/-!
Counting processes down to zero. A process is done once its end has been reported and both of its
output streams have been drained; a process that was killed for running too long is given some grace
for its streams, and no more. Notices queue up while the tally waits for a process.
-/

namespace Pipework

structure WaitStatus where
  raw : Nat
deriving DecidableEq, Repr

namespace WaitStatus

def ofCode (code : Nat) : WaitStatus := ⟨code % 256 * 256⟩

def ofSignal (signal : Nat) : WaitStatus := ⟨signal⟩

def isSuccess (s : WaitStatus) : Bool := s.raw == 0

def code? (s : WaitStatus) : Option Int :=
  if s.raw % 128 = 0 then some (s.raw / 256 % 256 : Nat) else none

def signal? (s : WaitStatus) : Option Int :=
  if 0 < s.raw % 128 ∧ s.raw % 128 < 127 then some (s.raw % 128 : Nat) else none

end WaitStatus

inductive Outcome where
  | exited (status : WaitStatus)
  /-- The process ran too long and was killed. -/
  | timedOut
  | failed (cause : RunError)
deriving DecidableEq, Repr

def Outcome.failure? : Outcome → Option FailureReason
  | exited status => if status.isSuccess then none else some (.exited status.code? status.signal?)
  | timedOut => some .timedOut
  | failed cause => some (.error cause.kind cause.message)

structure Notice where
  process : String
  outcome : Outcome
deriving DecidableEq, Repr

/-- A mark that says when an output stream is at its end. A dropped mark says that the stream will
never bring anything. -/
inductive DrainMark where
  | pending
  | fired
  | dropped
deriving DecidableEq, Repr

/-- The mark after it has fired or has been dropped. Only a pending mark changes. -/
def DrainMark.become (m next : DrainMark) : DrainMark := if m = .pending then next else m

structure DrainMarks where
  stdout : DrainMark := .pending
  stderr : DrainMark := .pending
deriving DecidableEq, Repr

def DrainMarks.drained (m : DrainMarks) : Bool := m.stdout ≠ .pending && m.stderr ≠ .pending

structure ProcessFailure where
  process : String
  reason : FailureReason
deriving DecidableEq, Repr

structure RunSummary where
  launched : Nat
  succeeded : Nat
  failed : List ProcessFailure
deriving DecidableEq, Repr

namespace RunSummary

def isSuccess (s : RunSummary) : Bool := s.failed.isEmpty

def firstFailure? (s : RunSummary) : Option RunError :=
  s.failed.head?.map fun f => .failure f.process f.reason

end RunSummary

structure Retiring where
  notice : Notice
  /-- The time at which the tally stops waiting for the streams. -/
  deadline : Option Nat
deriving DecidableEq, Repr

/-- A tally and what surrounds it. -/
structure Tally where
  /-- The processes whose ends have not been taken up. -/
  outstanding : NameMap Unit := ∅
  /-- The marks of all processes ever registered. -/
  marks : NameMap DrainMarks := ∅
  /-- The notices that have been sent and not taken up, the oldest first. -/
  queue : List Notice := []
  /-- Is it certain that no more notices will be sent? -/
  closed : Bool := false
  retiring : Option Retiring := none
  launched : Nat := 0
  succeeded : Nat := 0
  failed : List ProcessFailure := []
  /-- Is the tally complete? -/
  finished : Bool := false
  /-- The time in milliseconds. -/
  clock : Nat := 0
  /-- How long the streams of a killed process may stay open. -/
  grace : Nat := 2000
deriving DecidableEq

namespace Tally

/-- Adds a process. One that has the name already gives way. -/
def register (c : Tally) (process : String) : Tally :=
  let outstanding := c.outstanding.insert process ()
  { c with outstanding := outstanding, marks := c.marks.insert process {}
           launched := outstanding.size }

/-- The marks of a process; of one that is unknown nothing is to come. -/
def marksOf (c : Tally) (process : String) : DrainMarks :=
  (c.marks.get? process).getD ⟨.dropped, .dropped⟩

/-- Takes up a notice: its process is outstanding no more. A notice for any other process is
ignored. -/
def takeUp (c : Tally) (n : Notice) : Tally :=
  if c.outstanding.contains n.process then
    let deadline := if n.outcome = .timedOut then some (c.clock + c.grace) else none
    { c with outstanding := c.outstanding.erase n.process, retiring := some ⟨n, deadline⟩ }
  else c

def count (c : Tally) (n : Notice) : Tally :=
  match n.outcome.failure? with
  | none => { c with succeeded := c.succeeded + 1, retiring := none }
  | some reason => { c with failed := c.failed ++ [⟨n.process, reason⟩], retiring := none }

def mayCount (c : Tally) (r : Retiring) : Bool :=
  (c.marksOf r.notice.process).drained || r.deadline.any (· ≤ c.clock)

def giveUp (c : Tally) : Tally :=
  { c with failed := c.failed ++ c.outstanding.names.map fun p => ⟨p, .lost⟩
           outstanding := ∅, finished := true }

/-- One step of the tally, if it does not have to wait. -/
def step? (c : Tally) : Option Tally :=
  if c.finished then none
  else match c.retiring with
    -- notices wait until the process at hand is counted
    | some r => if c.mayCount r then some (c.count r.notice) else none
    | none =>
      if c.outstanding.isEmpty then some { c with finished := true }
      else match c.queue with
        | n :: queue => some ({ c with queue := queue }.takeUp n)
        -- nobody is left who could tell of the others
        | [] => if c.closed then some c.giveUp else none

def work (c : Tally) : Nat :=
  2 * c.queue.length + (if c.retiring.isSome then 1 else 0) + (if c.finished then 0 else 1)

theorem work_lt_of_step? {c d : Tally} (h : c.step? = some d) : d.work < c.work := by
  unfold step? at h
  split at h
  · cases h
  · rename_i hf
    split at h
    · rename_i r hr
      split at h
      · obtain rfl := Option.some.inj h
        unfold count
        split <;> simp [work, hr, hf]
      · cases h
    · rename_i hr
      split at h
      · obtain rfl := Option.some.inj h
        simp [work, hr, hf]
      · split at h
        · rename_i hq
          obtain rfl := Option.some.inj h
          unfold takeUp
          split
          · simp [work, hr, hf, hq]
            omega
          · simp [work, hr, hf, hq]
        · split at h
          · obtain rfl := Option.some.inj h
            simp [work, giveUp, hr, hf]
          · cases h

/-- Lets the tally go on until it has to wait or is complete. -/
def settle (c : Tally) : Tally :=
  match h : c.step? with
  | none => c
  | some d =>
    have := work_lt_of_step? h
    d.settle
termination_by c.work

inductive Event where
  | notice (n : Notice)
  | stdoutDrained (process : String)
  | stderrDrained (process : String)
  | stdoutDropped (process : String)
  | stderrDropped (process : String)
  /-- Both marks of a process are dropped. -/
  | marksDropped (process : String)
  | timePasses (milliseconds : Nat)
  /-- The last sender of notices is gone. -/
  | closed
deriving DecidableEq, Repr

def updateMarks (c : Tally) (process : String) (f : DrainMarks → DrainMarks) : Tally :=
  match c.marks.get? process with
  | some m => { c with marks := c.marks.insert process (f m) }
  | none => c

def apply (c : Tally) : Event → Tally
  | .notice n => if c.closed then c else { c with queue := c.queue ++ [n] }
  | .stdoutDrained p => c.updateMarks p fun m => { m with stdout := m.stdout.become .fired }
  | .stderrDrained p => c.updateMarks p fun m => { m with stderr := m.stderr.become .fired }
  | .stdoutDropped p => c.updateMarks p fun m => { m with stdout := m.stdout.become .dropped }
  | .stderrDropped p => c.updateMarks p fun m => { m with stderr := m.stderr.become .dropped }
  | .marksDropped p => c.updateMarks p fun m =>
      ⟨m.stdout.become .dropped, m.stderr.become .dropped⟩
  | .timePasses ms => { c with clock := c.clock + ms }
  | .closed => { c with closed := true }

def react (c : Tally) (e : Event) : Tally := (c.apply e).settle

def summary? (c : Tally) : Option RunSummary :=
  if c.finished then some ⟨c.launched, c.succeeded, c.failed⟩ else none

end Tally

end Pipework
