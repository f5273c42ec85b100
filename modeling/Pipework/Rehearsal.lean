import Pipework.Duration
import Pipework.Rehearsal.Machine.Step

/-!
Running a planned network on a machine of its own, with scripts for components. The machine tells
what its jobs do, the launch takes it up, and a process that runs too long is killed. No statement
about networks, launches or the program rests on what the machine does.
-/

namespace Pipework

structure Rehearsal where
  launch : Launch FileTree
  machine : Machine
  /-- The times at which processes have run too long. -/
  limits : List (String × Nat) := []

namespace Rehearsal

def microseconds (d : Duration) : Nat := d.seconds * 1000000 + d.nanoseconds / 1000

def isOver (r : Rehearsal) : Bool := r.launch.tally.finished

def isInterrupted (r : Rehearsal) : Bool := 2 ≤ r.machine.interrupts

def advance (r : Rehearsal) (s : LaunchStep) : Rehearsal := { r with launch := r.launch.advance s }

def takeUp (r : Rehearsal) : Rehearsal :=
  let r' := { r with machine := { r.machine with told := [] } }
  r.machine.told.reverse.foldl advance r'

def tellTime (r : Rehearsal) : Rehearsal :=
  let passed := r.machine.clock / 1000 - r.launch.tally.clock
  if passed = 0 then r else r.advance (.timePasses passed)

/-- The task of a process begins: the process is started, unless its pipes are missing. -/
def begin (limit : Option Duration) (r : Rehearsal) (task : String × LaunchTask) : Rehearsal :=
  let (p, task) := task
  match task.stage with
  | .ready => match r.machine.spawn p (Text.toBytes task.spec.component) task.spec.argv with
    | .ok m =>
      let limits := limit.map fun d => (p, m.clock + microseconds d)
      { r with machine := m, limits := r.limits ++ limits.toList }.advance (.start p .started)
    | .error e => r.advance (.start p (.failed e))
  | _ => r.advance (.refuse p)

/-- A run at its beginning: all pipes have been made and all tasks have begun. -/
def start (files : FileTree) (pipeMode : Nat) (limit : Option Duration)
    (specs : List PlannedProcess) : Rehearsal :=
  let launch := (Launch.ofSpecs files pipeMode specs).prepareAll
  launch.tasks.entries.foldl (begin limit) ⟨launch, { files := launch.files }, []⟩

def kill (r : Rehearsal) (p : String) : Rehearsal :=
  -- the end that the kill brings about comes after the report and is not counted again
  let r := r.advance (.timeout p)
  match r.machine.jobs.find? (·.process == some p) with
  | some j => { r with machine := r.machine.signal j.number 9 }.takeUp
  | none => r

def enforce (r : Rehearsal) : Rehearsal :=
  let (due, later) := r.limits.partition (·.2 ≤ r.machine.clock)
  due.foldl (fun r l => r.kill l.1) { r with limits := later }

def nextTime? (r : Rehearsal) : Option Nat :=
  let grace := (r.launch.tally.retiring.bind (·.deadline)).map (· * 1000)
  let limits := r.limits.filterMap fun l =>
    (r.launch.tasks.get? l.1).bind fun t => if t.stage == .running then some l.2 else none
  (r.machine.nextWake?.toList ++ grace.toList ++ limits).min?

/-- Lets every job take a turn, and lets time pass if none can. Nothing is left when no time is
left either. -/
def round? (r : Rehearsal) : Option Rehearsal :=
  let (m, progress) := r.machine.round
  let r' := ({ r with machine := m }.takeUp).tellTime.enforce
  -- when nobody gets on, time passes until something happens by itself
  if progress || r'.isOver then some r'
  else r'.nextTime?.map fun time =>
    let clock := max r'.machine.clock time
    { r' with machine := { r'.machine with clock := clock } }.tellTime.enforce

/-- Goes on until nothing is left to do, or for so many rounds. -/
def goOn : (rounds : Nat) → Rehearsal → Rehearsal
  | 0, r => r
  | rounds + 1, r =>
    if r.isOver || r.isInterrupted then r
    else match r.round? with
      | some r => goOn rounds r
      | none => r

def maxRounds : Nat := 1000000

def run (files : FileTree) (pipeMode : Nat) (limit : Option Duration)
    (specs : List PlannedProcess) : Rehearsal :=
  goOn maxRounds (start files pipeMode limit specs)

def files (r : Rehearsal) : FileTree := r.machine.files

end Rehearsal

end Pipework
