import Pipework.Files.NamedPipe
import Pipework.Run.Tally
import Pipework.Run.OutputLog
import Pipework.Run.Plan
import Pipework.Text.Lines

/-!
Launching the processes of a planned network. First the named pipes of every process are made, in
order; then each process has a task of its own, which starts it, collects its output line by line
and reports how it ended. `step?` says what each single step does and when it can be taken, so a run
is a sequence of steps and the order of the steps is free.
-/

namespace Pipework

inductive DrainStage where
  /-- The stream is open, and a part of its next line may have arrived. -/
  | reading (line : LineBuffer)
  /-- Nothing more will be logged, and the mark of the stream has not fired. -/
  | ended
  /-- The mark has fired, or the process has not been started. -/
  | idle
deriving DecidableEq, Repr

structure Drains where
  stdout : DrainStage := .reading {}
  stderr : DrainStage := .reading {}
deriving DecidableEq, Repr

namespace Drains

def get (d : Drains) : OutputStream → DrainStage
  | .stdout => d.stdout
  | .stderr => d.stderr

def set (d : Drains) (stage : DrainStage) : OutputStream → Drains
  | .stdout => { d with stdout := stage }
  | .stderr => { d with stderr := stage }

end Drains

inductive TaskStage where
  /-- The pipes of the process could not be made. -/
  | blocked (cause : PipeError)
  | ready
  | running
  /-- The end of the process has been reported. -/
  | reported
deriving DecidableEq, Repr

structure LaunchTask where
  spec : PlannedProcess
  stage : TaskStage
  /-- The streams of the process, once it has been started. -/
  drains : Drains := ⟨.idle, .idle⟩
deriving DecidableEq

/-- The state of a launch. -/
structure Launch (σ : Type) where
  files : σ
  pipeMode : Nat
  /-- The processes whose pipes are still to be made. -/
  unprepared : List PlannedProcess
  tasks : NameMap LaunchTask := ∅
  tally : Tally := {}
  log : List OutputLine := []

inductive StartResult where
  | started
  | failed (cause : IoError)
  /-- The process was started without one of its streams, and killed. -/
  | noCapture (stream : OutputStream)
deriving DecidableEq, Repr

inductive LaunchStep where
  /-- The pipes of the next process are made. -/
  | prepare
  /-- The task of a process without pipes gives up. -/
  | refuse (process : String)
  | start (process : String) (result : StartResult)
  | output (process : String) (stream : OutputStream) (octets : Bytes)
  /-- A stream is at its end. What has arrived of a line is its last line. -/
  | streamEnd (process : String) (stream : OutputStream)
  /-- A stream cannot be read any more. What has arrived of a line is lost. -/
  | readFailure (process : String) (stream : OutputStream)
  /-- The mark of a stream fires, after its last line. -/
  | drained (process : String) (stream : OutputStream)
  | exit (process : String) (status : WaitStatus)
  | waitFailure (process : String) (cause : IoError)
  /-- A process has run too long and is killed. -/
  | timeout (process : String)
  /-- The tally goes on by one step. -/
  | tally
  | timePasses (milliseconds : Nat)
deriving DecidableEq, Repr

namespace Launch

variable {σ : Type}

def ofSpecs (files : σ) (pipeMode : Nat) (specs : List PlannedProcess) : Launch σ :=
  { files := files, pipeMode := pipeMode, unprepared := specs }

def setTask (l : Launch σ) (process : String) (task : LaunchTask) : Launch σ :=
  { l with tasks := l.tasks.insert process task }

def tell (l : Launch σ) (e : Tally.Event) : Launch σ :=
  { l with tally := l.tally.apply e }

def allReported (l : Launch σ) : Bool :=
  l.unprepared.isEmpty && l.tasks.values.all (·.stage == .reported)

/-- Reports the end of a process. The last report also closes the way for reports. -/
def report (l : Launch σ) (process : String) (task : LaunchTask) (o : Outcome) : Launch σ :=
  let l := (l.setTask process { task with stage := .reported }).tell (.notice ⟨process, o⟩)
  if l.allReported then l.tell .closed else l

/-- Reports the failure of a process that was not started. Nothing will come from its streams. -/
def abandon (l : Launch σ) (process : String) (task : LaunchTask) (cause : RunError) : Launch σ :=
  (l.tell (.marksDropped process)).report process task (.failed cause)

def logLines (l : Launch σ) (process : String) (stream : OutputStream) (lines : List String) :
    Launch σ :=
  { l with log := l.log ++ lines.map fun text => ⟨process, stream, text⟩ }

def drainEvent (process : String) : OutputStream → Tally.Event
  | .stdout => .stdoutDrained process
  | .stderr => .stderrDrained process

def prepareOne [PipeStore σ] (l : Launch σ) (spec : PlannedProcess) : Launch σ :=
  let (result, files) :=
    NamedPipe.createAll l.files l.pipeMode (spec.pipes.ownedPipes.map (·.path))
  -- a process without its pipes is registered as well, and reports like any other
  let stage := match result with
    | .ok () => TaskStage.ready
    | .error e => .blocked e
  { l with files := files, unprepared := l.unprepared.drop 1
           tasks := l.tasks.insert spec.name { spec := spec, stage := stage }
           tally := l.tally.register spec.name }

def begin (l : Launch σ) (process : String) (task : LaunchTask) : StartResult → Launch σ
  | .started => l.setTask process { task with stage := .running, drains := {} }
  | .failed cause => l.abandon process task (.spawn process task.spec.component cause)
  | .noCapture stream => l.abandon process task (.noCapture process stream.toText)

def read (l : Launch σ) (process : String) (stream : OutputStream)
    (f : LineBuffer → List String × DrainStage) : Option (Launch σ) :=
  match l.tasks.get? process with
  | some task => match task.drains.get stream with
    | .reading line =>
      let (lines, stage) := f line
      some ((l.setTask process { task with drains := task.drains.set stage stream }).logLines
        process stream lines)
    | _ => none
  | none => none

def finish (l : Launch σ) (process : String) (o : Outcome) : Option (Launch σ) :=
  match l.tasks.get? process with
  | some task => match task.stage with
    | .running => some (l.report process task o)
    | _ => none
  | none => none

/-- Takes a step, if it can be taken. -/
def step? [PipeStore σ] (l : Launch σ) : LaunchStep → Option (Launch σ)
  | .prepare => match l.unprepared with
    | spec :: _ => some (l.prepareOne spec)
    | [] => none
  | .refuse p => match l.tasks.get? p with
    | some task => match task.stage with
      | .blocked cause =>
        if l.unprepared.isEmpty then some (l.abandon p task (.pipe p cause)) else none
      | _ => none
    | none => none
  | .start p result => match l.tasks.get? p with
    | some task => match task.stage with
      | .ready => if l.unprepared.isEmpty then some (l.begin p task result) else none
      | _ => none
    | none => none
  | .output p stream bs => l.read p stream fun line =>
    let (lines, rest) := line.feed bs
    (lines, .reading rest)
  | .streamEnd p stream => l.read p stream fun line => (line.finish, .ended)
  | .readFailure p stream => l.read p stream fun _ => ([], .ended)
  | .drained p stream => match l.tasks.get? p with
    | some task => match task.drains.get stream with
      | .ended =>
        some ((l.setTask p { task with drains := task.drains.set .idle stream }).tell
          (drainEvent p stream))
      | _ => none
    | none => none
  | .exit p status => l.finish p (.exited status)
  | .waitFailure p cause => l.finish p (.failed (.wait p cause))
  | .timeout p => l.finish p .timedOut
  | .tally =>
    if l.unprepared.isEmpty then l.tally.step?.map fun c => { l with tally := c }
    else none
  | .timePasses ms => some (l.tell (.timePasses ms))

/-- Lets the tally go on as far as it can. -/
def settle (l : Launch σ) : Launch σ := { l with tally := l.tally.settle }

/-- Takes a step if it can be taken, and lets the tally go on. -/
def advance [PipeStore σ] (l : Launch σ) (s : LaunchStep) : Launch σ := ((l.step? s).getD l).settle

def prepareAll [PipeStore σ] (l : Launch σ) : Launch σ :=
  (l.unprepared.foldl prepareOne l).settle

def summary? (l : Launch σ) : Option RunSummary := l.tally.summary?

end Launch

end Pipework
