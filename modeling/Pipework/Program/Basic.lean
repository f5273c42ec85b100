import Pipework.CommandLine
import Pipework.Graph.Load
import Pipework.Report.Dependencies
import Pipework.Report.Dot
import Pipework.Run.Launch

/-!
The program as a whole: from its arguments and the files around it to its exit code and all that it
prints. Whatever is wrong with the arguments, the network or its boundary is found before any pipe
is made or any process is started, and the ends of the processes do not change the exit code. What
becomes of the processes is up to the system that launches them.
-/

namespace Pipework

structure ProgramOutcome where
  code : Nat
  stdout : String := ""
  /-- The error that ended the program. -/
  error : Option String := none
  /-- The files after the run. -/
  files : FileTree

/-- What the program learns of a launch. -/
structure LaunchReport where
  launch : Launch FileTree
  /-- Has the program been interrupted twice? -/
  isInterrupted : Bool := false
  elapsed : Duration
  /-- The files after the launch. -/
  files : FileTree

/-- How a system launches planned processes: with which files, with which permissions of named pipes
and for how long, and what comes of it. -/
abbrev LaunchSystem := FileTree → Nat → Option Duration → List PlannedProcess → LaunchReport

namespace Program

def failed (files : FileTree) (e : ExitError) : ProgramOutcome :=
  { code := e.reason.code, error := some e.message, files := files }

def loadNetwork (files : FileTree) (p : Path) : Except ExitError Network :=
  match Graph.load files p with
  | .error e => .error (.ofNetwork "failed to load network" e)
  | .ok g => match Network.ofGraph g with
    | .error e => .error (.ofNetwork s!"invalid network {p.toText}" e)
    | .ok n => .ok n

def planNetwork (n : Network) (settings : RunSettings) : Except ExitError (List PlannedProcess) :=
  match planRun n settings.pipeDir settings.boundary with
  | .error e => .error (.ofRun "invalid network" (.network e))
  | .ok specs => .ok specs

def report (r : LaunchReport) (opening : String) (settings : RunSettings) (format : Display.Format) :
    ProgramOutcome :=
  let printed := opening ++ printedLines r.launch.log
  if r.isInterrupted && !r.launch.tally.finished then
    { code := ExitReason.interrupted.code, stdout := printed, files := r.files }
  else
    let c := r.launch.tally
    let elapsed := if settings.printTime then
        Display.elapsed r.elapsed c.launched c.failed.length format
      else ""
    { code := ExitReason.success.code, stdout := printed ++ elapsed, files := r.files }

def runNetwork (system : LaunchSystem) (files : FileTree) (n : Network) (settings : RunSettings)
    (format : Display.Format) : Except ExitError ProgramOutcome := do
  let specs ← planNetwork n settings
  let opening := if settings.verbosity = .debug then Display.network n specs format else ""
  let r := system files settings.pipeMode settings.timeout specs
  return report r opening settings format

def carryOut (system : LaunchSystem) (files : FileTree) (c : CommandLine)
    (boundary : ComponentArgs) : Except ExitError ProgramOutcome := do
  -- the arguments come first, so nothing is read if they are wrong
  let action ← c.action boundary
  let n ← loadNetwork files c.network
  let format := c.format.getD .plain
  let success (stdout : String) : ProgramOutcome :=
    { code := ExitReason.success.code, stdout := stdout, files := files }
  match action with
  | .graph => return success (Dot.render n)
  | .deps => return success (Display.dependencies n.dependencies format)
  | .run settings => runNetwork system files n settings format

def runOn (system : LaunchSystem) (files : FileTree) (args : List Bytes)
    (environment : Option Bytes) : ProgramOutcome :=
  match Invocation.ofArguments args environment with
  | .refused e => failed files e
  | .stopped s => { code := s.exitCode, files := files }
  | .accepted c boundary => match carryOut system files c boundary with
    | .ok o => o
    | .error e => failed files e

end Program

end Pipework
