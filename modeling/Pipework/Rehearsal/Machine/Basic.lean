import Pipework.Files.Fresh
import Pipework.Rehearsal.Machine.Signal
import Pipework.Run.Launch
import Pipework.Rehearsal.Script.Expand
import Pipework.Rehearsal.Script.Filter

/-!
A machine that runs scripts: its files, its jobs, and the pipes between them. Jobs take turns; a job
that has to wait for another one, or for a time, takes none. What the jobs of a network do is told
in the steps of its launch.
-/

namespace Pipework

inductive Handle where
  | null
  | file (location : Location) (offset : Nat) (atEnd : Bool)
  | reader (channel : Nat)
  | writer (channel : Nat)
  /-- An output stream of a process of the network. -/
  | captured (process : String) (stream : OutputStream)
deriving DecidableEq, Repr

def channelRoom : Nat := 65536

structure Channel where
  /-- The named pipe that leads here. -/
  pipe : Option Location := none
  held : Bytes := []
  /-- How often each end has been opened. -/
  readerOpens : Nat := 0
  writerOpens : Nat := 0
deriving DecidableEq, Repr

open Script (Command Field Redirect Word Scope)

/-- A program of the system as it has been called: what it is, how it calls itself, and its
arguments. -/
structure ToolCall where
  tool : String
  name : String
  args : List String := []
deriving DecidableEq, Repr

/-- What a job still has to do, in pieces that are done one by one. -/
inductive Work where
  | run (c : Command)
  /-- Ends a script with a complaint. -/
  | abort (message : String)
  /-- Goes on with a command if the last one succeeded, or if it failed. -/
  | next (ifSucceeded : Bool) (c : Command)
  | negate
  | branch (yes no : Command)
  /-- Decides, after its condition, whether a loop goes on; `last` is the status of its body. -/
  | loopTest (whileFails : Bool) (condition body : Command) (last : Nat)
  | loopAgain (whileFails : Bool) (condition body : Command)
  | each (name : String) (values : List String) (body : Command)
  /-- Ends a script that wants it if the last command has failed. -/
  | checkFailure
  /-- Runs a function. -/
  | call (f : Script.Function) (args : List String)
  /-- Ends the run of a function, or of a script inside of another one. The arguments may be given
  back that were there before. -/
  | endCall (arguments : Option (List String)) (functionLine : Option Nat)
  /-- Opens files one by one, and goes on only if all can be opened. A failure may end the script.
  -/
  | redirect (isFatal : Bool) (redirects : List Redirect) (body : List Work)
  | openInput (descriptor : Nat) (path : String) (call : ToolCall) (body : List Work)
  /-- Opens a file for the output of a program, which goes on with or without it. -/
  | openOutput (descriptor : Nat) (atEnd : Bool) (path : String) (call : ToolCall)
  /-- Waits until the other end of a channel has been opened. -/
  | awaitPeer (channel : Nat) (asReader : Bool) (seen : Nat)
  | restore (descriptors : List (Nat × Nat))
  | restoreVariable (name : String) (value : Option String)
  | closeDescriptor (descriptor : Nat)
  | builtin (argv : List String)
  /-- Becomes another program, perhaps because a script asks its own job to. -/
  | replace (argv : List String) (asked : Bool)
  /-- Becomes the program that the arguments of another one name. -/
  | handOver (caller : String) (argv : List String)
  /-- Does what a program does at once. -/
  | serve (call : ToolCall)
  /-- Waits for jobs. If a script has asked for it, a signal ends the waiting. -/
  | await (jobs : List Nat) (asked : Bool)
  | awaitAll
  | put (descriptor : Nat) (octets : Bytes)
  /-- Writes octets again and again. -/
  | repeatPut (octets : Bytes)
  | setStatus (status : Nat)
  /-- Copies all that can be read to each of the targets. -/
  | copy (source : Nat) (targets : List Nat) (call : ToolCall) (label : Option String)
  /-- Gathers the inputs of a program, one after the other, and then turns them into its output. -/
  | inputs (call : ToolCall) (queue : List String) (got : List Script.Filter.Input)
  /-- Gathers one input. -/
  | gather (descriptor : Nat) (pieces : List Bytes) (call : ToolCall) (label : Option String)
      (queue : List String) (got : List Script.Filter.Input)
  | readLine (names : List String) (raw : Bool) (got : List (Char × Bool)) (escaped : Bool)
  /-- Reads the output of a script and puts it into a command. -/
  | substitute (descriptor job : Nat) (got : List Bytes) (c : Command)
  | sleepFor (microseconds : Nat)
  | sleepUntil (time : Nat)

def Work.isBoundary : Work → Bool
  | run _ | next _ _ | branch _ _ | loopTest _ _ _ _ | loopAgain _ _ _ | each _ _ _
  | checkFailure | awaitAll => true
  | await _ asked => asked
  | _ => false

def Work.asksForStatus : Work → Bool
  | next _ _ | negate | branch _ _ | loopTest _ _ _ _ => true
  | _ => false

def shownDirectory (l : Location) : String :=
  if l.isEmpty then "/" else String.join (l.map fun name => "/" ++ Script.view name)

/-- A running program. -/
structure Job where
  number : Nat
  parent : Nat
  /-- The process of the network that this job is. -/
  process : Option String := none
  scope : Scope := {}
  directory : Location
  /-- The permissions that new files do not get. -/
  mask : Nat := 0o022
  descriptors : List (Nat × Nat) := []
  work : List Work := []
  /-- The signals that have come and have not been answered. -/
  pending : List Nat := []
  isStopped : Bool := false
  ended : Option WaitStatus := none

namespace Job

def withDescriptor (j : Job) (descriptor handle : Nat) : Job :=
  { j with descriptors := (descriptor, handle) :: j.descriptors.filter (·.1 != descriptor) }

def doing (j : Job) (work : List Work) : Job := { j with work := work }

def first (j : Job) (work : List Work) : Job := { j with work := work ++ j.work }

def withStatus (j : Job) (status : Nat) : Job :=
  { j with scope := { j.scope with status := status } }

def isTested (j : Job) : Bool := j.scope.isTested || j.work.any Work.asksForStatus

def complain (j : Job) (message : String) (status : Nat) : Job :=
  (j.withStatus status).first [.put 2 (Script.octets (message ++ "\n"))]

def located (j : Job) (message : String) : String :=
  s!"{j.scope.name}: {j.scope.line}: {message}"

def abort (j : Job) (message : String) : Job := (j.doing []).complain message 2

def newMode (j : Job) (mode : Nat) : Nat := mode &&& (0o7777 - j.mask)

/-- Works something out in the scope of a job, or gives the job after the mistake that was made. -/
def evaluate {α : Type} (j : Job) (e : Script.Evaluation α) : Except Job (α × Job) :=
  match e.run j.scope with
  | .ok (a, scope) => .ok (a, { j with scope := scope })
  | .error message => .error (j.abort (j.located message))

/-- The scope of a new job of a script: signals that are answered are not, and those that are
ignored still are. -/
def childScope (j : Job) : Scope :=
  { j.scope with traps := j.scope.traps.filter fun t => t.1 != 0 && t.2.isEmpty
                 isTested := j.isTested }

end Job

/-- A machine. -/
structure Machine where
  files : FileTree
  /-- The time in microseconds. -/
  clock : Nat := 0
  jobs : List Job := []
  handles : List (Nat × Handle) := []
  channels : List (Nat × Channel) := []
  /-- The next free number. -/
  fresh : Nat := 2
  /-- How often the program that launched the network has been interrupted. -/
  interrupts : Nat := 0
  /-- The steps of the launch that have not been told, the last one first. -/
  told : List LaunchStep := []

namespace Machine

def programNumber : Nat := 1

def job? (m : Machine) (number : Nat) : Option Job := m.jobs.find? (·.number == number)

def setJob (m : Machine) (j : Job) : Machine :=
  { m with jobs := m.jobs.map fun k => if k.number == j.number then j else k }

def tell (m : Machine) (s : LaunchStep) : Machine := { m with told := s :: m.told }

def handle? (m : Machine) (j : Job) (descriptor : Nat) : Option (Nat × Handle) := do
  let number ← j.descriptors.lookup descriptor
  return (number, ← m.handles.lookup number)

def setHandle (m : Machine) (number : Nat) (h : Handle) : Machine :=
  { m with handles := (number, h) :: m.handles.filter (·.1 != number) }

def setChannel (m : Machine) (number : Nat) (c : Channel) : Machine :=
  { m with channels := (number, c) :: m.channels.filter (·.1 != number) }

def addHandle (m : Machine) (h : Handle) : Machine × Nat :=
  ({ m with handles := (m.fresh, h) :: m.handles, fresh := m.fresh + 1 }, m.fresh)

def addChannel (m : Machine) (c : Channel) : Machine × Nat :=
  ({ m with channels := (m.fresh, c) :: m.channels, fresh := m.fresh + 1 }, m.fresh)

def heldHandles (m : Machine) : List Nat :=
  m.jobs.flatMap fun j => if j.ended.isNone then j.descriptors.map (·.2) else []

def holds (m : Machine) (h : Handle) : Bool :=
  let held := m.heldHandles
  m.handles.any fun e => e.2 == h && held.contains e.1

/-- Drops all handles and channels that no job holds. A stream that nobody can write to any more is
at its end. -/
def sweep (m : Machine) : Machine :=
  let held := m.heldHandles
  let (kept, gone) := m.handles.partition fun e => held.contains e.1
  let ends := gone.flatMap fun e => match e.2 with
    | .captured p s => [LaunchStep.streamEnd p s, .drained p s]
    | _ => []
  let used (n : Nat) : Bool := kept.any fun e => e.2 == .reader n || e.2 == .writer n
  { m with handles := kept, channels := m.channels.filter fun c => used c.1
           told := ends.reverse ++ m.told }

def endJob (m : Machine) (j : Job) (status : WaitStatus) : Machine :=
  let m := m.setJob { j with ended := some status, work := [] }
  let m := match j.process with
    | some p => m.tell (.exit p status)
    | none => m
  m.sweep

/-- Sends a signal to a job, or interrupts the program. A job that does not answer the signal ends,
is stopped or goes on. -/
def signal (m : Machine) (number signal : Nat) : Machine :=
  if number == programNumber then
    if signal == Signal.interrupt then { m with interrupts := m.interrupts + 1 } else m
  else match m.job? number with
    | none => m
    | some j =>
      if j.ended.isSome then m
      else if signal = Signal.kill then m.endJob j (.ofSignal signal)
      else if signal = Signal.goOn then m.setJob { j with isStopped := false }
      else if signal = 19 then m.setJob { j with isStopped := true }
      else match j.scope.traps.lookup signal with
        | some "" => m
        | some _ =>
          if j.pending.contains signal || signal = 0 then m
          else m.setJob { j with pending := signal :: j.pending }
        | none =>
          if Signal.isHarmless signal then m
          else if Signal.stops signal then m.setJob { j with isStopped := true }
          else m.endJob j (.ofSignal signal)

/-! ## The files of a job -/

def filesOf (m : Machine) (j : Job) : FileTree := { m.files with current := j.directory }

def withFiles (m : Machine) (t : FileTree) : Machine :=
  { m with files := { t with current := m.files.current } }

/-! ## Opening files -/

def openPipe (m : Machine) (l : Location) (asReader : Bool) : Machine × Handle × Work :=
  let (m, n) := match m.channels.find? fun c => c.2.pipe == some l with
    | some c => (m, c.1)
    | none => m.addChannel { pipe := some l }
  let c := (m.channels.lookup n).getD {}
  if asReader then
    (m.setChannel n { c with readerOpens := c.readerOpens + 1 }, .reader n,
      .awaitPeer n true c.writerOpens)
  else
    (m.setChannel n { c with writerOpens := c.writerOpens + 1 }, .writer n,
      .awaitPeer n false c.readerOpens)

/-- Opens a file for reading, writing or adding. A named pipe has to wait for its other end. -/
def openFile (m : Machine) (j : Job) (kind : Script.RedirectKind) (p : Path) :
    Except IoError (Machine × Handle × List Work) := do
  let l ← (m.filesOf j).resolve false p
  let forReading := kind == .read
  match m.files.lookup l with
  | none =>
    if forReading then throw .noEntry
    return ({ m with files := m.files.put l (.regular [] (j.newMode 0o666)) },
      .file l 0 (kind == .append), [])
  | some e =>
    if e = .directory && !forReading then throw .isDirectory
    if !(if forReading then e.isReadable else e.isWritable) then throw .accessDenied
    match e with
    | .directory => return (m, .file l 0 false, [])
    | .regular _ mode =>
      let m := if kind == .write then { m with files := m.files.put l (.regular [] mode) } else m
      return (m, .file l 0 (kind == .append), [])
    | .pipe _ =>
      let (m, h, wait) := m.openPipe l forReading
      return (m, h, [wait])
    | _ => return (m, .null, [])

/-- Opens a file as a descriptor of a job. What the job has to do first comes before its other
work. -/
def openAs (m : Machine) (j : Job) (descriptor : Nat) (kind : Script.RedirectKind) (p : Path) :
    Except IoError (Machine × Job) := do
  let (m, h, wait) ← m.openFile j kind p
  let (m, n) := m.addHandle h
  return (m, (j.withDescriptor descriptor n).first wait)

/-! ## Reading and writing -/

inductive ReadResult where
  | octets (bs : Bytes) (m : Machine)
  | atEnd
  | blocked
  | failed (cause : IoError)

def read (m : Machine) (j : Job) (descriptor most : Nat) : ReadResult :=
  match m.handle? j descriptor with
  | some (n, .file l offset atEnd) => match m.files.lookup l with
    | some (.regular data _) =>
      let bs := (data.drop offset).take most
      if bs.isEmpty then .atEnd else .octets bs (m.setHandle n (.file l (offset + bs.length) atEnd))
    | some .directory => .failed .isDirectory
    | _ => .atEnd
  | some (_, .reader n) =>
    let c := (m.channels.lookup n).getD {}
    if !c.held.isEmpty then
      .octets (c.held.take most) (m.setChannel n { c with held := c.held.drop most })
    else if m.holds (.writer n) then .blocked
    else .atEnd
  | _ => .atEnd

inductive WriteResult where
  /-- So much is left to be written. -/
  | written (rest : Bytes) (m : Machine)
  | blocked
  /-- Nobody is there to read. -/
  | broken

def patch (data : Bytes) (offset : Nat) (bs : Bytes) : Bytes :=
  data.take offset ++ List.replicate (offset - data.length) 0 ++ bs ++
    data.drop (offset + bs.length)

def write (m : Machine) (j : Job) (descriptor : Nat) (bs : Bytes) : WriteResult :=
  match m.handle? j descriptor with
  | some (n, .file l offset atEnd) => match m.files.lookup l with
    | some (.regular data mode) =>
      let start := if atEnd then data.length else offset
      let m := { m with files := m.files.put l (.regular (patch data start bs) mode) }
      .written [] (m.setHandle n (.file l (start + bs.length) atEnd))
    | _ => .written [] m
  | some (_, .writer n) =>
    let c := (m.channels.lookup n).getD {}
    let room := channelRoom - c.held.length
    -- nobody notices an empty write
    if bs.isEmpty then .written [] m
    else if !m.holds (.reader n) then .broken
    else if room = 0 then .blocked
    else .written (bs.drop room) (m.setChannel n { c with held := c.held ++ bs.take room })
  | some (_, .captured p s) => .written [] (if bs.isEmpty then m else m.tell (.output p s bs))
  | _ => .written [] m

end Machine

end Pipework
