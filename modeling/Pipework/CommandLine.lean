import Pipework.Duration
import Pipework.ExitError
import Pipework.ComponentArgs
import Pipework.Report.Display
import Pipework.Run.Plan

/-!
The command line of the program. Port flags are taken out first; what is left are switches, options
with a value, and the path of the network. Arguments are looked at in order, and a value is looked
at when the argument behind it is.
-/

namespace Pipework

inductive Verbosity where
  | quiet
  | normal
  | debug
deriving DecidableEq, Repr

inductive LogLevel where
  | error
  | warn
  | info
  | debug
  | trace
deriving DecidableEq, Repr

inductive LogFormat where
  | text
  | json
deriving DecidableEq, Repr

def Verbosity.word : Verbosity → String
  | quiet => "quiet"
  | normal => "normal"
  | debug => "debug"

def Verbosity.logLevel : Verbosity → LogLevel
  | quiet => .warn
  | normal => .info
  | debug => .debug

def LogLevel.word : LogLevel → String
  | error => "error"
  | warn => "warn"
  | info => "info"
  | debug => "debug"
  | trace => "trace"

def LogLevel.ofWord? (s : String) : Option LogLevel :=
  [error, warn, info, debug, trace].find? (·.word == s)

def LogFormat.word : LogFormat → String
  | text => "text"
  | json => "json"

def LogFormat.ofWord? (s : String) : Option LogFormat := [text, json].find? (·.word == s)

def Display.Format.word : Display.Format → String
  | plain => "plain"
  | table => "table"
  | json => "json"

def Display.Format.ofWord? (s : String) : Option Display.Format :=
  [plain, table, json].find? (·.word == s)

inductive UsageStop where
  | unknownArgument
  | argumentConflict
  | invalidValue
  | tooManyValues
  | missingNetwork
  | notText
  | help
  | version
deriving DecidableEq, Repr

def UsageStop.exitCode : UsageStop → Nat
  | help | version => 0
  | _ => 2

structure CommandLine where
  network : Path
  graph : Bool := false
  deps : Bool := false
  time : Bool := false
  debug : Bool := false
  quiet : Bool := false
  timeout : Option String := none
  pipeDir : Path
  format : Option Display.Format := none
  logFormat : LogFormat := .text
  logLevel : Option LogLevel := none
deriving DecidableEq, Repr

namespace CommandLine

inductive Switch where
  | graph
  | deps
  | time
  | debug
  | quiet
deriving DecidableEq, Repr

inductive Slot where
  | network
  | timeout
  | pipeDir
  | format
  | logFormat
  | logLevel
deriving DecidableEq, Repr

inductive Request where
  | switch (s : Switch)
  | slot (s : Slot)
  | help
  | version
deriving DecidableEq, Repr

/-- What a word behind two dashes asks for. Words are never shortened. -/
def Request.ofWord? : String → Option Request
  | "graph" => some (.switch .graph)
  | "deps" => some (.switch .deps)
  | "time" => some (.switch .time)
  | "debug" => some (.switch .debug)
  | "quiet" => some (.switch .quiet)
  | "timeout" => some (.slot .timeout)
  | "pipe-dir" => some (.slot .pipeDir)
  | "format" => some (.slot .format)
  | "log-format" => some (.slot .logFormat)
  | "log-level" => some (.slot .logLevel)
  | "help" => some .help
  | "version" => some .version
  | _ => none

/-- An argument that is still to be looked at, with its value if it has come. -/
structure Pending where
  slot : Slot
  value : Option Bytes

structure Draft where
  switches : List Switch := []
  network : Option Path := none
  timeout : Option String := none
  pipeDir : Option Path := none
  format : Option Display.Format := none
  logFormat : Option LogFormat := none
  logLevel : Option LogLevel := none
  pending : Option Pending := none
  /-- Has the path of the network come? -/
  placed : Bool := false
  /-- Are all further arguments values? -/
  onlyValues : Bool := false

namespace Draft

def pathOf (value : Bytes) : Except UsageStop Path :=
  if value.isEmpty then .error .invalidValue else .ok value

def choiceOf {α : Type} (ofWord? : String → Option α) (value : Bytes) : Except UsageStop α :=
  match (Text.ofBytes? value).bind ofWord? with
  | some x => .ok x
  | none => .error .invalidValue

def textOf (value : Bytes) : Except UsageStop String :=
  match Text.ofBytes? value with
  | some s => .ok s
  | none => .error .notText

/-- Sets the value of an argument. That it was given twice is seen before its value is. -/
def set (d : Draft) (slot : Slot) (value : Bytes) : Except UsageStop Draft := do
  match slot with
  | .network => return { d with network := some (← pathOf value) }
  | .timeout =>
    if d.timeout.isSome then throw .argumentConflict
    return { d with timeout := some (← textOf value) }
  | .pipeDir =>
    if d.pipeDir.isSome then throw .argumentConflict
    return { d with pipeDir := some (← pathOf value) }
  | .format =>
    if d.format.isSome then throw .argumentConflict
    return { d with format := some (← choiceOf Display.Format.ofWord? value) }
  | .logFormat =>
    if d.logFormat.isSome then throw .argumentConflict
    return { d with logFormat := some (← choiceOf LogFormat.ofWord? value) }
  | .logLevel =>
    if d.logLevel.isSome then throw .argumentConflict
    return { d with logLevel := some (← choiceOf LogLevel.ofWord? value) }

/-- Looks at the argument that is pending. -/
def settle (d : Draft) : Except UsageStop Draft :=
  match d.pending with
  | none => .ok d
  -- its value has not come and will not come any more
  | some ⟨_, none⟩ => .error .invalidValue
  | some ⟨slot, some value⟩ => { d with pending := none }.set slot value

def switchOn (d : Draft) (s : Switch) : Except UsageStop Draft := do
  let d ← d.settle
  if d.switches.contains s then throw .argumentConflict
  return { d with switches := s :: d.switches }

/-- Takes an argument that starts with two dashes; `value` is what follows its equals sign. -/
def long (d : Draft) (word : String) (value : Option Bytes) : Except UsageStop Draft :=
  match Request.ofWord? word, value with
  -- refused before the argument that is pending is looked at
  | none, _ => .error .unknownArgument
  | some (.slot slot), some value => do (← d.settle).set slot value
  | some (.slot slot), none => do return { ← d.settle with pending := some ⟨slot, none⟩ }
  | some _, some _ => .error .tooManyValues
  | some (.switch s), none => d.switchOn s
  | some .help, none => do let _ ← d.settle; throw .help
  | some .version, none => do let _ ← d.settle; throw .version

/-- Takes an argument that starts with one dash. It stands for one letter or more, and the first
one is the answer. -/
def short (d : Draft) (letters : Bytes) : Except UsageStop Draft := do
  if letters.head? = some 104 then
    let _ ← d.settle
    throw .help
  else if letters.head? = some 86 then
    let _ ← d.settle
    throw .version
  else throw .unknownArgument

/-- Takes an argument that is the path of the network. There can be only one. -/
def place (d : Draft) (value : Bytes) : Except UsageStop Draft :=
  if d.placed then .error .unknownArgument
  else do return { ← d.settle with pending := some ⟨.network, some value⟩, placed := true }

def plain (d : Draft) (value : Bytes) : Except UsageStop Draft :=
  match d.pending with
  | some ⟨slot, none⟩ => .ok { d with pending := some ⟨slot, some value⟩ }
  | _ => d.place value

def add (d : Draft) (arg : Bytes) : Except UsageStop Draft :=
  if d.onlyValues then d.place arg
  else if arg = terminator then .ok { d with onlyValues := true }
  else match arg with
    | 45 :: 45 :: body =>
      -- the first equals sign divides a word from its value
      let word := body.takeWhile (· != 61)
      let value := (body.dropWhile (· != 61)).tail?
      match Text.ofBytes? word with
      | some word => d.long word value
      | none => .error .unknownArgument
    | 45 :: c :: letters => d.short (c :: letters)
    -- a dash alone is a value too
    | arg => d.plain arg

/-- The command line that has been read. `environment` is the directory for named pipes that the
surroundings of the program give, if no option does. -/
def finish (d : Draft) (environment : Option Bytes) : Except UsageStop CommandLine := do
  let d ← d.settle
  let pipeDir ← match d.pipeDir, environment with
    | some dir, _ => pure dir
    | none, some dir => pathOf dir
    | none, none => pure defaultPipeDir
  -- options that exclude each other come before a path that is missing
  let has := d.switches.contains
  if has .graph && has .deps || has .debug && has .quiet then throw .argumentConflict
  match d.network with
  | none => throw .missingNetwork
  | some network => return {
      network := network
      graph := has .graph, deps := has .deps, time := has .time
      debug := has .debug, quiet := has .quiet
      timeout := d.timeout, pipeDir := pipeDir, format := d.format
      logFormat := d.logFormat.getD .text, logLevel := d.logLevel }

end Draft

def parse (args : List Bytes) (environment : Option Bytes) : Except UsageStop CommandLine := do
  (← args.foldlM Draft.add {}).finish environment

def verbosity (c : CommandLine) : Verbosity :=
  if c.debug then .debug else if c.quiet then .quiet else .normal

def level (c : CommandLine) : LogLevel := c.logLevel.getD c.verbosity.logLevel

end CommandLine

structure RunSettings where
  boundary : ComponentArgs := {}
  verbosity : Verbosity := .normal
  pipeDir : Path := defaultPipeDir
  pipeMode : Nat := defaultPipeMode
  timeout : Option Duration := none
  printTime : Bool := false
deriving DecidableEq, Repr

inductive Action where
  | graph
  | deps
  | run (settings : RunSettings)
deriving DecidableEq, Repr

/-- What the command line asks for. A timeout counts only if something is run. -/
def CommandLine.action (c : CommandLine) (boundary : ComponentArgs) : Except ExitError Action :=
  if c.graph then .ok .graph
  else if c.deps then .ok .deps
  else
    let settings : RunSettings :=
      { boundary := boundary, verbosity := c.verbosity, pipeDir := c.pipeDir, printTime := c.time }
    match c.timeout with
    | none => .ok (.run settings)
    | some text => match Duration.parse text with
      | .ok d => .ok (.run { settings with timeout := some d })
      | .error e => .error ⟨.usage, e.message⟩

inductive Invocation where
  | refused (e : ExitError)
  | stopped (s : UsageStop)
  | accepted (c : CommandLine) (boundary : ComponentArgs)

def Invocation.ofArguments (args : List Bytes) (environment : Option Bytes) : Invocation :=
  match ComponentArgs.extract args with
  | .error e => .refused ⟨.usage, e.message⟩
  | .ok (boundary, rest) => match CommandLine.parse rest environment with
    | .error s => .stopped s
    | .ok c => .accepted c boundary

end Pipework
