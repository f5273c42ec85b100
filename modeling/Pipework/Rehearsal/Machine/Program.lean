import Pipework.Rehearsal.Machine.Basic
import Pipework.Rehearsal.Script.Filter
import Pipework.Rehearsal.Script.Parse

namespace Pipework

open Script (Scope view octets)

structure Image where
  tool : String
  argv : List String
deriving DecidableEq, Repr

namespace Image

def headSize : Nat := 256

def isGap (b : UInt8) : Bool := b == 32 || b == 9

/-- The interpreter that the first line of a script names, with its argument. The line ends with a
line feed or a zero octet; if it does neither, a name that may have been cut off does not count. -/
def interpreter? (data : Bytes) : Option (Bytes × Option Bytes) :=
  match data.take headSize with
  | 35 :: 33 :: cs =>
    let line := cs.takeWhile fun b => b != 10 && b != 0
    let cut := line.length + 2 = headSize
    let ended := cs[line.length]? == some 10
    let line := if cut then line.dropLast else line
    let line := if cut || ended then (line.reverse.dropWhile isGap).reverse else line
    let name := (line.dropWhile isGap).takeWhile (!isGap ·)
    let rest := (line.dropWhile isGap).drop name.length
    let arg := rest.dropWhile isGap
    if name.isEmpty && (cut || ended) then none
    else if cut && !(cs.dropWhile isGap).any isGap then none
    else some (name, if rest.isEmpty then none else some arg)
  | _ => none

/-- The program at a path. A script is run by its interpreter, which may be a script again. -/
def atPath (files : FileTree) (argv : List String) : (depth : Nat) → Path → Except IoError Image
  | 0, _ => .error .linkLoop
  | depth + 1, p => do
    let (_, e) ← files.find false p
    if !e.isExecutable then throw .accessDenied
    match e with
    | .tool name => return ⟨name, argv⟩
    | .regular data _ => match interpreter? data with
      | some (name, arg) =>
        -- no name at all stands for the current directory
        if name.isEmpty then throw .accessDenied
        let argv := (name :: arg.toList).map view ++ view p :: argv.tail
        atPath files argv depth name
      | none => throw .notRunnable
    | _ => throw .accessDenied
termination_by depth => depth

def maxDepth : Nat := 6

/-- The program of a name. A name without a slash is looked for among the programs of the system. -/
def find (files : FileTree) (name : Bytes) (argv : List String) : Except IoError Image :=
  if name.contains Path.slash then atPath files argv maxDepth name
  else if name.length > FileTree.maxNameLength then .error .nameTooLong
  else
    let found := FileTree.toolDirs.map fun d => atPath files argv maxDepth (d.join name)
    match found.findSome? Except.toOption with
    | some image => .ok image
    | none =>
      -- a file that may not be run is only reported when there is nothing better
      let denied (r : Except IoError Image) : Bool := r matches .error .accessDenied
      .error (if found.any denied then .accessDenied else .noEntry)

end Image

def IoError.cause : IoError → String
  | .os number => describe number
  | e => e.message

def IoError.shellCause (e : IoError) (forReading : Bool) : String :=
  if e = .noEntry ∨ e = .notDirectory then
    if forReading then "No such file" else "Directory nonexistent"
  else e.cause

namespace ToolCall

def openFailed (call : ToolCall) (j : Job) (path : String) (e : IoError) : Job :=
  match call.tool with
  | "head" | "tail" =>
    j.complain s!"{call.name}: cannot open {Script.shellName true path} for reading: {e.cause}" 1
  -- nothing is put in order unless all of it can be read
  | "sort" =>
    (j.doing []).complain s!"{call.name}: cannot read: {Script.shellName false path}: {e.cause}" 2
  | "grep" => j.complain s!"{call.name}: {path}: {e.cause}" 2
  | "tac" =>
    j.complain s!"{call.name}: failed to open {Script.shellName true path} for reading: {e.cause}" 1
  | "rev" => j.complain s!"{call.name}: cannot open {path}: {e.cause}" 1
  | _ => j.complain s!"{call.name}: {Script.shellName false path}: {e.cause}" 1

def readFailed (call : ToolCall) (j : Job) (path : String) (e : IoError) : Job :=
  match call.tool with
  | "head" | "tail" | "uniq" =>
    j.complain s!"{call.name}: error reading {Script.shellName true path}: {e.cause}" 1
  | "sort" =>
    (j.doing []).complain s!"{call.name}: read failed: {Script.shellName false path}: {e.cause}" 2
  | "grep" => j.complain s!"{call.name}: {path}: {e.cause}" 2
  | _ => j.complain s!"{call.name}: {Script.shellName false path}: {e.cause}" 1

end ToolCall

def Script.Source.work (s : Source) (start : Nat → String) : List Work :=
  s.lines.map .run ++
    (s.fault.map fun f => Work.abort (start f.line ++ f.message)).toList

def Job.runScript (j : Job) (source : String) : Job :=
  j.doing ((Script.Source.parse 1 source).work fun line => s!"{j.scope.name}: {line}: ")

/-! ## The interpreter of scripts -/

structure ShellArguments where
  options : Script.RunOptions := {}
  /-- Is the script itself an argument? -/
  givesScript : Bool := false
  /-- Does the script come from the input? -/
  readsInput : Bool := false
  rest : List String := []

namespace ShellArguments

def setLetter (isFirst on : Bool) (s : ShellArguments) (letter : Char) :
    Except String ShellArguments :=
  if isFirst && letter = 'c' then .ok { s with givesScript := true }
  else if isFirst && letter = 'l' then .ok s
  else if letter = 's' then .ok { s with readsInput := on }
  else if Script.RunOptions.letters.contains letter then
    .ok { s with options := s.options.set letter on }
  else .error s!"Illegal option -{letter}"

/-- Reads options; `isFirst` says whether they are those that an interpreter is started with. -/
def read (isFirst : Bool) : List String → ShellArguments → Except String ShellArguments
  | [], s => .ok s
  | arg :: args, s => do
    match arg.toList with
    | ['-'] | ['-', '-'] => return { s with rest := args }
    | sign :: letters =>
      if sign != '-' && sign != '+' then return { s with rest := arg :: args }
      let on := sign == '-'
      let s ← (letters.filter (· != 'o')).foldlM (setLetter isFirst on) s
      if !letters.contains 'o' then read isFirst args s
      else match args with
        | [] => return s
        | name :: args => match Script.RunOptions.names.lookup name with
          | some letter => read isFirst args { s with options := s.options.set letter on }
          | none => throw s!"Illegal option {sign}o {name}"
    | [] => return { s with rest := arg :: args }

end ShellArguments

def Job.shellScope (j : Job) (name : String) (arguments : List String) : Scope :=
  let initial := [("OPTIND", "1"), ("PWD", shownDirectory j.directory), ("IFS", " \t\n"),
    ("PS1", "$ "), ("PS2", "> "), ("PS4", "+ ")]
  let s := Scope.ofEnvironment j.scope.environment
  { (initial.foldl (fun s v => s.set v.1 v.2) s).share "PWD" with
    name := name, arguments := arguments, process := j.number, parent := j.parent
    traps := j.childScope.traps, deafTo := j.childScope.traps.map (·.1) }

namespace Machine

def runShell (m : Machine) (j : Job) (argv : List String) : Job :=
  let name := argv.headD ""
  let refuse (message : String) : Job := (j.doing []).complain s!"{name}: 0: {message}" 2
  match ShellArguments.read true argv.tail {} with
  | .error message => refuse message
  | .ok s =>
    let start (name : String) (arguments : List String) : Job :=
      { j with scope := { j.shellScope name arguments with options := s.options } }
    match s.givesScript, s.rest with
    | true, [] => refuse "-c requires an argument"
    | true, source :: rest => (start (rest.headD name) rest.tail).runScript source
    | false, [] => (start name []).doing [.inputs ⟨"sh", name, []⟩ ["-"] []]
    | false, file :: rest =>
      if s.readsInput then (start name s.rest).doing [.inputs ⟨"sh", name, []⟩ ["-"] []]
      else match (m.filesOf j).contents (octets file) with
        | .ok data => (start file rest).runScript (view data)
        -- a directory can be opened, and nothing comes from it
        | .error .isDirectory => j.doing []
        | .error e => refuse s!"cannot open {file}: {e.shellCause true}"

/-! ## Other programs -/

/-- The microseconds that a text spells: seconds with decimals, perhaps with a unit. -/
def microseconds? (s : String) : Option Nat :=
  let cs := s.toList
  let whole := cs.takeWhile Char.isDigit
  let behind := cs.drop whole.length
  let decimals := match behind with
    | '.' :: cs => cs.takeWhile Char.isDigit
    | _ => []
  let unit := match behind with
    | '.' :: cs => cs.drop decimals.length
    | cs => cs
  let number (ds : List Char) : Nat := ds.foldl (fun n c => n * 10 + (c.toNat - 48)) 0
  let us := number whole * 1000000 + number ((decimals ++ List.replicate 6 '0').take 6)
  if whole.isEmpty && decimals.isEmpty then none
  else match unit with
    | [] | ['s'] => some us
    | ['m'] => some (us * 60)
    | ['h'] => some (us * 3600)
    | ['d'] => some (us * 86400)
    | _ => none

def sleepTime (args : List String) : Except String Nat :=
  if args.isEmpty then .error "missing operand"
  else args.foldlM (fun n a => match microseconds? a with
    | some us => .ok (n + us)
    | none => .error s!"invalid time interval '{a}'") 0

def copyAll (call : ToolCall) (files : List String) : List Work :=
  if files.isEmpty then [.copy 0 [1] call none]
  else files.flatMap fun f =>
    if f = "-" then [.copy 0 [1] call none]
    else [.openInput 3 f call [.copy 3 [1] call (some f), .closeDescriptor 3]]

/-- The work of a program that copies its input to its output and to files. A file that could not be
opened has a descriptor too, which leads nowhere. -/
def share (call : ToolCall) (atEnd : Bool) (files : List String) : List Work :=
  let targets := (List.range files.length).map (· + 3)
  targets.zipWith (fun descriptor f => .openOutput descriptor atEnd f call) files ++
    [.copy 0 (1 :: targets) call none]

/-- The scope of a program that runs another one in a changed environment, and the arguments that
name the other one. -/
def changeEnvironment : List String → Scope → Scope × List String
  | "-i" :: args, s => changeEnvironment args { s with exported := [] }
  | "-u" :: name :: args, s =>
    changeEnvironment args { s with exported := s.exported.filter (· != name) }
  | arg :: args, s =>
    let name := (arg.takeWhile (· != '=')).toString
    if name = arg then (s, arg :: args)
    else changeEnvironment args
      ((s.set name (arg.drop (name.length + 1)).toString).share name)
  | [], s => (s, [])

def become (m : Machine) (j : Job) (image : Image) : Job :=
  let args := image.argv.tail
  let name := image.argv.headD image.tool
  let call : ToolCall := ⟨image.tool, name, args⟩
  let j := { (j.doing []).withStatus 0 with pending := [] }
  let j := { j with scope := { j.scope with traps := j.childScope.traps, functions := [] } }
  match image.tool with
  | "sh" => m.runShell j image.argv
  | "cat" =>
    let files := args.filter fun a => a = "-" || !a.startsWith "-"
    j.doing (copyAll call files)
  | "tee" => j.doing (share call (args.contains "-a") (args.filter (!·.startsWith "-")))
  | "sleep" => match sleepTime args with
    | .ok us => j.doing [.sleepFor us]
    | .error message =>
      j.complain s!"{name}: {message}\nTry '{name} --help' for more information." 1
  | "yes" =>
    let line := if args.isEmpty then "y" else " ".intercalate args
    j.doing [.repeatPut (octets (line ++ "\n"))]
  | "env" => match changeEnvironment args j.scope with
    | (scope, []) =>
      let line (v : String × String) : String := s!"{v.1}={v.2}\n"
      j.doing [.put 1 (octets (String.join (scope.environment.map line)))]
    | (scope, argv) => { j with scope := scope }.doing [.handOver name argv]
  | tool =>
    let fault := if tool = "head" ∨ tool = "tail" then Script.Filter.quantityFault? args else none
    if let some message := fault then j.complain s!"{name}: {message}" 1
    else if Script.Filter.names.contains tool then
      let files := Script.Filter.operands tool args
      j.doing [.inputs call (if files.isEmpty then ["-"] else files) []]
    else j.doing [.serve call]

def maxArgument : Nat := 131071

/-- Starts a process of the network. Its input is empty, and its output is captured. -/
def spawn (m : Machine) (process : String) (component : Bytes) (argv : List Bytes) :
    Except IoError Machine := do
  if (component :: argv).any Path.hasZero then throw (.custom "nul byte found in provided data")
  let image ← Image.find m.files component (argv.map view)
  if argv.any (·.length > maxArgument) then throw .argumentsTooLong
  let (m, input) := m.addHandle .null
  let (m, out) := m.addHandle (.captured process .stdout)
  let (m, err) := m.addHandle (.captured process .stderr)
  let j : Job := { number := m.fresh, parent := programNumber, process := some process
                   scope := { process := m.fresh, parent := programNumber }
                   directory := m.files.current
                   descriptors := [(0, input), (1, out), (2, err)] }
  return { m with fresh := m.fresh + 1, jobs := m.jobs ++ [m.become j image] }

end Machine

end Pipework
