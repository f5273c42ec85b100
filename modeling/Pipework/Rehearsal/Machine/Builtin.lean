import Pipework.Files.Mode
import Pipework.Rehearsal.Machine.Program
import Pipework.Rehearsal.Script.Condition
import Pipework.Rehearsal.Script.Options

namespace Pipework

open Script (Scope octets)

namespace Job

def say (j : Job) (s : String) (status : Nat) : Job :=
  (j.withStatus status).first [.put 1 (octets s)]

/-- The job after it has left loops: `keep` says whether the last of them goes on. Outside of loops
nothing happens. -/
def leaveLoops (keep : Bool) : (count : Nat) → Job → Job
  | 0, j => j
  | count + 1, j =>
    let isLoop (w : Work) : Bool := match w with
      | .loopAgain _ _ _ | .each _ _ _ => true
      | _ => false
    match j.work.dropWhile (!isLoop ·) with
    | [] => j.withStatus 0
    | loop :: rest =>
      let j := j.withStatus 0
      if count = 0 && keep then j.doing (loop :: rest) else leaveLoops keep count (j.doing rest)

def leaveCall (j : Job) : Job :=
  let isEnd (w : Work) : Bool := match w with
    | .endCall _ _ => true
    | _ => false
  j.doing (j.work.dropWhile (!isEnd ·))

def isInCall (j : Job) : Bool :=
  j.work.any fun w => match w with
    | .endCall _ _ => true
    | _ => false

/-- The job with a variable that is given its value back at the end of the function. -/
def withLocal (j : Job) (name : String) : Job :=
  let rec put : List Work → List Work
    | .endCall args line :: ws =>
      .endCall args line :: .restoreVariable name (j.scope.bindings.get? name) :: ws
    | w :: ws => w :: put ws
    | [] => []
  j.doing (put j.work)

/-- What reading a line puts into variables. Characters behind a backslash never separate. -/
def splitLine (separators : List Char) : (names : List String) → List (Char × Bool) →
    List (String × String)
  | [], _ => []
  | [name], cs =>
    let isBlank (c : Char × Bool) : Bool := !c.2 && separators.contains c.1 && c.1.isWhitespace
    let cs := ((cs.dropWhile isBlank).reverse.dropWhile isBlank).reverse
    [(name, String.ofList (cs.map (·.1)))]
  | name :: names, cs =>
    let separates (c : Char × Bool) : Bool := !c.2 && separators.contains c.1
    let isBlank (c : Char × Bool) : Bool := separates c && c.1.isWhitespace
    let cs := cs.dropWhile isBlank
    let value := cs.takeWhile (!separates ·)
    let rest := (cs.drop value.length).dropWhile isBlank
    let rest := match rest with
      | c :: more => if separates c then more.dropWhile isBlank else c :: more
      | [] => []
    (name, String.ofList (value.map (·.1))) :: splitLine separators names rest

def assignLine (j : Job) (names : List String) (got : List (Char × Bool)) (status : Nat) : Job :=
  let values := splitLine j.scope.separators names got
  let scope := values.foldl (fun s v => s.set v.1 v.2) j.scope
  { j with scope := { scope with status := status } }

end Job

def assignmentOf (arg : String) : String × Option String :=
  let name := (arg.takeWhile (· != '=')).toString
  (name, if name = arg then none else some (arg.drop (name.length + 1)).toString)

def singleQuoted (s : String) : String := "'" ++ "'\"'\"'".intercalate (s.splitOn "'") ++ "'"

namespace Machine

def builtinNames : List String :=
  [":", "true", "false", "echo", "printf", "exit", "test", "[", "read", "kill", "shift", "set",
    "export", "readonly", "unset", "wait", "cd", "trap", "umask", "return", "break", "continue",
    "eval", "exec", ".", "local", "pwd", "command", "type", "hash", "alias", "unalias", "ulimit",
    "jobs", "times", "getopts"]

def fileHas (m : Machine) (j : Job) (property : Char) (name : String) : Bool :=
  let p := octets name
  match property with
  | 'L' | 'h' => ((m.filesOf j).status p).toOption.any fun e => e.kind == .link
  | _ => match (m.filesOf j).find false p with
    | .error _ => false
    | .ok (_, e) => match property with
      | 'd' => e.kind == .directory
      | 'f' => e.kind == .regular && e != .sink
      | 'c' => e == .sink
      | 'p' => e.kind == .pipe
      | 's' => match e with
        | .regular data _ => !data.isEmpty
        | .directory => true
        | _ => false
      | 'x' => e.isExecutable || e.kind == .directory
      | 'r' => e.isReadable
      | 'w' => e.isWritable
      | 'e' | 'O' | 'G' => true
      | _ => false

/-! ## Signals -/

def setTraps (j : Job) (args : List String) : Job :=
  let (action, signals) := match args with
    | [] => (none, [])
    | [s] => (none, [s])
    | a :: rest => if (Signal.number? a).isSome && (Script.integer? a).isSome then (none, a :: rest)
      else (if a = "-" then none else some a, rest)
  let one (j : Job) (s : String) : Job :=
    match Signal.number? s with
    | none => j.complain s!"trap: {s}: bad trap" 1
    | some n =>
      -- a script cannot answer what it was started without
      if j.scope.deafTo.contains n then j
      else
        let others := j.scope.traps.filter (·.1 != n)
        let traps := (action.map fun a => (n, a)).toList ++ others
        { j with scope := { j.scope with traps := traps } }
  signals.foldl one (j.withStatus 0)

def shownTraps (s : Scope) : String :=
  let sorted := s.traps.mergeSort fun a b => a.1 ≤ b.1
  let name (n : Nat) : String := if n = 0 then "EXIT"
    else ((Signal.all.find? (·.number == n)).map (·.name)).getD (toString n)
  String.join (sorted.map fun t => s!"trap -- {singleQuoted t.2} {name t.1}\n")

def signalArguments : List String → Except String (Nat × List String)
  | "-s" :: name :: rest => match Signal.number? name with
    | some n => .ok (n, rest)
    | none => .error s!"invalid signal number or name: {name}"
  | ["-s"] => .error "No arg for -s option"
  | "--" :: rest => .ok (Signal.terminate, rest)
  | arg :: rest => match arg.toList with
    | '-' :: name => match Signal.number? (String.ofList name) with
      | some n => .ok (n, rest)
      | none => .error s!"Illegal option -{String.ofList (name.take 1)}"
    | _ => .ok (Signal.terminate, arg :: rest)
  | [] => .ok (Signal.terminate, [])

def killUsage : String :=
  "Usage: kill [-s sigspec | -signum | -sigspec] [pid | job]... or\nkill -l [exitstatus]"

def sendSignals (m : Machine) (j : Job) (signal : Nat) (targets : List String) :
    Except String Machine := do
  let one (s : Machine × Bool) (t : String) : Except String (Machine × Bool) :=
    match Script.integer? t with
    | none => .error s!"Illegal number: {t}"
    | some n =>
      let exists? := n.toNat == programNumber || (s.1.job? n.toNat).isSome
      if exists? then .ok (s.1.signal n.toNat signal, s.2) else .ok (s.1, false)
  let (m, allFound) ← targets.foldlM one (m, true)
  if allFound then return m
  else match m.job? j.number with
    | some j => return m.setJob (j.complain (j.located "kill: No such process\n") 1)
    | none => return m

/-! ## Looking for commands -/

inductive CommandKind where
  | keyword
  | special
  | function
  | builtin
  | program (path : String)
  | missing
deriving DecidableEq, Repr

def commandKind (m : Machine) (j : Job) (name : String) : CommandKind :=
  if Script.reservedWords.contains name then .keyword
  else if Script.specialCommands.contains name then .special
  else if (j.scope.function? name).isSome then .function
  else if builtinNames.contains name then .builtin
  else
    let isProgram (p : Path) : Bool := (Image.atPath (m.filesOf j) [] Image.maxDepth p).isOk
    if (octets name).contains Path.slash then
      if isProgram (octets name) then .program name else .missing
    else match FileTree.toolDirs.find? fun d => isProgram (d.join (octets name)) with
      | some d => .program (Script.view (d.join (octets name)))
      | none => .missing

def CommandKind.describe (k : CommandKind) (name : String) : String :=
  match k with
  | keyword => s!"{name} is a shell keyword"
  | special => s!"{name} is a special shell builtin"
  | function => s!"{name} is a shell function"
  | builtin => s!"{name} is a shell builtin"
  | program path => s!"{name} is {path}"
  | missing => s!"{name}: not found"

def CommandKind.shown (k : CommandKind) (name : String) : String :=
  match k with
  | program path => path ++ "\n"
  | missing => ""
  | _ => name ++ "\n"

def describeCommands (m : Machine) (j : Job) (brief : Bool) (names : List String) : Job :=
  let kinds := names.map fun n => (n, m.commandKind j n)
  let line (k : String × CommandKind) : String :=
    if brief then k.2.shown k.1 else k.2.describe k.1 ++ "\n"
  j.say (String.join (kinds.map line)) (if kinds.any (·.2 == .missing) then 127 else 0)

/-! ## The commands -/

def statusArgument (j : Job) : List String → Except String Nat
  | [] => .ok j.scope.status
  | a :: _ =>
    if !a.isEmpty && a.toList.all Char.isDigit then .ok (((Script.integer? a).getD 0 % 256).toNat)
    else .error s!"Illegal number: {a}"

def countArgument (least : Nat) : List String → Except String Nat
  | [] => .ok 1
  | a :: _ => match Script.integer? a with
    | some n => if (least : Int) ≤ n then .ok n.toNat else .error s!"Illegal number: {a}"
    | none => .error s!"Illegal number: {a}"

def declare (mark : Scope → String → Scope) (s : Scope) (args : List String) :
    Except String Scope :=
  (args.filter (!·.startsWith "-")).foldlM (fun s a =>
    let (name, value) := assignmentOf a
    if !Script.isName name then .error s!"{name}: bad variable name"
    else match value with
      | some v => (s.assign name v).map fun s => mark s name
      | none => .ok (mark s name)) s

def sourceFile (m : Machine) (j : Job) (file : String) : Except String Job :=
  let path := octets file
  let found := if path.contains Path.slash then (m.filesOf j).contents path
    else match FileTree.toolDirs.findSome? fun d =>
        ((m.filesOf j).contents (d.join path)).toOption with
      | some data => .ok data
      | none => .error .noEntry
  match found with
  | .ok data =>
    let script := Script.Source.parse 1 (Script.view data)
    let work := script.work fun line => s!"{j.scope.name}: {line}: {file}: "
    .ok ((j.withStatus 0).first (work ++ [.endCall none j.scope.functionLine]))
  | .error e =>
    if path.contains Path.slash then .error s!"cannot open {file}: {e.shellCause true}"
    else .error s!"{file}: not found"

def carryOut? (m : Machine) (j : Job) (name : String) (args : List String) :
    Except String Machine := do
  let done (j : Job) : Except String Machine := .ok (m.setJob j)
  match name with
  | "false" => done (j.withStatus 1)
  | "echo" => done (j.say (Script.echoText args) 0)
  | "printf" =>
    let illegal := args.head?.filter fun a => a.startsWith "-" && a != "-" && a != "--"
    match illegal, if args.head? = some "--" then args.tail else args with
    | some a, _ => throw ("Illegal option " ++ (a.take 2).toString)
    | none, format :: args =>
      let p := Script.printed format args
      let status := if p.isFaulty then 2 else if p.complaints.isEmpty then 0 else 1
      let complaints := p.complaints.map fun c =>
        Work.put 2 (octets (j.located s!"printf: {c}" ++ "\n"))
      done ((j.withStatus status).first (complaints ++ [.put 1 (octets p.text)]))
    | none, [] => throw "usage: printf format [arg ...]"
  | "exit" => done ((j.doing []).withStatus (← statusArgument j args))
  | "return" => done (j.leaveCall.withStatus (← statusArgument j args))
  | "test" | "[" =>
    if name = "[" ∧ args.getLast? ≠ some "]" then throw "missing ]"
    let args := if name = "[" then args.dropLast else args
    let holds ← Script.Condition.evaluate (m.fileHas j) args
    done (j.withStatus (if holds then 0 else 1))
  | "read" =>
    let names := args.filter fun a => !a.startsWith "-"
    if names.isEmpty then throw "arg count"
    done (j.first [.readLine names (args.any fun a => a.startsWith "-" && a.contains 'r') [] false])
  | "kill" =>
    if args.head? = some "-l" then
      match args.tail with
      | [] => done (j.say (String.join ("0\n" :: Signal.all.map (·.name ++ "\n"))) 0)
      | a :: _ => match (Script.integer? a).map fun n => if 128 < n then n - 128 else n with
        | none => throw s!"Illegal number: {a}"
        | some n => match Signal.all.find? fun s => (s.number : Int) == n with
          | some s => done (j.say (s.name ++ "\n") 0)
          | none => throw s!"invalid signal number or exit status: {a}"
    else
      let (signal, targets) ← signalArguments args
      if targets.isEmpty then throw killUsage
      (m.setJob (j.withStatus 0)).sendSignals j signal targets
  | "shift" =>
    let count ← countArgument 0 args
    if j.scope.arguments.length < count then throw "can't shift that many"
    let arguments := j.scope.arguments.drop count
    done ({ j with scope := { j.scope with arguments := arguments } }.withStatus 0)
  | "set" =>
    let s ← ShellArguments.read false args { options := j.scope.options }
    let isCleared := s.rest.isEmpty && args.getLast? = some "--"
    let arguments := if s.rest.isEmpty && !isCleared then j.scope.arguments else s.rest
    done { j with scope := { j.scope with arguments := arguments, options := s.options
                                          status := 0 } }
  | "export" =>
    done { j with scope := { ← declare Scope.share j.scope args with status := 0 } }
  | "readonly" =>
    let fix (s : Scope) (name : String) : Scope := { s with fixed := name :: s.fixed }
    done { j with scope := { ← declare fix j.scope args with status := 0 } }
  | "local" =>
    if !j.isInCall then throw "not in a function"
    let j := args.foldl (fun j a => j.withLocal (assignmentOf a).1) j
    done { j with scope := { ← declare (fun s _ => s) j.scope args with status := 0 } }
  | "unset" =>
    let names := args.filter (!·.startsWith "-")
    if args.contains "-f" then
      let functions := j.scope.functions.filter fun f => !names.contains f.name
      done ({ j with scope := { j.scope with functions := functions } }.withStatus 0)
    else
      let scope ← names.foldlM (fun s n =>
        if Script.isName n then Scope.unset s n else .error s!"{n}: bad variable name") j.scope
      done ({ j with scope := scope }.withStatus 0)
  | "wait" => match args with
    | [] => done (j.first [.awaitAll])
    | args =>
      let numbers ← args.mapM fun a => match Script.integer? a with
        | some n => .ok n.toNat
        | none => .error s!"Illegal number: {a}"
      done (j.first [.await numbers true])
  | "break" => done (j.leaveLoops false (← countArgument 1 args))
  | "continue" => done (j.leaveLoops true (← countArgument 1 args))
  | "eval" =>
    let script := Script.Source.parse 1 (" ".intercalate args)
    done ((j.withStatus 0).first
      (script.work fun line => s!"{j.scope.name}: {line}: eval: "))
  | "." => match args with
    | file :: _ => done (← m.sourceFile j file)
    | [] => done (j.withStatus 0)
  | "cd" =>
    let back := (j.scope.bindings.get? "OLDPWD").getD (shownDirectory j.directory)
    let target := args.headD ""
    let path := if target = "-" then back else target
    match (m.filesOf j).find false (octets path) with
    | .ok (l, .directory) =>
      let scope := (((j.scope.set "OLDPWD" (shownDirectory j.directory)).share "OLDPWD").set "PWD"
        (shownDirectory l)).share "PWD"
      let j := { j with directory := l, scope := scope }
      done (j.say (if target = "-" then shownDirectory l ++ "\n" else "") 0)
    | _ => if target.isEmpty then done (j.withStatus 0) else throw s!"can't cd to {path}"
  | "pwd" => done (j.say (shownDirectory j.directory ++ "\n") 0)
  | "trap" =>
    if args.isEmpty then done (j.say (shownTraps j.scope) 0) else done (setTraps j args)
  | "umask" => match args with
    | "-S" :: _ => done (j.say (Mode.shown (j.newMode 0o777) ++ "\n") 0)
    | [] =>
      let digits := Nat.toDigits 8 j.mask
      let zeros := List.replicate (4 - digits.length) '0'
      done (j.say (String.ofList (zeros ++ digits) ++ "\n") 0)
    | a :: _ =>
      if (a.toList.head?).any Char.isDigit then
        if !Mode.isOctal a then throw s!"Illegal number: {a}"
        done { j.withStatus 0 with mask := (Mode.read? a 0).getD 0 % 512 }
      else match Mode.read? a (j.newMode 0o777) with
        | some mode => done { j.withStatus 0 with mask := 0o777 - mode % 512 }
        | none => throw s!"Illegal mode: {a}"
  | "command" => match args with
    | "-v" :: name :: _ | "-V" :: name :: _ =>
      if name.startsWith "-" then throw ("Illegal option " ++ (name.take 2).toString)
      done (m.describeCommands j (args.head? = some "-v") [name])
    | _ => done (j.withStatus 0)
  | "type" => done (m.describeCommands j false args)
  | "getopts" => match args with
    | letters :: name :: words =>
      let words := if words.isEmpty then j.scope.arguments else words
      let o := Script.OptionScan.next letters.toList words j.scope
      let complaint := o.complaint.toList.map fun c => Work.put 2 (octets (c ++ "\n"))
      let scope := { (o.scope j.scope).set name o.name with status := if o.isOver then 1 else 0 }
      done ({ j with scope := scope }.first complaint)
    | _ => throw "Usage: getopts optstring var [arg...]"
  | "hash" => match args.find? fun a => m.commandKind j a == .missing with
    | some a => done (j.complain (j.located s!"hash: {a}: not found") 1)
    | none => done (j.withStatus 0)
  | _ => done (j.withStatus 0)

/-- Carries out a command. A mistake ends the script if the command is a special one. -/
def carryOut (m : Machine) (j : Job) (argv : List String) : Machine :=
  let name := argv.headD ""
  match m.carryOut? j name argv.tail with
  | .ok m => m
  | .error message =>
    let message := j.located s!"{name}: {message}"
    m.setJob (if Script.specialCommands.contains name || name == "local" then j.abort message
      else j.complain message 2)

end Machine

end Pipework
