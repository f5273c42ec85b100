import Pipework.Rehearsal.Machine.Builtin

namespace Pipework

open Script (octets view)

structure Served where
  text : String := ""
  complaints : List String := []
  status : Nat := 0
deriving DecidableEq, Repr

namespace Served

def print (s : String) : Served := { text := s }

def refuse (name message : String) : Served :=
  { complaints := [s!"{name}: {message}\nTry '{name} --help' for more information."], status := 1 }

end Served

def Job.afterServing (j : Job) (s : Served) : Job :=
  let complaints := s.complaints.map fun c => Work.put 2 (octets (c ++ "\n"))
  (j.withStatus s.status).first (complaints ++ [.put 1 (octets s.text)])

/-! ## Texts -/

/-- What the program `echo` prints. Escapes count only where they are asked for. -/
def echoed : (newline escapes : Bool) → List String → String
  | newline, escapes, arg :: args =>
    match arg.toList with
    | '-' :: c :: cs =>
      if (c :: cs).all fun d => d == 'n' || d == 'e' || d == 'E' then
        let letters := c :: cs
        let lastOf := letters.reverse.find? fun d => d == 'e' || d == 'E'
        echoed (newline && !letters.contains 'n') (lastOf.elim escapes (· == 'e')) args
      else finish newline escapes (arg :: args)
    | _ => finish newline escapes (arg :: args)
  | newline, escapes, [] => finish newline escapes []
where
  /-- The arguments with blanks between them. -/
  finish (newline escapes : Bool) (args : List String) : String :=
    let s := " ".intercalate args
    let (cs, ends) := if escapes then Script.unescape (s.length + 1) s.toList else (s.toList, false)
    String.ofList cs ++ if newline && !ends then "\n" else ""

def baseName (path ending : String) : String :=
  let names := (path.splitOn "/").filter (· != "")
  match names.getLast? with
  | none => if path.isEmpty then "" else "/"
  | some n =>
    if n != ending && n.endsWith ending then (n.dropEnd ending.length).toString else n

def directoryName (path : String) : String :=
  let dropSlashes (cs : List Char) : List Char := cs.dropWhile (· == '/')
  let back := dropSlashes (path.toList.reverse.dropWhile (· == '/') |>.dropWhile (· != '/'))
  if !back.isEmpty then String.ofList back.reverse
  else if path.startsWith "/" then "/" else "."

/-! ## Expressions in arguments -/

namespace Expression

def isTrue (s : String) : Bool := !s.isEmpty && Script.integer? s != some 0

def tightness? : String → Option Nat
  | "|" => some 1
  | "&" => some 2
  | "=" | "==" | "!=" | "<" | "<=" | ">" | ">=" => some 3
  | "+" | "-" => some 4
  | "*" | "/" | "%" => some 5
  | ":" => some 6
  | _ => none

def combine (op a b : String) : Except String String :=
  let truth (t : Bool) : Except String String := .ok (if t then "1" else "0")
  let compared (number : Int → Int → Bool) (text : String → String → Bool) :
      Except String String :=
    match Script.integer? a, Script.integer? b with
    | some x, some y => truth (number x y)
    | _, _ => truth (text a b)
  match op with
  | "|" => .ok (if isTrue a then a else if isTrue b then b else "0")
  | "&" => .ok (if isTrue a && isTrue b then a else "0")
  | "=" | "==" => compared (· == ·) (· == ·)
  | "!=" => compared (· != ·) (· != ·)
  | "<" => compared (· < ·) (· < ·)
  | "<=" => compared (· ≤ ·) (· ≤ ·)
  | ">" => compared (fun x y => y < x) (fun x y => y < x)
  | ">=" => compared (fun x y => y ≤ x) (fun x y => y ≤ x)
  | ":" =>
    let line := a.toList
    let length := ((Script.Regex.read false b).longest? line 0).getD 0
    .ok (toString length)
  | op => match Script.integer? a, Script.integer? b with
    | some x, some y => match op with
      | "+" => .ok (toString (x + y))
      | "-" => .ok (toString (x - y))
      | "*" => .ok (toString (x * y))
      | "/" => if y = 0 then .error "division by zero" else .ok (toString (x.tdiv y))
      | _ => if y = 0 then .error "division by zero" else .ok (toString (x.tmod y))
    | _, _ => .error "non-integer argument"

mutual

/-- The value of arguments whose operators bind at least as tightly as `level`, and the arguments
behind them. -/
def value : (fuel level : Nat) → List String → Except String (String × List String)
  | 0, _, _ => .error "syntax error"
  | fuel + 1, level, args => do
    let (a, rest) ← operand fuel args
    continued fuel level a rest

def continued : (fuel level : Nat) → String → List String →
    Except String (String × List String)
  | 0, _, _, _ => .error "syntax error"
  | fuel + 1, level, a, args => do
    match args with
    | op :: rest => match (tightness? op).filter (level ≤ ·) with
      | none => return (a, args)
      | some tightness =>
        if rest.isEmpty then throw s!"syntax error: missing argument after '{op}'"
        let (b, rest) ← value fuel (tightness + 1) rest
        continued fuel level (← combine op a b) rest
    | [] => return (a, [])

def operand : (fuel : Nat) → List String → Except String (String × List String)
  | 0, _ => .error "syntax error"
  | _ + 1, [] => .error "missing operand"
  | fuel + 1, "(" :: args => do
    let (a, rest) ← value fuel 0 args
    match rest with
    | ")" :: rest => return (a, rest)
    | _ => throw "syntax error: expecting ')'"
  | _ + 1, "length" :: s :: args => .ok (toString s.length, args)
  | _ + 1, s :: args => .ok (s, args)

end

def served (call : ToolCall) : Served :=
  match value (4 * call.args.length + 4) 0 call.args with
  | .ok (a, []) => { text := a ++ "\n", status := if isTrue a then 0 else 1 }
  | .ok (_, arg :: _) =>
    { complaints := [s!"{call.name}: syntax error: unexpected argument '{arg}'"], status := 2 }
  | .error "missing operand" => { Served.refuse call.name "missing operand" with status := 2 }
  | .error message => { complaints := [s!"{call.name}: {message}"], status := 2 }

end Expression

/-! ## Files -/

namespace FileTree

def touch (mode : Nat) (t : FileTree) (p : Path) : Except IoError FileTree :=
  match t.find false p with
  | .ok _ => .ok t
  | .error _ => t.writeFile p [] mode

def isEmptyAt (t : FileTree) (l : Location) : Bool :=
  t.entries.all fun e => e.1.dropLast != l || e.1.isEmpty

def removeDirectory (t : FileTree) (p : Path) : Except IoError FileTree := do
  match ← t.find true p with
  | (l, .directory) => if t.isEmptyAt l then return t.drop l else throw .notEmpty
  | _ => throw .notDirectory

def removeAll (t : FileTree) (p : Path) : Except IoError FileTree := do
  let (l, _) ← t.find true p
  return { t with entries := t.entries.filter fun e => !l.isPrefixOf e.1 }

def makeOneDirectory (t : FileTree) (p : Path) : Except IoError FileTree := do
  let trimmed := (p.reverse.dropWhile (· == Path.slash)).reverse
  return t.put (← t.freePlace (if trimmed.isEmpty then p else trimmed)) .directory

/-- Where a file goes that is put under a path, which may be that of a directory. -/
def destination (t : FileTree) (source target : Path) : Path :=
  match t.find false target with
  | .ok (_, .directory) => target.join (octets (baseName (view source) ""))
  | _ => target

def copyFile (keepMode : Nat → Nat) (t : FileTree) (source target : Path) :
    Except IoError FileTree := do
  let data ← t.contents source
  let mode := ((t.find false source).toOption.map (·.2.mode)).getD 0
  let target := t.destination source target
  match t.find false target with
  | .ok (l, .regular _ old) => return t.put l (.regular data old)
  | _ => t.writeFile target data (keepMode mode)

def move (t : FileTree) (source target : Path) : Except IoError FileTree := do
  let (l, _) ← t.find true source
  let place ← t.resolve true (t.destination source target)
  let others := t.entries.filter fun e => !l.isPrefixOf e.1 && e.1 != place
  let moved := (t.entries.filter fun e => l.isPrefixOf e.1).map fun e =>
    (place ++ e.1.drop l.length, e.2)
  return { t with entries := moved ++ others }

end FileTree

def nameLines (names : List String) : String := String.join (names.map (· ++ "\n"))

def listed (t : FileTree) (call : ToolCall) : Served :=
  let o := Script.Filter.Options.read [] call.args {}
  let paths := if o.operands.isEmpty then ["."] else o.operands
  let isThere (p : String) : Bool := (t.status (octets p)).isOk
  let isDirectory (p : String) : Bool := !o.has 'd' &&
    (t.find false (octets p)).toOption.any fun e => e.2 == .directory
  let missing := paths.filter (!isThere ·)
  let (directories, files) := (paths.filter isThere).partition isDirectory
  let sorted (names : List String) : List String :=
    let names := names.mergeSort (· ≤ ·)
    if o.has 'r' then names.reverse else names
  let inside (p : String) : List String :=
    let names := (t.listing (octets p)).map fun e => view e.1
    if o.has 'a' then [".", ".."] ++ names
    else if o.has 'A' then names else names.filter (!·.startsWith ".")
  let several := 1 < paths.length
  let blocks := (if files.isEmpty then [] else [nameLines (sorted files)]) ++
    (sorted directories).map fun d =>
      (if several then d ++ ":\n" else "") ++ nameLines (sorted (inside d))
  { text := "\n".intercalate blocks
    complaints := missing.map fun p =>
      let e := (t.status (octets p)).toOption.elim IoError.noEntry fun _ => .noEntry
      s!"{call.name}: cannot access {Script.shellName true p}: {e.cause}"
    status := if missing.isEmpty then 0 else 2 }

namespace Machine

def changeEach (m : Machine) (j : Job) (failure : String) (names : List String)
    (change : FileTree → Path → Except IoError FileTree) : Machine :=
  let one (s : FileTree × List String) (name : String) : FileTree × List String :=
    match change s.1 (octets name) with
    | .ok files => (files, s.2)
    | .error e => (s.1, s.2 ++ [s!"{failure} {Script.shellName true name}: {e.cause}"])
  let (files, failures) := names.foldl one (m.filesOf j, [])
  (m.withFiles files).setJob
    (j.afterServing { complaints := failures, status := if failures.isEmpty then 0 else 1 })

def putEach (m : Machine) (j : Job) (call : ToolCall) (failure : String → String → String)
    (put : FileTree → Path → Path → Except IoError FileTree) : Machine :=
  let names := call.args.filter fun a => !a.startsWith "-"
  match names.getLast? with
  | none => m.setJob (j.afterServing (Served.refuse call.name "missing file operand"))
  | some target =>
    if names.length = 1 then m.setJob (j.afterServing
      (Served.refuse call.name s!"missing destination file operand after '{target}'"))
    else
      let one (s : FileTree × List String) (name : String) : FileTree × List String :=
        match put s.1 (octets name) (octets target) with
        | .ok files => (files, s.2)
        | .error e => (s.1, s.2 ++ [s!"{call.name}: {failure name target}: {e.cause}"])
      let (files, failures) := names.dropLast.foldl one (m.filesOf j, [])
      (m.withFiles files).setJob
        (j.afterServing { complaints := failures, status := if failures.isEmpty then 0 else 1 })

/-- Makes, touches, changes or removes the files that the arguments of a program name. -/
def changeFiles? (m : Machine) (j : Job) (call : ToolCall) : Option Machine :=
  let names := call.args.filter fun a => !a.startsWith "-"
  let has (letter : Char) : Bool :=
    call.args.any fun a => a.startsWith "-" && a.contains letter
  let refuse (message : String) : Option Machine :=
    some (m.setJob (j.afterServing (.refuse call.name message)))
  let wantsNames := ["touch", "mkfifo", "mkdir", "rmdir", "rm", "chmod"].contains call.tool
  if names.isEmpty && wantsNames && !(call.tool == "rm" && has 'f') then
    refuse (if call.tool = "touch" then "missing file operand" else "missing operand")
  else match call.tool with
  | "touch" =>
    some (m.changeEach j s!"{call.name}: cannot touch" names (FileTree.touch (j.newMode 0o666)))
  | "mkfifo" =>
    some (m.changeEach j s!"{call.name}: cannot create fifo" names fun t p =>
      t.makePipe p (j.newMode 0o666))
  | "mkdir" =>
    some (m.changeEach j s!"{call.name}: cannot create directory" names fun t p =>
      if has 'p' then .ok (t.makeDirectory p) else t.makeOneDirectory p)
  | "rmdir" =>
    some (m.changeEach j s!"{call.name}: failed to remove" names FileTree.removeDirectory)
  | "rm" =>
    let isThere (name : String) : Bool := ((m.filesOf j).status (octets name)).isOk
    let wanted := if has 'f' then names.filter isThere else names
    some (m.changeEach j s!"{call.name}: cannot remove" wanted
      (if has 'r' || has 'R' then FileTree.removeAll else FileTree.remove))
  | "chmod" =>
    let wanted := names.headD ""
    if (Mode.read? wanted 0).isNone then refuse s!"invalid mode: '{wanted}'"
    else if names.tail.isEmpty then refuse s!"missing operand after '{wanted}'"
    else some (m.changeEach j s!"{call.name}: cannot access" names.tail fun t p => do
      let (_, e) ← t.find false p
      t.setMode p ((Mode.read? wanted e.mode).getD 0))
  | "cp" =>
    some (m.putEach j call (fun s _ => s!"cannot stat '{s}'") (FileTree.copyFile j.newMode))
  | "mv" => some (m.putEach j call (fun s _ => s!"cannot stat '{s}'") FileTree.move)
  | "ln" =>
    some (m.putEach j call (fun _ t => s!"failed to create symbolic link '{t}'")
      fun t source target => t.makeLink (t.destination source target) source)
  | _ => none

def serve (m : Machine) (j : Job) (call : ToolCall) : Machine :=
  let done (s : Served) : Machine := m.setJob (j.afterServing s)
  match call.tool with
  | "true" => done {}
  | "false" => done { status := 1 }
  | "echo" => done (.print (echoed true false call.args))
  | "pwd" => done (.print (shownDirectory j.directory ++ "\n"))
  | "seq" =>
    let o := Script.Filter.sequence call.args
    done ⟨o.text, o.complaints.map fun c => s!"{call.name}: {c}", o.status⟩
  | "basename" => match call.args with
    | [] => done (.refuse call.name "missing operand")
    | path :: rest => done (.print (baseName path (rest.headD "") ++ "\n"))
  | "dirname" => match call.args with
    | [] => done (.refuse call.name "missing operand")
    | paths => done (.print (nameLines (paths.map directoryName)))
  | "expr" => done (Expression.served call)
  | "ls" => done (listed (m.filesOf j) call)
  | "printf" | "test" | "[" | "kill" =>
    match m.carryOut? j call.tool call.args with
    | .ok m => m
    | .error message =>
      let status := if call.tool = "test" ∨ call.tool = "[" then 2 else 1
      done { complaints := [s!"{call.name}: {message}"], status := status }
  | _ => (m.changeFiles? j call).getD (m.setJob j)

end Machine

end Pipework
