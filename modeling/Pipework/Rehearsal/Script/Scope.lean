import Pipework.NameMap
import Pipework.Rehearsal.Script.Syntax

namespace Pipework.Script

def integer? (s : String) : Option Int :=
  match s.toList with
  | '-' :: cs => (numeral? cs).map fun n => -(n : Int)
  | '+' :: cs => (numeral? cs).map fun n => (n : Int)
  | cs => (numeral? cs).map fun n => (n : Int)
where
  /-- The number that digits spell. -/
  numeral? (cs : List Char) : Option Nat :=
    if cs.isEmpty || !cs.all Char.isDigit then none
    else some (cs.foldl (fun n c => n * 10 + (c.toNat - 48)) 0)

structure RunOptions where
  /-- A command that fails ends the script. -/
  exitOnFailure : Bool := false
  /-- A parameter without a value is a mistake. -/
  requireValues : Bool := false
  /-- Patterns do not stand for the names of files. -/
  noPatterns : Bool := false
  /-- Commands are only read. -/
  readOnly : Bool := false
  /-- Commands are shown before they are run. -/
  trace : Bool := false
deriving DecidableEq, Repr

namespace RunOptions

def letters : List Char := "efImnsxvVEabu".toList

def set (o : RunOptions) (letter : Char) (on : Bool) : RunOptions :=
  match letter with
  | 'e' => { o with exitOnFailure := on }
  | 'u' => { o with requireValues := on }
  | 'f' => { o with noPatterns := on }
  | 'n' => { o with readOnly := on }
  | 'x' => { o with trace := on }
  | _ => o

def shown (o : RunOptions) : String :=
  let all := [('e', o.exitOnFailure), ('f', o.noPatterns), ('n', o.readOnly), ('x', o.trace),
    ('u', o.requireValues)]
  String.ofList ((all.filter (·.2)).map (·.1))

def names : List (String × Char) :=
  [("errexit", 'e'), ("noglob", 'f'), ("noexec", 'n'), ("xtrace", 'x'), ("nounset", 'u'),
    ("verbose", 'v'), ("allexport", 'a'), ("notify", 'b'), ("ignoreeof", 'I'), ("monitor", 'm'),
    ("noclobber", 'C'), ("interactive", 'i'), ("stdin", 's'), ("vi", 'V'), ("emacs", 'E'),
    ("nolog", 'l'), ("debug", 'd')]

end RunOptions

structure Function where
  name : String
  /-- The line on which it is defined. -/
  line : Nat
  body : Command

structure Scope where
  /-- The values of the variables. -/
  bindings : NameMap String := ∅
  /-- The variables that other programs get to know. -/
  exported : List String := []
  /-- The variables that keep their values. -/
  fixed : List String := []
  functions : List Function := []
  name : String := ""
  arguments : List String := []
  status : Nat := 0
  process : Nat := 0
  parent : Nat := 0
  /-- The last process that was started in the background. -/
  lastBackground : Option Nat := none
  /-- The line of the command at hand. -/
  line : Nat := 1
  /-- The line on which the function at hand is defined. -/
  functionLine : Option Nat := none
  options : RunOptions := {}
  /-- Does a failure not end the script, as somebody asks for the status? -/
  isTested : Bool := false
  /-- What is done when a signal comes, or at the end, which has the number zero. -/
  traps : List (Nat × String) := []
  /-- How far the arguments have been searched for options: the number of the argument behind the
  one at hand, and how much of that one has been read. -/
  optionOffset : Nat × Nat := (0, 0)
  /-- The signals that were ignored when the script started. -/
  deafTo : List Nat := []

namespace Scope

def get? (s : Scope) (name : String) : Option String :=
  match name with
  | "#" => some (toString s.arguments.length)
  | "?" => some (toString s.status)
  | "$" => some (toString s.process)
  | "!" => s.lastBackground.map toString
  | "-" => some s.options.shown
  | "0" => some s.name
  | "PPID" => some (toString s.parent)
  | "@" | "*" => some (" ".intercalate s.arguments)
  | _ => match integer? name with
    | some n => s.arguments[n.toNat - 1]?
    | none => s.bindings.get? name

def set (s : Scope) (name value : String) : Scope :=
  { s with bindings := s.bindings.insert name value }

def assign (s : Scope) (name value : String) : Except String Scope :=
  if s.fixed.contains name then .error s!"{name}: is read only" else .ok (s.set name value)

def unset (s : Scope) (name : String) : Except String Scope :=
  if s.fixed.contains name then .error s!"{name}: is read only"
  else .ok { s with bindings := s.bindings.erase name
                    exported := s.exported.filter (· != name) }

def share (s : Scope) (name : String) : Scope :=
  if s.exported.contains name then s else { s with exported := name :: s.exported }

def environment (s : Scope) : List (String × String) :=
  s.exported.filterMap fun name => (s.bindings.get? name).map fun v => (name, v)

def ofEnvironment (known : List (String × String)) : Scope :=
  known.foldl (fun s v => (s.set v.1 v.2).share v.1) {}

def separators (s : Scope) : List Char := ((s.bindings.get? "IFS").getD " \t\n").toList

def function? (s : Scope) (name : String) : Option Function :=
  s.functions.find? (·.name == name)

/-- Takes note of the line of a command. Inside a function lines are counted from its start. -/
def atLine (s : Scope) (line : Nat) : Scope :=
  { s with line := line + 1 - s.functionLine.getD 1 }

end Scope

end Pipework.Script
