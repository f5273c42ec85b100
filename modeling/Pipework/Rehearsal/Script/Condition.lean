import Pipework.Rehearsal.Script.Scope

namespace Pipework.Script.Condition

def unaryOperators : List String :=
  ["-b", "-c", "-d", "-e", "-f", "-g", "-h", "-k", "-L", "-n", "-O", "-G", "-p", "-r", "-s", "-S",
    "-t", "-u", "-w", "-x", "-z"]

def binaryOperators : List String :=
  ["=", "!=", "<", ">", "-eq", "-ne", "-lt", "-le", "-gt", "-ge", "-nt", "-ot", "-ef"]

inductive Role where
  | nothing
  | operand
  | unary
  | binary
  | not
  | both
  | either
  | opening
  | closing
deriving DecidableEq, Repr

def isOperand (behind : List String) : Bool :=
  match behind with
  | [] => true
  | [_] => false
  | op :: _ => binaryOperators.contains op

def role : List String → Role
  | [] => .nothing
  | s :: behind =>
    if unaryOperators.contains s then if isOperand behind then .operand else .unary
    else if binaryOperators.contains s then .binary
    else match s with
      | "!" => .not
      | "-a" => .both
      | "-o" => .either
      | "(" => if behind.isEmpty then .operand else .opening
      | ")" => .closing
      | _ => .operand

def number (s : String) : Except String Int :=
  let cs := s.toList.dropWhile Char.isWhitespace
  let cs := (cs.reverse.dropWhile Char.isWhitespace).reverse
  match integer? (String.ofList cs) with
  | some n => .ok n
  | none => .error s!"Illegal number: {s}"

/-- The truth of an operator with one operand; `file` says whether a file has a property. -/
def ofUnary (file : Char → String → Bool) (op s : String) : Bool :=
  match op with
  | "-n" => !s.isEmpty
  | "-z" => s.isEmpty
  -- no descriptor leads to a terminal
  | "-t" => false
  | op => file ((op.toList[1]?).getD 'e') s

def ofBinary (file : Char → String → Bool) (a op b : String) : Except String Bool := do
  match op with
  | "=" => return a == b
  | "!=" => return a != b
  | "<" => return a < b
  | ">" => return b < a
  -- all files are of the same age
  | "-nt" | "-ot" => return false
  | "-ef" => return a == b && file 'e' a
  | _ =>
    let x ← number a
    let y ← number b
    match op with
    | "-eq" => return x == y
    | "-ne" => return x != y
    | "-lt" => return x < y
    | "-le" => return x ≤ y
    | "-gt" => return y < x
    | _ => return y ≤ x

mutual

/-- The truth of conditions of which one has to hold, and the arguments behind them. -/
def either (file : Char → String → Bool) : (fuel : Nat) → List String →
    Except String (Bool × List String)
  | 0, args => .ok (false, args)
  | fuel + 1, args => do
    let (a, rest) ← both file fuel args
    match rest with
    | "-o" :: rest =>
      let (b, rest) ← either file fuel rest
      return (a || b, rest)
    | rest => return (a, rest)

def both (file : Char → String → Bool) : (fuel : Nat) → List String →
    Except String (Bool × List String)
  | 0, args => .ok (false, args)
  | fuel + 1, args => do
    let (a, rest) ← negated file fuel args
    match rest with
    | "-a" :: rest =>
      let (b, rest) ← both file fuel rest
      return (a && b, rest)
    | rest => return (a, rest)

def negated (file : Char → String → Bool) : (fuel : Nat) → List String →
    Except String (Bool × List String)
  | 0, args => .ok (false, args)
  | fuel + 1, args => do
    if role args = .not then
      let (a, rest) ← negated file fuel args.tail
      return (!a, rest)
    else simple file fuel args

def simple (file : Char → String → Bool) : (fuel : Nat) → List String →
    Except String (Bool × List String)
  | 0, args => .ok (false, args)
  | fuel + 1, args => do
    match role args, args with
    | _, [] => return (false, [])
    | .opening, _ :: rest =>
      if role rest = .closing then return (false, rest.tail)
      let (a, rest) ← either file fuel rest
      if role rest = .closing then return (a, rest.tail) else throw "closing paren expected"
    | .unary, op :: s :: rest => return (ofUnary file op s, rest)
    | _, a :: op :: rest =>
      if role (op :: rest) = .binary then
        match rest with
        | b :: rest => return (← ofBinary file a op b, rest)
        | [] => throw s!"{op}: argument expected"
      else return (!a.isEmpty, op :: rest)
    | _, [a] => return (!a.isEmpty, [])

end

/-- The truth of all arguments. Up to four of them are read in the way that makes most sense. -/
def evaluateAll (file : Char → String → Bool) : (fuel : Nat) → List String → Except String Bool
  | 0, _ => .ok false
  | fuel + 1, args => do
    let whole (args : List String) : Except String Bool := do
      let (a, rest) ← either file (8 * args.length + 8) args
      match rest with
      | [] => return a
      | _ =>
        -- the last argument that made sense is the one that is named
        let last := (args[args.length - rest.length - 1]?).getD ""
        throw s!"{last}: unexpected operator"
    match args with
    | [] => return false
    | [a, op, b] =>
      if binaryOperators.contains op then ofBinary file a op b
      else if a = "(" ∧ b = ")" then whole [op]
      else if a = "!" then return !(← evaluateAll file fuel [op, b])
      else whole args
    | ["(", a, b, ")"] => whole [a, b]
    | "!" :: rest =>
      if rest.length = 3 then return !(← evaluateAll file fuel rest) else whole args
    | args => whole args

def evaluate (file : Char → String → Bool) (args : List String) : Except String Bool :=
  evaluateAll file (args.length + 1) args

end Pipework.Script.Condition
