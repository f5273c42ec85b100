import Pipework.Rehearsal.Script.Token

/-!
The commands of a script, read from its tokens. A script is read line by line, so what stands before
a fault can still be run.
-/

namespace Pipework.Script

abbrev Parsed (α : Type) : Type := α × List Token

/-- The words that are no names of programs where a command is expected. -/
def reservedWords : List String :=
  ["if", "then", "elif", "else", "fi", "while", "until", "do", "done", "for", "in", "case", "esac",
    "\x7b", "\x7d", "!"]

def listEnds : List String :=
  ["then", "elif", "else", "fi", "do", "done", "esac", "\x7d", ")", ";;"]

def specialCommands : List String :=
  [".", ":", "break", "continue", "eval", "exec", "exit", "export", "readonly", "return", "set",
    "shift", "times", "trap", "unset"]

def plainWord? : Word → Option String
  | [.text s false] => some s
  | _ => none

def reservedAt? : List Token → Option String
  | .word w _ :: _ => (plainWord? w).filter reservedWords.contains
  | _ => none

def symbolAt? : List Token → Option String
  | .operator s _ :: _ => some s
  | ts => reservedAt? ts

def startsRedirect : Token → Bool
  | .descriptor _ _ => true
  | .operator s _ => s.startsWith "<" || s.startsWith ">"
  | _ => false

def describeFirst (ts : List Token) : String :=
  match ts with
  | [] | .finish _ _ :: _ => "end of file"
  | .newline _ :: _ => "newline"
  | t :: _ =>
    if startsRedirect t then "redirection"
    else match symbolAt? ts with
      | some s => "\"" ++ s ++ "\""
      | none => "word"

/-- The complaint about the token at the front, where something else may have been expected. -/
def unexpected (ts : List Token) (expected : Option String) : SyntaxFault :=
  let line := (ts.head?.map Token.line).getD 1
  match ts with
  | .finish (some message) _ :: _ => ⟨line, "Syntax error: " ++ message⟩
  | _ =>
    let reason := (expected.map fun s => " (expecting " ++ s ++ ")").getD ""
    ⟨line, "Syntax error: " ++ describeFirst ts ++ " unexpected" ++ reason⟩

def complaint (ts : List Token) (message : String) : SyntaxFault :=
  match ts with
  | .finish (some _) _ :: _ => unexpected ts none
  | _ => ⟨(ts.head?.map Token.line).getD 1, "Syntax error: " ++ message⟩

def skipNewlines (ts : List Token) : List Token := ts.dropWhile Token.isNewline

def expect (symbol : String) (ts : List Token) : Except SyntaxFault (List Token) :=
  if symbolAt? ts = some symbol then .ok ts.tail
  else .error (unexpected ts (some ("\"" ++ symbol ++ "\"")))

def assignment? (w : Word) : Option (String × Word) :=
  match w with
  | .text s false :: rest =>
    let name := s.toList.takeWhile isNameChar
    match s.toList.drop name.length with
    | '=' :: value =>
      if isName (String.ofList name) then
        let first := if value.isEmpty then [] else [Part.text (String.ofList value) false]
        some (String.ofList name, first ++ rest)
      else none
    | _ => none
  | _ => none

/-- The kind of a redirection and the descriptor that it changes unless one is given. -/
def redirectKind? : String → Option (RedirectKind × Nat)
  | "<" => some (.read, 0)
  | ">" | ">|" | "<>" => some (.write, 1)
  | ">>" => some (.append, 1)
  | ">&" => some (.copy, 1)
  | "<&" => some (.copy, 0)
  | "<<" | "<<-" => some (.document, 0)
  | _ => none

def isDescriptorWord (w : Word) : Bool :=
  match plainWord? w with
  | some s => s == "-" || (s.length == 1 && s.toList.all Char.isDigit)
  | none => !hasQuotes w

def readTarget (descriptor : Option Nat) (ts : List Token) :
    Except SyntaxFault (Parsed (Option Redirect)) :=
  match ts with
  | .operator s _ :: rest => match redirectKind? s, rest with
    | some (kind, usual), .word w line :: rest =>
      if kind = .copy ∧ !isDescriptorWord w then
        .error (complaint [.word w line] "Bad fd number")
      else .ok (some ⟨descriptor.getD usual, kind, w⟩, rest)
    | some _, rest => .error (unexpected rest none)
    | none, _ => .ok (none, ts)
  | _ => .ok (none, ts)

def readRedirect (ts : List Token) : Except SyntaxFault (Parsed (Option Redirect)) :=
  match ts with
  | .descriptor n _ :: rest => readTarget (some n) rest
  | _ => readTarget none ts

def readRedirects : (fuel : Nat) → List Redirect → List Token →
    Except SyntaxFault (Parsed (List Redirect))
  | 0, done, ts => .ok (done.reverse, ts)
  | fuel + 1, done, ts => do
    match ← readRedirect ts with
    | (some r, rest) => readRedirects fuel (r :: done) rest
    | (none, rest) => return (done.reverse, rest)

def readSimple : (fuel : Nat) → SimpleCommand → List Token →
    Except SyntaxFault (Parsed SimpleCommand)
  | 0, c, ts => .ok (c, ts)
  | fuel + 1, c, ts => do
    match ← readRedirect ts with
    | (some r, rest) => readSimple fuel { c with redirects := c.redirects ++ [r] } rest
    | (none, .word w _ :: rest) =>
      match if c.words.isEmpty then assignment? w else none with
      | some a => readSimple fuel { c with assignments := c.assignments ++ [a] } rest
      | none => readSimple fuel { c with words := c.words ++ [w] } rest
    | (none, rest) => return (c, rest)

def lineOf (ts : List Token) : Nat := (ts.head?.map Token.line).getD 1

def readWords : List Token → Except SyntaxFault (Parsed (List Word))
  | .word w _ :: rest => do
    let (ws, rest) ← readWords rest
    return (w :: ws, rest)
  | .newline _ :: rest => .ok ([], rest)
  | .operator ";" _ :: rest => .ok ([], rest)
  | ts => .error (unexpected ts none)

def readPatterns : List Token → Except SyntaxFault (Parsed (List Word))
  | .word w _ :: .operator "|" _ :: rest => do
    let (ws, rest) ← readPatterns rest
    return (w :: ws, rest)
  | .word w _ :: rest => do return ([w], ← expect ")" rest)
  | ts => .error (unexpected ts (some "\")\""))

def withRedirects (line : Nat) (a : Command) (ts : List Token) :
    Except SyntaxFault (Parsed Command) := do
  let (rs, rest) ← readRedirects (ts.length + 1) [] ts
  return (if rs.isEmpty then a else .redirected line a rs, rest)

def Command.join (a b : Command) : Command :=
  match a with
  | nothing => b
  | a => .seq a b

mutual

/-- Reads commands up to a word or an operator that belongs to a command around them. -/
def readList : (fuel : Nat) → (mayEnd : Bool) → Command → List Token →
    Except SyntaxFault (Parsed Command)
  | 0, _, _, ts => .error (unexpected ts none)
  | fuel + 1, mayEnd, done, ts => do
    let ts := skipNewlines ts
    match ts with
    | [] | .finish none _ :: _ => return (done, ts)
    | _ =>
      if mayEnd && ((symbolAt? ts).filter listEnds.contains).isSome then return (done, ts)
      let (a, rest) ← readItem fuel ts
      match rest with
      | .operator "&" _ :: rest => readList fuel true (done.join (.background a)) rest
      | .operator ";" _ :: rest => readList fuel true (done.join a) rest
      | .newline _ :: rest => readList fuel true (done.join a) rest
      | rest => return (done.join a, rest)

def readItem : (fuel : Nat) → List Token → Except SyntaxFault (Parsed Command)
  | 0, ts => .error (unexpected ts none)
  | fuel + 1, ts => do
    let (a, rest) ← readPipeline fuel ts
    readChain fuel a rest

def readChain : (fuel : Nat) → Command → List Token → Except SyntaxFault (Parsed Command)
  | 0, _, ts => .error (unexpected ts none)
  | fuel + 1, a, ts => do
    match ts with
    | .operator "&&" _ :: rest =>
      let (b, rest) ← readPipeline fuel (skipNewlines rest)
      readChain fuel (.andThen a b) rest
    | .operator "||" _ :: rest =>
      let (b, rest) ← readPipeline fuel (skipNewlines rest)
      readChain fuel (.orElse a b) rest
    | ts => return (a, ts)

def readPipeline : (fuel : Nat) → List Token → Except SyntaxFault (Parsed Command)
  | 0, ts => .error (unexpected ts none)
  | fuel + 1, ts => do
    let isNegated := reservedAt? ts = some "!"
    let (stages, rest) ← readStages fuel (if isNegated then ts.tail else ts)
    let a := match stages with
      | [a] => a
      | stages => .pipeline stages
    return (if isNegated then .negate a else a, rest)

def readStages : (fuel : Nat) → List Token → Except SyntaxFault (Parsed (List Command))
  | 0, ts => .error (unexpected ts none)
  | fuel + 1, ts => do
    let (a, rest) ← readCommand fuel ts
    match rest with
    | .operator "|" _ :: rest =>
      let (as, rest) ← readStages fuel (skipNewlines rest)
      return (a :: as, rest)
    | rest => return ([a], rest)

def readCommand : (fuel : Nat) → List Token → Except SyntaxFault (Parsed Command)
  | 0, ts => .error (unexpected ts none)
  | fuel + 1, ts => do
    let line := lineOf ts
    let finish (symbol : String) (r : Parsed Command) : Except SyntaxFault (Parsed Command) := do
      withRedirects line r.1 (← expect symbol r.2)
    match symbolAt? ts with
    | some "(" =>
      let (a, rest) ← readList fuel false .nothing ts.tail
      finish ")" (.subshell a, rest)
    | some "\x7b" => finish "\x7d" (← readList fuel false .nothing ts.tail)
    | some "if" => finish "fi" (← readBranch fuel ts.tail)
    | some "while" => finish "done" (← readLoop fuel false ts.tail)
    | some "until" => finish "done" (← readLoop fuel true ts.tail)
    | some "for" => finish "done" (← readEach fuel line ts.tail)
    | some "case" => match ts.tail with
      | .word subject _ :: rest =>
        let (arms, rest) ← readArms fuel (← expect "in" (skipNewlines rest))
        withRedirects line (.choose line subject arms) rest
      | rest => throw (unexpected rest (some "word"))
    | some _ =>
      if ts.head?.any startsRedirect then readWhole fuel ts else throw (unexpected ts none)
    | none => readWhole fuel ts

/-- Reads a command without structure of its own, or the definition of a command. -/
def readWhole : (fuel : Nat) → List Token → Except SyntaxFault (Parsed Command)
  | 0, ts => .error (unexpected ts none)
  | fuel + 1, ts => do
    match ts with
    | .word w line :: .operator "(" _ :: rest =>
      let rest ← expect ")" rest
      let name := (plainWord? w).getD ""
      if !isName name || specialCommands.contains name then
        throw (complaint ts "Bad function name")
      let (body, rest) ← readCommand fuel (skipNewlines rest)
      return (.define line name body, rest)
    | _ =>
      let (c, rest) ← readSimple (ts.length + 1) { line := lineOf ts } ts
      if c.words.isEmpty && c.assignments.isEmpty && c.redirects.isEmpty then
        throw (unexpected ts none)
      return (.simple c, rest)

def readBranch : (fuel : Nat) → List Token → Except SyntaxFault (Parsed Command)
  | 0, ts => .error (unexpected ts none)
  | fuel + 1, ts => do
    let (condition, rest) ← readList fuel false .nothing ts
    let (yes, rest) ← readList fuel false .nothing (← expect "then" rest)
    match reservedAt? rest with
    | some "elif" =>
      let (no, rest) ← readBranch fuel rest.tail
      return (.branch condition yes no, rest)
    | some "else" =>
      let (no, rest) ← readList fuel false .nothing rest.tail
      return (.branch condition yes no, rest)
    | _ => return (.branch condition yes .nothing, rest)

def readLoop : (fuel : Nat) → Bool → List Token → Except SyntaxFault (Parsed Command)
  | 0, _, ts => .error (unexpected ts none)
  | fuel + 1, whileFails, ts => do
    let (condition, rest) ← readList fuel false .nothing ts
    let (body, rest) ← readList fuel false .nothing (← expect "do" rest)
    return (.loop whileFails condition body, rest)

def readEach : (fuel : Nat) → (line : Nat) → List Token → Except SyntaxFault (Parsed Command)
  | 0, _, ts => .error (unexpected ts none)
  | fuel + 1, line, ts => do
    match ts with
    | .word w _ :: rest =>
      let name := (plainWord? w).getD ""
      if !isName name then throw (complaint ts "Bad for loop variable")
      let (words, rest) ← match symbolAt? (skipNewlines rest), rest with
        | some "in", rest => readWords (skipNewlines rest).tail
        | _, .operator ";" _ :: rest => pure ([[Part.parameter "@" .keep [] true]], rest)
        | _, rest => pure ([[Part.parameter "@" .keep [] true]], rest)
      let (body, rest) ← readList fuel false .nothing (← expect "do" (skipNewlines rest))
      return (.each line name words body, rest)
    | ts => throw (complaint ts "Bad for loop variable")

def readArms : (fuel : Nat) → List Token → Except SyntaxFault (Parsed (List (List Word × Command)))
  | 0, ts => .error (unexpected ts none)
  | fuel + 1, ts => do
    let ts := skipNewlines ts
    if reservedAt? ts = some "esac" then return ([], ts.tail)
    let (patterns, rest) ←
      readPatterns (if symbolAt? ts = some "(" then ts.tail else ts)
    let (body, rest) ← readList fuel true .nothing rest
    let rest := skipNewlines rest
    if reservedAt? rest = some "esac" then return ([(patterns, body)], rest.tail)
    let (arms, rest) ← readArms fuel (← expect ";;" rest)
    return ((patterns, body) :: arms, rest)

end

/-- Reads one line: commands up to the end of a line that does not stand inside of one. -/
def readLine (budget : Nat) : (fuel : Nat) → Command → List Token →
    Except SyntaxFault (Parsed Command)
  | 0, done, ts => .ok (done, ts)
  | fuel + 1, done, ts => do
    match ts with
    | .newline _ :: rest => return (done, rest)
    | [] | .finish none _ :: _ => return (done, ts)
    | _ =>
      let (a, rest) ← readItem budget ts
      match rest with
      | .operator "&" _ :: rest => readLine budget fuel (done.join (.background a)) rest
      | .operator ";" _ :: rest => readLine budget fuel (done.join a) rest
      | .newline _ :: _ | [] | .finish none _ :: _ => readLine budget fuel (done.join a) rest
      | rest => throw (unexpected rest none)

def readLines (budget : Nat) : (fuel : Nat) → List Token → Source
  | 0, _ => ⟨[], none⟩
  | fuel + 1, ts => match ts with
    | [] | .finish none _ :: _ => ⟨[], none⟩
    | _ => match readLine budget (ts.length + 1) .nothing ts with
      | .ok (a, rest) =>
        let later := readLines budget fuel rest
        ⟨a :: later.lines, later.fault⟩
      | .error fault => ⟨[], some fault⟩

def Source.parse (line : Nat) (s : String) : Source :=
  let ts := tokens line s
  readLines (8 * ts.length + 16) (ts.length + 1) ts

end Pipework.Script
