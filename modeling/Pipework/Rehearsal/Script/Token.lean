import Pipework.Rehearsal.Script.Syntax

/-!
The tokens of a script: words, whose quotes are taken off part by part, operators, and ends of
lines.
-/

namespace Pipework.Script

inductive Token where
  | word (w : Word) (line : Nat)
  | operator (s : String) (line : Nat)
  /-- The number of the descriptor that a redirection is for. -/
  | descriptor (number : Nat) (line : Nat)
  | newline (line : Nat)
  /-- The end of the script, or a place from which on it cannot be read. -/
  | finish (fault : Option String) (line : Nat)

def Token.line : Token → Nat
  | word _ n | operator _ n | descriptor _ n | newline n | finish _ n => n

def Token.isNewline : Token → Bool
  | newline _ => true
  | _ => false

def isBreak (c : Char) : Bool := " \t\n;&|<>()".toList.contains c

def isNameChar (c : Char) : Bool := c.isAlphanum || c == '_'

def isSpecialParameter (c : Char) : Bool := "@*#?-$!0123456789".toList.contains c

def isName (s : String) : Bool :=
  match s.toList with
  | c :: cs => (c.isAlpha || c == '_') && cs.all isNameChar
  | [] => false

/-! ## Brackets and quotes -/

inductive Opening where
  | group
  | braces (quoted : Bool)
  | doubleQuotes
  | singleQuotes
  | backticks
deriving DecidableEq, Repr

def Opening.isClosedBy (o : Opening) (c : Char) : Bool :=
  match o with
  | group => c == ')'
  | braces _ => c == '\x7d'
  | doubleQuotes => c == '"'
  | singleQuotes => c == '\''
  | backticks => c == '\x60'

def Opening.inner? (o : Opening) (c : Char) : Option Opening :=
  match o, c with
  | singleQuotes, _ | backticks, _ => none
  | group, '(' => some group
  | group, '\'' | braces false, '\'' => some singleQuotes
  | group, '"' | braces _, '"' => some doubleQuotes
  | _, '\x60' => some backticks
  | _, _ => none

/-- The text up to the end of the first of the things that are open, and the text behind it. -/
def takeClosed (done : List Char) : List Opening → List Char → Option (List Char × List Char)
  | [], cs => some (done.reverse, cs)
  | _ :: _, [] => none
  | .singleQuotes :: os, c :: cs =>
    takeClosed (c :: done) (if c = '\'' then os else .singleQuotes :: os) cs
  | o :: os, '\\' :: c :: cs => takeClosed (c :: '\\' :: done) (o :: os) cs
  | o :: os, '$' :: '(' :: cs =>
    let inner := if o = .backticks then [] else [Opening.group]
    takeClosed ('(' :: '$' :: done) (inner ++ o :: os) cs
  | o :: os, '$' :: '\x7b' :: cs =>
    let inner := if o = .backticks then [] else [Opening.braces (o == .doubleQuotes)]
    takeClosed ('\x7b' :: '$' :: done) (inner ++ o :: os) cs
  | o :: os, c :: cs =>
    if o.isClosedBy c then takeClosed (c :: done) os cs
    else takeClosed (c :: done) (match o.inner? c with
      | some i => i :: o :: os
      | none => o :: os) cs

def takeInside (o : Opening) (cs : List Char) (complaint : String) :
    Except String (List Char × List Char) :=
  match takeClosed [] [o] cs with
  | some (inner, rest) => .ok (inner.dropLast, rest)
  | none => .error complaint

/-! ## Words -/

/-- The edit that stands behind the name of a parameter in braces, and its operand. -/
def editOf (cs : List Char) : Edit × List Char :=
  match cs with
  | [] => (.keep, [])
  | '#' :: '#' :: cs => (.dropFront true, cs)
  | '#' :: cs => (.dropFront false, cs)
  | '%' :: '%' :: cs => (.dropBack true, cs)
  | '%' :: cs => (.dropBack false, cs)
  | ':' :: '-' :: cs => (.orElse true, cs)
  | '-' :: cs => (.orElse false, cs)
  | ':' :: '=' :: cs => (.assign true, cs)
  | '=' :: cs => (.assign false, cs)
  | ':' :: '?' :: cs => (.require true, cs)
  | '?' :: cs => (.require false, cs)
  | ':' :: '+' :: cs => (.andThen true, cs)
  | '+' :: cs => (.andThen false, cs)
  | _ => (.unknown, [])

def bracedParameter (cs : List Char) : String × Edit × List Char :=
  match cs with
  | '#' :: c :: cs =>
    let name := String.ofList (c :: cs)
    if isName name || (isSpecialParameter c && cs.all Char.isDigit) then (name, .size, [])
    else ("#", editOf (c :: cs))
  | _ =>
    let name := match cs with
      | c :: _ => if c.isAlpha || c == '_' then cs.takeWhile isNameChar
        else if c.isDigit then cs.takeWhile Char.isDigit
        else if isSpecialParameter c then [c] else []
      | [] => []
    if name.isEmpty then ("", .unknown, [])
    else (String.ofList name, editOf (cs.drop name.length))

def Edit.hasPattern : Edit → Bool
  | dropFront _ | dropBack _ => true
  | _ => false

/-- The text of a script between backticks, without the backslashes that protect characters. -/
def backtickSource : List Char → List Char
  | [] => []
  | '\\' :: c :: cs =>
    if c = '\\' ∨ c = '\x60' ∨ c = '$' then c :: backtickSource cs
    else '\\' :: c :: backtickSource cs
  | c :: cs => c :: backtickSource cs

/-- Adds characters to the last part of a word, whose parts come last one first. -/
def addText (s : String) (quoted : Bool) (w : Word) : Word :=
  match w with
  | .text t q :: rest => if q = quoted then .text (t ++ s) q :: rest else .text s quoted :: w
  | _ => .text s quoted :: w

inductive Manner where
  /-- Up to a character that ends a word. -/
  | word
  /-- To the end, with quotes taken off. -/
  | operand
  /-- To the end, as in double quotes, which are themselves taken off. -/
  | quotedOperand
  /-- Up to the closing double quotes. -/
  | quoted
  /-- To the end, as in double quotes, which stand for themselves. -/
  | document
deriving DecidableEq, Repr

def Manner.isQuoted : Manner → Bool
  | word | operand => false
  | quotedOperand | quoted | document => true

def Manner.protects (m : Manner) (c : Char) : Bool :=
  match m with
  | word | operand => true
  | quoted => "$\x60\"\\".toList.contains c
  | quotedOperand => "$\x60\"\\\x7d".toList.contains c
  | document => "$\x60\\".toList.contains c

def openQuote : String := "Unterminated quoted string"

mutual

/-- The part behind a dollar sign, and the text behind the part. A dollar sign that starts nothing
stands for itself. -/
def readDollar : (fuel : Nat) → (quoted : Bool) → List Char → Except String (Part × List Char)
  | 0, quoted, cs => .ok (.text "$" quoted, cs)
  | fuel + 1, quoted, cs => do
    match cs with
    | '(' :: '(' :: cs =>
      let (inner, rest) ← takeInside .group cs "Missing '))'"
      match rest with
      | ')' :: rest => return (.arithmetic (← readParts fuel .document [] inner).1 quoted, rest)
      | _ => throw "Missing '))'"
    | '(' :: cs =>
      let (inner, rest) ← takeInside .group cs "end of file unexpected (expecting \")\")"
      return (.output (String.ofList inner) quoted, rest)
    | '\x7b' :: cs =>
      let (inner, rest) ← takeInside (.braces quoted) cs "Missing '\x7d'"
      let (name, edit, operand) := bracedParameter inner
      let manner := if quoted && !edit.hasPattern then Manner.quotedOperand else .operand
      return (.parameter name edit (← readParts fuel manner [] operand).1 quoted, rest)
    | c :: cs =>
      if c.isAlpha || c == '_' then
        let name := (c :: cs).takeWhile isNameChar
        return (.parameter (String.ofList name) .keep [] quoted, (c :: cs).drop name.length)
      else if isSpecialParameter c then
        return (.parameter (String.ofList [c]) .keep [] quoted, cs)
      else return (.text "$" quoted, c :: cs)
    | [] => return (.text "$" quoted, [])

/-- Reads parts, and the text behind them. The parts that have been read come last one first. -/
def readParts : (fuel : Nat) → Manner → Word → List Char → Except String (Word × List Char)
  | 0, _, w, cs => .ok (w.reverse, cs)
  | _ + 1, m, w, [] => if m = .quoted then .error openQuote else .ok (w.reverse, [])
  | fuel + 1, m, w, '\\' :: c :: cs =>
    if c = '\n' then readParts fuel m w cs
    else if m.protects c then readParts fuel m (addText c.toString true w) cs
    else readParts fuel m (addText (String.ofList ['\\', c]) true w) cs
  | fuel + 1, m, w, '$' :: cs => do
    let (p, rest) ← readDollar fuel m.isQuoted cs
    readParts fuel m (p :: w) rest
  | fuel + 1, m, w, '\x60' :: cs => do
    let (inner, rest) ← takeInside .backticks cs "EOF in backquote substitution"
    readParts fuel m (.output (String.ofList (backtickSource inner)) m.isQuoted :: w) rest
  | fuel + 1, m, w, '"' :: cs => do
    match m with
    | .quoted => return (w.reverse, cs)
    | .document => readParts fuel m (addText "\"" true w) cs
    | .quotedOperand => readParts fuel m w cs
    | .word | .operand =>
      let (inner, rest) ← readParts fuel .quoted [] cs
      -- quotes around nothing still make a field
      let inner := if inner.isEmpty then [Part.text "" true] else inner
      readParts fuel m (inner.reverse ++ w) rest
  | fuel + 1, m, w, '\'' :: cs =>
    if m.isQuoted then readParts fuel m (addText "'" true w) cs
    else
      let inner := cs.takeWhile (· != '\'')
      if inner.length < cs.length then
        readParts fuel m (addText (String.ofList inner) true w) (cs.drop (inner.length + 1))
      else .error openQuote
  | fuel + 1, m, w, c :: cs =>
    if m = .word ∧ isBreak c then .ok (w.reverse, c :: cs)
    else readParts fuel m (addText c.toString m.isQuoted w) cs

end

/-! ## Documents -/

def literal (w : Word) : String :=
  String.join (w.map fun p => match p with
    | .text s _ => s
    | _ => "")

def hasQuotes (w : Word) : Bool :=
  w.any fun p => match p with
    | .text _ q => q
    | _ => false

/-- The lines up to one that consists of a delimiter, and the text behind it. If it is asked for,
tabs at the start of lines do not count. -/
def takeDocument (delimiter : List Char) (dropTabs : Bool) : (fuel : Nat) → List Char →
    List Char × List Char
  | 0, cs => ([], cs)
  | _ + 1, [] => ([], [])
  | fuel + 1, c :: cs =>
    let line := (c :: cs).takeWhile (· != '\n')
    let behind := (c :: cs).drop (line.length + 1)
    let shown := if dropTabs then line.dropWhile (· == '\t') else line
    if shown = delimiter then ([], behind)
    else
      let (later, rest) := takeDocument delimiter dropTabs fuel behind
      (shown ++ '\n' :: later, rest)

def isDocumentOperator (s : String) : Bool := s == "<<" || s == "<<-"

/-- The tokens of a line with the documents that follow it in the place of their delimiters, and the
text behind the documents. -/
def fillDocuments : List Token → List Char → Except String (List Token × List Char)
  | .operator s n :: .word w line :: ts, cs => do
    if isDocumentOperator s then
      let (body, rest) :=
        takeDocument (literal w).toList (s == "<<-") (cs.length + 1) cs
      let document ← if hasQuotes w then pure [Part.text (String.ofList body) true]
        else (readParts (body.length + 2) .document [] body).map (·.1)
      let (ts, rest) ← fillDocuments ts rest
      return (.operator s n :: .word document line :: ts, rest)
    else
      let (ts, rest) ← fillDocuments (.word w line :: ts) cs
      return (.operator s n :: ts, rest)
  | t :: ts, cs => do
    let (ts, rest) ← fillDocuments ts cs
    return (t :: ts, rest)
  | [], cs => .ok ([], cs)

/-! ## Tokens -/

def operators : List String :=
  ["<<-", "&&", "||", ";;", ">>", "<<", ">&", "<&", ">|", "<>", ";", "&", "|", "(", ")", "<", ">"]

def operatorAt? (cs : List Char) : Option String :=
  operators.find? fun s => s.toList.isPrefixOf cs

def lineEnds (cs : List Char) : Nat := cs.count '\n'

/-- Reads all tokens; `line` is the number of the line at hand, and the tokens that have been read
come last one first. -/
def readTokens : (fuel line : Nat) → List Token → List Char → List Token
  | 0, line, done, _ => (.finish none line :: done).reverse
  | _ + 1, line, done, [] =>
    -- documents of which nothing follows are empty
    match fillDocuments (done.takeWhile (!·.isNewline)).reverse [] with
    | .ok (ts, _) => (done.dropWhile (!·.isNewline)).reverse ++ ts ++ [.finish none line]
    | .error message => (.finish (some message) line :: done).reverse
  | fuel + 1, line, done, '\n' :: cs =>
    let here := (done.takeWhile (!·.isNewline)).reverse
    match fillDocuments here cs with
    | .ok (ts, rest) =>
      let before := done.dropWhile (!·.isNewline)
      let passed := lineEnds (cs.take (cs.length - rest.length))
      readTokens fuel (line + 1 + passed) (.newline (line + 1) :: ts.reverse ++ before) rest
    | .error message => (.finish (some message) (line + 1 + lineEnds cs) :: done).reverse
  | fuel + 1, line, done, '\\' :: '\n' :: cs => readTokens fuel (line + 1) done cs
  | fuel + 1, line, done, c :: cs =>
    if c = ' ' ∨ c = '\t' then readTokens fuel line done cs
    else if c = '#' then readTokens fuel line done (cs.dropWhile (· != '\n'))
    else match operatorAt? (c :: cs) with
      | some s => readTokens fuel line (.operator s line :: done) ((c :: cs).drop s.length)
      | none =>
        let behind := cs.head?
        if c.isDigit && (behind == some '<' || behind == some '>') then
          readTokens fuel line (.descriptor (c.toNat - 48) line :: done) cs
        else match readParts (fuel + 1) .word [] (c :: cs) with
          | .ok (w, rest) =>
            let line := line + lineEnds ((c :: cs).take (cs.length + 1 - rest.length))
            readTokens fuel line (.word w line :: done) rest
          | .error message => (.finish (some message) (line + lineEnds cs) :: done).reverse

def tokens (line : Nat) (s : String) : List Token := readTokens (s.length + 2) line [] s.toList

end Pipework.Script
