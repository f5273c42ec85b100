/-!
Splitting a command line into words. Blanks separate words; quotes and backslashes keep them from
doing so, and a comment runs from a hash sign at the start of a word to the end of the line.
-/

namespace Pipework.Text

inductive WordPlace where
  | between
  | comment
  | bare
  | single
  | double
deriving DecidableEq, Repr

def isWordBlank (c : Char) : Bool := c == ' ' || c == '\t' || c == '\n'

/-- The characters that a backslash protects between double quotes. -/
def isProtected (c : Char) : Bool := c == '$' || c == '\x60' || c == '"' || c == '\\'

def wordOf (done : List Char) : String := String.ofList done.reverse

/-- Splits the rest of a command line. `done` holds the characters of the word at hand, last one
first. There is no answer if a quote stays open. -/
def splitFrom : WordPlace → (done : List Char) → List Char → Option (List String)
  | .between, _, [] => some []
  | .between, done, c :: cs =>
    if c = '\x27' then splitFrom .single done cs
    else if c = '"' then splitFrom .double done cs
    else if c = '\\' then
      match cs with
      | [] => some [wordOf ('\\' :: done)]
      -- a line that is continued before a word does not start one
      | d :: cs => if d = '\n' then splitFrom .between done cs else splitFrom .bare (d :: done) cs
    else if isWordBlank c then splitFrom .between done cs
    else if c = '#' then splitFrom .comment done cs
    else splitFrom .bare (c :: done) cs
  | .comment, _, [] => some []
  | .comment, done, c :: cs =>
    if c = '\n' then splitFrom .between done cs else splitFrom .comment done cs
  | .bare, done, [] => some [wordOf done]
  | .bare, done, c :: cs =>
    if c = '\x27' then splitFrom .single done cs
    else if c = '"' then splitFrom .double done cs
    else if c = '\\' then
      match cs with
      | [] => some [wordOf ('\\' :: done)]
      | d :: cs => if d = '\n' then splitFrom .bare done cs else splitFrom .bare (d :: done) cs
    else if isWordBlank c then (splitFrom .between [] cs).map (wordOf done :: ·)
    else splitFrom .bare (c :: done) cs
  | .single, _, [] => none
  | .single, done, c :: cs =>
    if c = '\x27' then splitFrom .bare done cs else splitFrom .single (c :: done) cs
  | .double, _, [] => none
  | .double, done, c :: cs =>
    if c = '"' then splitFrom .bare done cs
    else if c = '\\' then
      match cs with
      | [] => none
      | d :: cs =>
        if d = '\n' then splitFrom .double done cs
        else if isProtected d then splitFrom .double (d :: done) cs
        -- before any other character the backslash stands for itself
        else splitFrom .double (d :: '\\' :: done) cs
    else splitFrom .double (c :: done) cs

def words? (s : String) : Option (List String) := splitFrom .between [] s.toList

end Pipework.Text
