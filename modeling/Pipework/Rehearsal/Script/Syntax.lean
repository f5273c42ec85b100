import Pipework.Text.Utf8

/-!
Scripts: the small command language in which components can be written. Inside scripts a text is a
sequence of octets, and each octet is written as the character of its number.
-/

namespace Pipework.Script

def view (bs : Bytes) : String := String.ofList (bs.map fun b => Char.ofNat b.toNat)

def octets (s : String) : Bytes := s.toList.map fun c => UInt8.ofNat c.toNat

/-- What is done with the value of a parameter. Where it matters, `alsoEmpty` says that an empty
value counts as none. -/
inductive Edit where
  | keep
  | size
  /-- Takes the shortest or longest start off that a pattern stands for. -/
  | dropFront (longest : Bool)
  | dropBack (longest : Bool)
  /-- A word stands in for a value that is missing. -/
  | orElse (alsoEmpty : Bool)
  /-- A word becomes the value if there is none. -/
  | assign (alsoEmpty : Bool)
  /-- Without a value the script ends, and the word says why. -/
  | require (alsoEmpty : Bool)
  /-- A word stands in for a value that is there. -/
  | andThen (alsoEmpty : Bool)
  /-- No edit that is known. -/
  | unknown
deriving DecidableEq, Repr

/-- A part of a word. Parts in quotes are never split into fields. -/
inductive Part where
  | text (s : String) (quoted : Bool)
  /-- A text that has been put in for something else. -/
  | value (s : String) (quoted : Bool)
  | parameter (name : String) (edit : Edit) (operand : List Part) (quoted : Bool)
  | arithmetic (operand : List Part) (quoted : Bool)
  /-- The output of a script. -/
  | output (source : String) (quoted : Bool)

abbrev Word := List Part

inductive RedirectKind where
  | read
  | write
  | append
  /-- The descriptor becomes a copy of another one. -/
  | copy
  /-- The target itself is what can be read. -/
  | document
deriving DecidableEq, Repr

structure Redirect where
  descriptor : Nat
  kind : RedirectKind
  target : Word

structure SimpleCommand where
  line : Nat
  assignments : List (String × Word) := []
  words : List Word := []
  redirects : List Redirect := []

inductive Command where
  | nothing
  | simple (c : SimpleCommand)
  | seq (a b : Command)
  | andThen (a b : Command)
  | orElse (a b : Command)
  | negate (a : Command)
  | pipeline (stages : List Command)
  | background (a : Command)
  | branch (condition yes no : Command)
  /-- Runs the body as long as the condition succeeds, or as long as it fails. -/
  | loop (whileFails : Bool) (condition body : Command)
  | each (line : Nat) (name : String) (words : List Word) (body : Command)
  | choose (line : Nat) (word : Word) (arms : List (List Word × Command))
  | redirected (line : Nat) (a : Command) (redirects : List Redirect)
  | subshell (a : Command)
  /-- Gives a name to a command. -/
  | define (line : Nat) (name : String) (body : Command)
deriving Inhabited

structure SyntaxFault where
  line : Nat
  message : String
deriving DecidableEq, Repr

/-- A script as it has been read: its commands, a line at a time, as far as they could be read. -/
structure Source where
  lines : List Command
  fault : Option SyntaxFault := none

end Pipework.Script
