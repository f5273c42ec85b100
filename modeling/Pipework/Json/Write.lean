import Pipework.Json.Basic

namespace Pipework.Json

def hexDigit (n : Nat) : Char := Nat.digitChar n

def escapeChar (c : Char) : List Char :=
  if c = '"' then ['\\', '"']
  else if c = '\\' then ['\\', '\\']
  else if c = '\x08' then ['\\', 'b']
  else if c = '\t' then ['\\', 't']
  else if c = '\n' then ['\\', 'n']
  else if c = '\x0c' then ['\\', 'f']
  else if c = '\r' then ['\\', 'r']
  else if c.toNat < 0x20 then
    ['\\', 'u', '0', '0', hexDigit (c.toNat / 16), hexDigit (c.toNat % 16)]
  else [c]

def writeString (s : String) : String := "\"" ++ String.ofList (s.toList.flatMap escapeChar) ++ "\""

def writeNumber : JsonNumber → String
  | .whole n => toString n
  | .double x => x.toText

def commaSeparated (texts : List String) : String := ",".intercalate texts

def writeArray (items : List String) : String := "[" ++ commaSeparated items ++ "]"

def writeMember (name value : String) : String := writeString name ++ ":" ++ value

def writeObject (members : List (String × String)) : String :=
  "\x7b" ++ commaSeparated (members.map fun m => writeMember m.1 m.2) ++ "\x7d"

mutual

def write : Json → String
  | .null => "null"
  | .bool true => "true"
  | .bool false => "false"
  | .number n => writeNumber n
  | .string s => writeString s
  | .array items => writeArray (writeItems items)
  | .object members => writeObject (writeMembers members)

def writeItems : List Json → List String
  | [] => []
  | x :: xs => write x :: writeItems xs

def writeMembers : List (String × Json) → List (String × String)
  | [] => []
  | (name, x) :: ms => (name, write x) :: writeMembers ms

end

/-- A value as plain text: a string stands for itself, all else for its compact form. -/
def plainText : Json → String
  | .string s => s
  | x => write x

end Pipework.Json
