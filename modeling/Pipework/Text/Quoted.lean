import Pipework.Text.Hidden
import Pipework.Text.Utf8

namespace Pipework.Text

def hexNumeral (n : Nat) : String := String.ofList (Nat.toDigits 16 n)

def hexOctet (b : UInt8) : String :=
  String.ofList [Nat.digitChar (b.toNat / 16), Nat.digitChar (b.toNat % 16)]

def escapeChar (c : Char) : String :=
  if c = '"' then "\\\""
  else if c = '\\' then "\\\\"
  else if c = '\n' then "\\n"
  else if c = '\r' then "\\r"
  else if c = '\t' then "\\t"
  else if c = '\x00' then "\\0"
  else if isHidden c then "\\u\x7b" ++ hexNumeral c.toNat ++ "\x7d"
  else c.toString

def quoted (s : String) : String :=
  "\"" ++ s.foldl (fun out c => out ++ escapeChar c) "" ++ "\""

def escapePart : Part → String
  | .char c => escapeChar c
  | .broken bs => String.join (bs.map fun b => "\\x" ++ (hexOctet b).toUpper)

def quotedBytes (bs : Bytes) : String := "\"" ++ String.join ((parts bs).map escapePart) ++ "\""

end Pipework.Text
