namespace Pipework.Text

/-- The bound of unsigned machine words: every word is below it. -/
def wordBound : Nat := UInt64.size

def digitsValue (cs : List Char) : Nat := cs.foldl (fun n c => 10 * n + (c.toNat - '0'.toNat)) 0

/-- The number that a numeral of ASCII digits stands for, if it fits a machine word. Leading zeros
count for nothing. -/
def parseWord? (cs : List Char) : Option Nat :=
  if cs.isEmpty || !cs.all Char.isDigit then none
  else if digitsValue cs < wordBound then some (digitsValue cs) else none

end Pipework.Text
