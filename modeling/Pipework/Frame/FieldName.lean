import Pipework.Text.Utf8

/-!
Names of header fields. A name is a token, compared without regard to the case of its letters;
`canonicalName` picks one spelling of each. Four names are reserved for the fields that every frame
has.
-/

namespace Pipework.FieldName

def typeName : String := "Type"

def portName : String := "Port"

def contentTypeName : String := "Content-Type"

def contentLengthName : String := "Content-Length"

def reservedNames : List String := [typeName, portName, contentTypeName, contentLengthName]

/-- The marks that a token may hold beside letters and digits. -/
def tokenMarks : List Char :=
  ['!', '#', '$', '%', '&', '\x27', '*', '+', '-', '.', '^', '_', '\x60', '|', '~']

def isTokenChar (c : Char) : Bool := c.isAlphanum || tokenMarks.contains c

def isToken (name : String) : Bool := !name.isEmpty && name.toList.all isTokenChar

def sameName (a b : String) : Bool := a.toList.map Char.toLower == b.toList.map Char.toLower

def isReserved (name : String) : Bool := reservedNames.any (sameName · name)

/-- Puts the letters at the start (if `start`) and after each dash into upper case and all others
into lower case. -/
def titleCase : (start : Bool) → List Char → List Char
  | _, [] => []
  | start, c :: cs => (if start then c.toUpper else c.toLower) :: titleCase (c == '-') cs

/-- The one spelling that stands for all spellings of a name. A text that is no token stays as it
is. -/
def canonicalName (name : String) : String :=
  if isToken name then String.ofList (titleCase true name.toList) else name

end Pipework.FieldName
