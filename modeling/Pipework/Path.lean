import Pipework.Text.Utf8

/-!
Paths of files: octets in which a slash separates names. Joining adds a slash and nothing else;
`components` is the view in which repeated slashes and dots in the middle do not count.
-/

namespace Pipework

abbrev Path := Bytes

namespace Path

def slash : UInt8 := 47

def dot : Bytes := [46]

def dotDot : Bytes := [46, 46]

def ofText (s : String) : Path := Text.toBytes s

def toText (p : Path) : String := Text.lossy p

def isAbsolute (p : Path) : Bool := p.head? == some slash

/-- The path `q` as seen from the directory `p`. A path that starts at the root stays alone. -/
def join (p q : Path) : Path :=
  if isAbsolute q then q
  else if p.isEmpty || p.getLast? == some slash then p ++ q
  else p ++ slash :: q

inductive Component where
  | root
  | here
  | above
  | name (name : Bytes)
deriving DecidableEq, Repr

def pieces (p : Path) : List Bytes := p.splitOnP (· == slash)

/-- The steps of a path. A dot counts only as the first of them. -/
def components (p : Path) : List Component :=
  let step (piece : Bytes) : Option Component :=
    if piece = [] ∨ piece = dot then none
    else if piece = dotDot then some .above
    else some (.name piece)
  let steps := (pieces p).filterMap step
  if isAbsolute p then .root :: steps
  else if (pieces p).head? = some dot then .here :: steps
  else steps

def fileName? (p : Path) : Option Bytes :=
  match (components p).getLast? with
  | some (.name name) => some name
  | _ => none

/-- Can the system take the path at all? It ends a path at the first zero octet. -/
def hasZero (p : Path) : Bool := p.contains 0

end Path

end Pipework
