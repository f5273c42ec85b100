import Pipework.Text.Utf8

/-!
Lines of octets. Every line feed ends a line, and what stands behind the last one is a line if it is
not empty. `LineBuffer` finds the lines of octets that arrive in pieces; `lines` finds those of all
octets at once.
-/

namespace Pipework

namespace Text

def lineFeed : UInt8 := 10

def carriageReturn : UInt8 := 13

def dropReturn (bs : Bytes) : Bytes :=
  if bs.getLast? = some carriageReturn then bs.dropLast else bs

structure RawLine where
  octets : Bytes
  ended : Bool
deriving DecidableEq, Repr

/-- The lines of a sequence of octets; `open_` is the part of the first line that has been seen,
last octet first. -/
def rawLinesFrom (open_ : Bytes) : Bytes → List RawLine
  | [] => if open_.isEmpty then [] else [⟨open_.reverse, false⟩]
  | b :: bs => if b = lineFeed then ⟨open_.reverse, true⟩ :: rawLinesFrom [] bs
    else rawLinesFrom (b :: open_) bs

def rawLines (bs : Bytes) : List RawLine := rawLinesFrom [] bs

/-- A line as text. A carriage return at its end does not belong to it. -/
def lineText (bs : Bytes) : String := lossy (dropReturn bs)

def lines (bs : Bytes) : List String := (rawLines bs).map fun l => lineText l.octets

end Text

structure LineBuffer where
  pending : Bytes := []
deriving DecidableEq, Repr

namespace LineBuffer

def feed (b : LineBuffer) : Bytes → List String × LineBuffer
  | [] => ([], b)
  | c :: cs =>
    if c = Text.lineFeed then
      let (later, rest) := feed {} cs
      (Text.lineText b.pending.reverse :: later, rest)
    else feed ⟨c :: b.pending⟩ cs

def finish (b : LineBuffer) : List String :=
  if b.pending.isEmpty then [] else [Text.lineText b.pending.reverse]

end LineBuffer

end Pipework
