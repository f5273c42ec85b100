namespace Pipework

inductive OutputStream where
  | stdout
  | stderr
deriving DecidableEq, Repr

def OutputStream.toText : OutputStream → String
  | stdout => "stdout"
  | stderr => "stderr"

structure OutputLine where
  process : String
  stream : OutputStream
  text : String
deriving DecidableEq, Repr

def OutputLine.render (l : OutputLine) : String := s!"{l.process}: {l.text}"

def renderedLines (lines : List OutputLine) (process : String) : List String :=
  (lines.filter (·.process == process)).map OutputLine.render

def printedLines (lines : List OutputLine) : String :=
  String.join (lines.map fun l => l.render ++ "\n")

end Pipework
