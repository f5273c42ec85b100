import Pipework.Files.Tree
import Pipework.Graph.Read
import Pipework.Network.OfGraph

namespace Pipework

def FileTree.readText (t : FileTree) (p : Path) : Except IoError String := do
  match Text.ofBytes? (← t.contents p) with
  | some s => return s
  | none => throw (.custom "stream did not contain valid UTF-8")

def Graph.load (t : FileTree) (p : Path) : Except NetworkError Graph :=
  match t.readText p with
  | .error e => .error (.unreadable p e)
  | .ok text => match Graph.ofText text with
    | .error fault => .error (.notADocument fault)
    | .ok g => .ok g

end Pipework
