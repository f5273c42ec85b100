import Pipework.Component.Outcome
import Pipework.Frame.Encode
import Pipework.ComponentArgs
import Pipework.Text.Lines

/-!
A component that sends one frame for each line of a file. The file is its first own argument, and
the frames go to its outport.
-/

namespace Pipework.SendLines

def outport : String := "OUT"

/-- The octets of a line that belong to its frame. A carriage return counts as part of the line
unless a line feed follows it. -/
def lineBody (l : Text.RawLine) : Bytes := if l.ended then Text.dropReturn l.octets else l.octets

def frameOf (body : Bytes) : Frame :=
  { Frame.data "FileLine" body with port := outport, contentType := "text/plain" }

/-- The octets sent for lines, and how many lines that are, up to the first line that is no text. -/
def send : List Text.RawLine → Bytes × Nat × Bool
  | [] => ([], 0, true)
  | l :: ls =>
    if (Text.ofBytes? l.octets).isNone then ([], 0, false)
    else match (frameOf (lineBody l)).encode with
      | .error _ => ([], 0, false)
      | .ok bs =>
        let (later, count, complete) := send ls
        (bs ++ later, count + 1, complete)

def run (files : FileTree) (args : List Bytes) : ComponentOutcome :=
  match ComponentArgs.parse args with
  | .error _ => .refused files
  | .ok ports => match ports.outport? outport, ports.free.head? with
    | some out, some input =>
      match files.openToRead (Path.ofText input), files.openToWrite out with
      | .ok _, .ok _ => match files.contents (Path.ofText input) with
        | .error _ => .refused files
        | .ok data =>
          let (sent, count, complete) := send (Text.rawLines data)
          match files.overwriteFile out sent with
          | .error _ => .refused files
          | .ok files =>
            let note := s!"sent {count} lines from {input}"
            { succeeded := complete, note := if complete then some note else none, files := files }
      | _, _ => .refused files
    | _, _ => .refused files

end Pipework.SendLines
