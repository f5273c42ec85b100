import Pipework.Component.Outcome
import Pipework.Frame.Receiver
import Pipework.ComponentArgs

namespace Pipework.ShowFrames

def inport : String := "IN"

def frameLine (f : Frame) : String := s!"{f.typeHeader} port={f.port} {Text.lossy f.body}\n"

/-- The text printed for frames, and how many frames that are, up to the first failure. -/
def print : List (Except FrameError Frame) → String × Nat × Bool
  | [] => ("", 0, true)
  | .error _ :: _ => ("", 0, false)
  | .ok f :: fs =>
    let (later, count, complete) := print fs
    (frameLine f ++ later, count + 1, complete)

def readerOf (files : FileTree) (p : Path) : FrameReceiver :=
  let delivery := match files.contents p with
    | .ok data => Delivery.octets data
    | .error e => .failure e
  ⟨⟨[delivery], 0⟩, [], {}⟩

def run (files : FileTree) (args : List Bytes) : ComponentOutcome :=
  match ComponentArgs.parse args with
  | .error _ => .refused files
  | .ok ports => match ports.inport? inport with
    | none => .refused files
    | some path => match files.openToRead path with
      | .error _ => .refused files
      | .ok _ =>
        let (printed, count, complete) := print (readerOf files path).frames.toList.1
        { succeeded := complete
          stdout := Text.toBytes printed
          note := if complete then some s!"received {count} frames" else none
          files := files }

end Pipework.ShowFrames
