import Pipework.Frame.Error
import Pipework.Network.Error
import Pipework.PipeError

namespace Pipework

inductive ErrorKind where
  /-- The network or its arguments are bad, and nothing was launched. -/
  | configuration
  /-- A pipe or a process could not be set up. -/
  | resource
  /-- A frame could not be read. -/
  | parse
  /-- A frame could not be written. -/
  | marshal
  /-- A process did not finish successfully. -/
  | processFailure
deriving DecidableEq, Repr

def ErrorKind.toText : ErrorKind → String
  | configuration => "configuration"
  | resource => "resource"
  | parse => "parse"
  | marshal => "marshal"
  | processFailure => "process failure"

inductive FailureReason where
  | exited (code signal : Option Int)
  | timedOut
  | error (kind : ErrorKind) (message : String)
  /-- The end of the process was never reported. -/
  | lost
deriving DecidableEq, Repr

def FailureReason.toText : FailureReason → String
  | exited (some code) _ => s!"exit code {code}"
  | exited none (some signal) => s!"killed by signal {signal}"
  | exited none none => "exited unsuccessfully"
  | timedOut => "timed out"
  | error kind message => s!"{kind.toText} error: {message}"
  | lost => "exit was never reported"

inductive RunError where
  | network (cause : NetworkError)
  | pipe (process : String) (cause : PipeError)
  | spawn (process component : String) (cause : IoError)
  | noCapture (process stream : String)
  | wait (process : String) (cause : IoError)
  | failure (process : String) (reason : FailureReason)
  | frame (cause : FrameError)
deriving DecidableEq, Repr

namespace RunError

def message : RunError → String
  | network cause => cause.message
  | pipe process cause => s!"process {process}: {cause.message}"
  | spawn process component cause => s!"could not start {process} ({component}): {cause.message}"
  | noCapture process stream => s!"could not capture {stream} of {process}"
  | wait process cause => s!"waiting for exit of {process} failed: {cause.message}"
  | failure process reason => s!"process {process} failed: {reason.toText}"
  | frame cause => cause.message

def kind : RunError → ErrorKind
  | network _ => .configuration
  | pipe _ _ | spawn _ _ _ | noCapture _ _ | wait _ _ => .resource
  | failure _ _ => .processFailure
  | frame cause => if cause.arisesInReading || cause.isStreamEnd then .parse else .marshal

def process? : RunError → Option String
  | pipe process _ | spawn process _ _ | noCapture process _ | wait process _
  | failure process _ => some process
  | network _ | frame _ => none

end RunError

end Pipework
