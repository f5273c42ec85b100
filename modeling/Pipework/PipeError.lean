import Pipework.IoError
import Pipework.Path
import Pipework.Text.Quoted

namespace Pipework

inductive PipeError where
  | create (path : Path) (cause : IoError)
  | removeStale (path : Path) (cause : IoError)
  | notAFifo (path : Path)
  | invalidPath (path : Path)
  | openFailed (path : Path) (cause : IoError)
  | missingValue (flag : String)
  | unpairedPort (flag name expected : String)
deriving DecidableEq, Repr

def PipeError.message : PipeError → String
  | create path cause => s!"failed to create fifo {path.toText}: {cause.message}"
  | removeStale path cause => s!"failed to remove stale fifo {path.toText}: {cause.message}"
  | notAFifo path => s!"refusing to replace {path.toText}: existing file is not a fifo"
  | invalidPath path => s!"invalid fifo path {Text.quotedBytes path}"
  | openFailed path cause => s!"failed to open fifo {path.toText}: {cause.message}"
  | missingValue flag => s!"missing value for {flag}"
  | unpairedPort flag name expected =>
    s!"{flag} {Text.quoted name} is not paired with a matching {expected}"

end Pipework
