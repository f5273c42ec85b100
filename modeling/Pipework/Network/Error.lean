import Pipework.IoError
import Pipework.Json.Read
import Pipework.Path
import Pipework.Text.Quoted

namespace Pipework

inductive Direction where
  | inward
  | outward
deriving DecidableEq, Repr

def Direction.portWord : Direction → String
  | inward => "inport"
  | outward => "outport"

inductive NetworkError where
  | unreadable (path : Path) (cause : IoError)
  | notADocument (fault : Json.Fault)
  | unknownProcess (process context : String)
  | invalidName (kind name : String)
  | missingComponent (process : String)
  | malformedConnection (index : Nat) (reason : String)
  | duplicateConnection (process port : String)
  | boundaryConflict (name process port : String)
  | missingBoundaryPath (direction name : String)
  | unsupportedPacket (process port : String)
  | unsplittableArguments (process : String)
  | pathCollision (path : Path) (first second : String)
deriving DecidableEq, Repr

def NetworkError.message : NetworkError → String
  | unreadable path cause =>
    s!"failed to read network definition {path.toText}: {cause.message}"
  | notADocument _ => "invalid network definition"
  | unknownProcess process context =>
    s!"{context} refers to undeclared process {Text.quoted process}"
  | invalidName kind name => s!"invalid {kind} name {Text.quoted name}"
  | missingComponent process => s!"process {Text.quoted process} has no component"
  | malformedConnection index reason => s!"connection #{index} is malformed: {reason}"
  | duplicateConnection process port =>
    s!"inport {process}.{port} is fed by more than one connection"
  | boundaryConflict name process port =>
    s!"boundary port {Text.quoted name} conflicts with a connection on {process}.{port}"
  | missingBoundaryPath direction name =>
    s!"no path given for network {direction} {Text.quoted name} " ++
      s!"(pass -{direction} {name} with its path)"
  | unsupportedPacket process port =>
    s!"initial packet to {process}.{port} is not supported (only {process}.ARGS)"
  | unsplittableArguments process =>
    s!"cannot split ARGS for process {Text.quoted process}: missing closing quote"
  | pathCollision path first second =>
    s!"inports {first} and {second} would share the FIFO {path.toText}"

end Pipework
