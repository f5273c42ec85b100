import Pipework.Run.Error

namespace Pipework

inductive ExitReason where
  | success
  | failure
  | resource
  | invalidConfiguration
  | usage
  | internal
  /-- A second interrupt came while components were still running. -/
  | interrupted
deriving DecidableEq, Repr

def ExitReason.code : ExitReason → Nat
  | success => 0
  | failure => 1
  | resource => 3
  | invalidConfiguration => 60
  | usage => 64
  | internal => 125
  | interrupted => 130

structure ExitError where
  reason : ExitReason
  message : String
deriving DecidableEq, Repr

namespace ExitError

def ofIo (context : String) (cause : IoError) : ExitError :=
  ⟨.internal, s!"{context}: {cause.message}"⟩

/-- An error in a network, which is always found before anything is launched. -/
def ofNetwork (context : String) (cause : NetworkError) : ExitError :=
  ⟨.invalidConfiguration, s!"{context}: {cause.message}"⟩

def reasonOf : ErrorKind → ExitReason
  | .configuration => .invalidConfiguration
  | .resource => .resource
  | .parse | .marshal | .processFailure => .failure

def ofRun (context : String) (cause : RunError) : ExitError :=
  ⟨reasonOf cause.kind, s!"{context}: {cause.message}"⟩

end ExitError

end Pipework
