import Pipework.Files.Tree

namespace Pipework

structure ComponentOutcome where
  succeeded : Bool
  stdout : Bytes := []
  /-- The last word of a component that succeeded. -/
  note : Option String := none
  files : FileTree

namespace ComponentOutcome

def refused (files : FileTree) : ComponentOutcome := { succeeded := false, files := files }

def code (o : ComponentOutcome) : Nat := if o.succeeded then 0 else 1

end ComponentOutcome

end Pipework
