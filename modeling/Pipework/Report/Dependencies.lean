import Pipework.Network.Basic

namespace Pipework.Network

def dependencyKey : String := "dep"

def nodeDependencies (n : Node) : List String :=
  n.component :: match n.metadata.get? dependencyKey with
    | some d => if d.isEmpty then [] else [d]
    | none => []

def dependencies (n : Network) : List String :=
  let all := n.processes.values.flatMap nodeDependencies
  (all.foldl (fun (m : NameMap Unit) d => m.insert d ()) ∅).names

end Pipework.Network
