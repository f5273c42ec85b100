import Pipework.Wiring

namespace Pipework

structure PlannedProcess where
  name : String
  component : String
  pipes : NodePipes
  args : ComponentArgs
deriving DecidableEq

namespace PlannedProcess

/-- The arguments as the component sees them. The first of them is the name of its process. -/
def argv (s : PlannedProcess) : List Bytes := Text.toBytes s.name :: s.args.toArguments

def ofNode (t : Wiring) (n : Node) : Except NetworkError PlannedProcess := do
  let pipes := (t.process? n.name).getD {}
  return ⟨n.name, n.component, pipes, pipes.componentArgs (← n.freeArguments)⟩

end PlannedProcess

def defaultPipeDir : Path := Path.ofText "/dev/shm"

/-- The permissions of named pipes: everything for the owner and the group. -/
def defaultPipeMode : Nat := 0o770

/-- What a run of a network starts, in the order of the processes. Whatever is wrong with the
network and its arguments shows here, before anything is started. -/
def planRun (n : Network) (dir : Path) (boundary : ComponentArgs) :
    Except NetworkError (List PlannedProcess) := do
  let wiring ← Wiring.plan n dir boundary
  n.processes.values.mapM (PlannedProcess.ofNode wiring)

end Pipework
