import Pipework.Program

/-!
The program on a real system. The files that its arguments and its network name are gathered first;
the run itself is `Program.run`, and what it wrote behind the outports of the network is put back.
-/

namespace Pipework

/-- The tree with a program or a regular file at a path, and the directories above it. -/
def FileTree.withFile (t : FileTree) (p : Path) (data : Bytes) : FileTree :=
  let above := (p.reverse.dropWhile (· != Path.slash)).reverse
  ((t.makeDirectory above).writeFile p data 0o755).toOption.getD t

/-- The paths that a run of a network looks at besides its own pipes: the components of its
processes, and what is behind its ports. -/
def RunSettings.paths (s : RunSettings) (n : Network) : List Path :=
  let components := n.processes.values.map fun p => Text.toBytes p.component
  s.pipeDir :: components.filter (·.contains Path.slash) ++
    (s.boundary.inports ++ s.boundary.outports).map (·.path)

def Invocation.run? : Invocation → Option RunSettings
  | .accepted c boundary => match c.action boundary with
    | .ok (.run settings) => some settings
    | _ => none
  | _ => none

/-- Takes what lies at a path of the system into a tree. A path that cannot be read is left out. -/
def gather (t : FileTree) (p : Path) : IO FileTree := do
  match Text.ofBytes? p with
  | none => return t
  | some name =>
    try
      let data ← IO.FS.readBinFile name
      return t.withFile p data.data.toList
    catch
      | .inappropriateType .. => return t.makeDirectory p
      | _ => return t

def gatherAll (i : Invocation) : IO FileTree := do
  match i with
  | .accepted c _ =>
    let t ← gather .fresh c.network
    match i.run?, Program.loadNetwork t c.network with
    | some settings, .ok n => (settings.paths n).foldlM gather t
    | _, _ => return t
  | _ => return .fresh

def putBack (t : FileTree) (p : Path) : IO Unit := do
  match Text.ofBytes? p, t.find false p with
  | some name, .ok (_, .regular data _) => IO.FS.writeBinFile name ⟨data.toArray⟩
  | _, _ => return ()

end Pipework

open Pipework in
def main (args : List String) : IO UInt32 := do
  let args := args.map Text.toBytes
  let environment := (← IO.getEnv "FLOWD_PIPE_DIR").map Text.toBytes
  let invocation := Invocation.ofArguments args environment
  let o := Program.run (← gatherAll invocation) args environment
  IO.print o.stdout
  match o.error with
  | some message => IO.eprintln s!"error: {message}"
  | none => pure ()
  match invocation.run? with
  | some settings => (settings.boundary.outports.map (·.path)).forM (putBack o.files)
  | none => pure ()
  return o.code.toUInt32
