import Pipework.Rehearsal.Machine.Basic

namespace Pipework

open Script (Field octets view)

namespace FileTree

/-- The names in a directory for which a pattern stands. Names with a dot at the start need one in
the pattern too. -/
def namesLike (t : FileTree) (dir : Path) (pattern : Field) : List String :=
  let wantsDot := pattern.head?.any fun c => c.1 == '.'
  let inside := (t.listing dir).map fun e => view e.1
  let all := if wantsDot then [".", ".."] ++ inside else inside.filter (!·.startsWith ".")
  if dir.isEmpty || (t.find false dir).toOption.any fun e => e.2 == .directory then
    all.filter fun n => Script.fits (Script.patternOf pattern) n.toList
  else []

/-- The paths for which the parts of a pattern stand, behind a path that is given. -/
def pathsLike (t : FileTree) (start : String) : List Field → List String
  | [] => [start]
  | part :: rest =>
    -- where nothing follows, the name itself is the end of the path
    let behind := if rest.isEmpty then "" else "/"
    let names := if part.isPattern then t.namesLike (octets start) part else [part.text]
    names.flatMap fun n =>
      if rest.isEmpty then [start ++ n] else t.pathsLike (start ++ n ++ behind) rest

/-- The paths for which a field stands. Without any, and without a pattern, it stands for itself. -/
def expandNames (t : FileTree) (f : Field) : List String :=
  if !f.isPattern then [f.text]
  else
    let parts := f.splitOnP (·.1 == '/')
    let found := (t.pathsLike "" parts).filter fun p => (t.status (octets p)).isOk
    if found.isEmpty then [f.text] else found.mergeSort (· ≤ ·)

end FileTree

end Pipework
