import Pipework.Files.Tree
import Pipework.PipeError

/-!
Making named pipes. A stale pipe gives way to a new one, and any other file stays as it is. What is
said here holds of every store of files that has the four operations; the tree of files is one.
-/

namespace Pipework

/-- A store of files in which named pipes can be made. -/
class PipeStore (σ : Type) where
  /-- What lies at a path, be it a link. -/
  kind : σ → Path → Except IoError FileKind
  remove : σ → Path → Except IoError σ
  makePipe : σ → Path → Nat → Except IoError σ
  setMode : σ → Path → Nat → Except IoError σ

instance : PipeStore FileTree where
  kind t p := (t.status p).map FileEntry.kind
  remove := FileTree.remove
  makePipe := FileTree.makePipe
  setMode := FileTree.setMode

namespace NamedPipe

variable {σ : Type} [PipeStore σ]

/-- Makes a pipe where nothing lies. The permissions are set once more, since making a pipe may
leave some of them out. -/
def make (s : σ) (p : Path) (mode : Nat) : Except PipeError Unit × σ :=
  match PipeStore.makePipe s p mode with
  | .error e => (.error (.create p e), s)
  | .ok s => match PipeStore.setMode s p mode with
    | .error e => (.error (.create p e), s)
    | .ok s => (.ok (), s)

def create (s : σ) (p : Path) (mode : Nat) : Except PipeError Unit × σ :=
  if (Path.fileName? p).isNone || Path.hasZero p then (.error (.invalidPath p), s)
  else match PipeStore.kind s p with
    -- only a pipe is ever removed
    | .ok .pipe => match PipeStore.remove s p with
      | .ok s => make s p mode
      | .error e => (.error (.removeStale p e), s)
    | .ok _ => (.error (.notAFifo p), s)
    | .error e => if e.kind = .notFound then make s p mode else (.error (.create p e), s)

/-- Makes pipes in order, up to the first that cannot be made. -/
def createAll (s : σ) (mode : Nat) : List Path → Except PipeError Unit × σ
  | [] => (.ok (), s)
  | p :: ps => match create s p mode with
    | (.ok (), s) => createAll s mode ps
    | (.error e, s) => (.error e, s)

def isPipe (s : σ) (p : Path) : Bool := (PipeStore.kind s p).toOption == some .pipe

end NamedPipe

end Pipework
