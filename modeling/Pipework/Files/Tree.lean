import Pipework.IoError
import Pipework.Path

/-!
A tree of files as a value: directories, regular files, named pipes and symbolic links. Paths are
resolved as the system resolves them, one name after the other, so that each path that leads nowhere
fails in the way that fits it.
-/

namespace Pipework

/-- Where something lies: the names on the way from the root. -/
abbrev Location := List Bytes

inductive FileEntry where
  | directory
  | regular (data : Bytes) (mode : Nat)
  | pipe (mode : Nat)
  | link (target : Path)
  /-- A device that swallows all it is given and has nothing to give. -/
  | sink
  /-- A program that comes with the system. -/
  | tool (name : String)
deriving DecidableEq, Repr

inductive FileKind where
  | directory
  | regular
  | pipe
  | link
deriving DecidableEq, Repr

def FileEntry.kind : FileEntry → FileKind
  | directory => .directory
  | regular _ _ | sink | tool _ => .regular
  | pipe _ => .pipe
  | link _ => .link

def FileEntry.mode : FileEntry → Nat
  | directory | tool _ => 0o755
  | regular _ mode | pipe mode => mode
  | link _ => 0o777
  | sink => 0o666

/-- Do the permissions give the owner of a file the right of this weight? All files that are not
part of the system belong to the program. -/
def ownerMay (weight mode : Nat) : Bool := mode / 64 / weight % 2 == 1

def FileEntry.isReadable (e : FileEntry) : Bool := ownerMay 4 e.mode

def FileEntry.isWritable (e : FileEntry) : Bool :=
  match e with
  | tool _ => false
  | e => ownerMay 2 e.mode

def FileEntry.isExecutable : FileEntry → Bool
  | regular _ mode => ownerMay 1 mode
  | tool _ => true
  | _ => false

/-- A tree of files, seen from one of its directories. -/
structure FileTree where
  entries : List (Location × FileEntry)
  current : Location
deriving DecidableEq, Repr

namespace FileTree

/-- What lies at a location. At the root there is always a directory. -/
def lookup (t : FileTree) (l : Location) : Option FileEntry :=
  if l.isEmpty then some .directory else t.entries.lookup l

def isDirectory (t : FileTree) (l : Location) : Bool := t.lookup l == some .directory

def put (t : FileTree) (l : Location) (e : FileEntry) : FileTree :=
  { t with entries := (l, e) :: t.entries.filter (·.1 != l) }

def drop (t : FileTree) (l : Location) : FileTree :=
  { t with entries := t.entries.filter (·.1 != l) }

/-! ## Resolving paths -/

def maxPathLength : Nat := 4095

def maxNameLength : Nat := 255

def maxLinks : Nat := 40

/-- The names of a path in order. A slash at the end asks for a directory, as a dot does. -/
def steps (p : Path) : List Bytes :=
  let names := (Path.pieces p).filter (· != [])
  if p.getLast? == some Path.slash then names ++ [Path.dot] else names

def origin (dir : Location) (p : Path) : Location := if Path.isAbsolute p then [] else dir

/-- Walks from a location. Nothing needs to lie where the last step leads. A link there is followed
unless it is to be kept. -/
def walk (t : FileTree) (keepLink : Bool) (links : Nat) (dir : Location) :
    List Bytes → Except IoError Location
  | [] => .ok dir
  | step :: rest =>
    if !t.isDirectory dir then .error .notDirectory
    else if step.length > maxNameLength then .error .nameTooLong
    else if step = Path.dot then t.walk keepLink links dir rest
    else if step = Path.dotDot then t.walk keepLink links dir.dropLast rest
    else
      let here := dir ++ [step]
      match t.lookup here with
      | none => if rest.isEmpty then .ok here else .error .noEntry
      | some (.link target) =>
        if rest.isEmpty && keepLink then .ok here
        else match links with
          | 0 => .error .linkLoop
          | links + 1 =>
            -- a relative target starts at the directory that holds the link
            if target.isEmpty then .error .noEntry
            else t.walk keepLink links (origin dir target) (steps target ++ rest)
      | some _ => t.walk keepLink links here rest
termination_by names => (links, names.length)

def checkPath (p : Path) : Except IoError Unit :=
  if Path.hasZero p then .error (.custom "file name contained an unexpected NUL byte")
  else if p.isEmpty then .error .noEntry
  else if p.length > maxPathLength then .error .nameTooLong
  else .ok ()

def resolve (t : FileTree) (keepLink : Bool) (p : Path) : Except IoError Location := do
  checkPath p
  t.walk keepLink maxLinks (origin t.current p) (steps p)

def find (t : FileTree) (keepLink : Bool) (p : Path) : Except IoError (Location × FileEntry) := do
  let l ← t.resolve keepLink p
  match t.lookup l with
  | some e => return (l, e)
  | none => throw .noEntry

def status (t : FileTree) (p : Path) : Except IoError FileEntry := do
  return (← t.find true p).2

def freePlace (t : FileTree) (p : Path) : Except IoError Location := do
  checkPath p
  let names := (Path.pieces p).filter (· != [])
  match names.getLast? with
  | none => throw .alreadyExists
  | some name =>
    -- all but the last name has to lead to a directory
    let dir ← t.walk false maxLinks (origin t.current p) (names.dropLast ++ [Path.dot])
    if name = Path.dot ∨ name = Path.dotDot then throw .alreadyExists
    if name.length > maxNameLength then throw .nameTooLong
    if (t.lookup (dir ++ [name])).isSome then throw .alreadyExists
    if p.getLast? == some Path.slash then throw .noEntry
    return dir ++ [name]

/-! ## Reading and changing a tree -/

def openToRead (t : FileTree) (p : Path) : Except IoError FileEntry := do
  let (_, e) ← t.find false p
  if e.isReadable then return e else throw .accessDenied

def openToWrite (t : FileTree) (p : Path) : Except IoError (Location × FileEntry) := do
  let (l, e) ← t.find false p
  if e = .directory then throw .isDirectory
  if e.isWritable then return (l, e) else throw .accessDenied

def contents (t : FileTree) (p : Path) : Except IoError Bytes := do
  match ← t.openToRead p with
  | .regular data _ => return data
  | .directory => throw .isDirectory
  | _ => return []

def overwrite (data old : Bytes) : Bytes := data ++ old.drop data.length

def overwriteFile (t : FileTree) (p : Path) (data : Bytes) : Except IoError FileTree := do
  match ← t.openToWrite p with
  | (l, .regular old mode) => return t.put l (.regular (overwrite data old) mode)
  | _ => return t

def writeFile (t : FileTree) (p : Path) (data : Bytes) (mode : Nat) : Except IoError FileTree := do
  let l ← t.resolve false p
  if t.isDirectory l then throw .isDirectory
  return t.put l (.regular data mode)

def makeDirectory (t : FileTree) (p : Path) : FileTree :=
  let names := (Path.pieces p).filter fun n => n != [] && n != Path.dot
  let make (s : FileTree × Location) (name : Bytes) : FileTree × Location :=
    let here := s.2 ++ [name]
    if (s.1.lookup here).isSome then (s.1, here) else (s.1.put here .directory, here)
  (names.foldl make (t, origin t.current p)).1

def makeLink (t : FileTree) (p target : Path) : Except IoError FileTree := do
  return t.put (← t.freePlace p) (.link target)

def permissions (mode : Nat) : Nat := mode % 0o10000

/-- Makes a named pipe. Its mode may not ask for another kind of file. -/
def makePipe (t : FileTree) (p : Path) (mode : Nat) : Except IoError FileTree := do
  -- the bits above that of a pipe stand for other kinds of files
  if mode / 0o20000 % 8 ≠ 0 then throw .invalidArgument
  let l ← t.freePlace p
  return t.put l (.pipe (permissions mode))

def remove (t : FileTree) (p : Path) : Except IoError FileTree := do
  match ← t.find true p with
  | (_, .directory) => throw .isDirectory
  | (l, _) => return t.drop l

def setMode (t : FileTree) (p : Path) (mode : Nat) : Except IoError FileTree := do
  match ← t.find false p with
  | (l, .regular data _) => return t.put l (.regular data (permissions mode))
  | (l, .pipe _) => return t.put l (.pipe (permissions mode))
  | _ => return t

def listing (t : FileTree) (p : Path) : List (Bytes × FileKind) :=
  let dir := if p.isEmpty then .ok t.current else t.resolve false p
  match dir with
  | .error _ => []
  | .ok dir =>
    let inside := t.entries.filterMap fun e =>
      if e.1.dropLast = dir then e.1.getLast?.map fun name => (name, e.2.kind) else none
    inside.mergeSort fun a b => a.1 ≤ b.1

end FileTree

end Pipework
