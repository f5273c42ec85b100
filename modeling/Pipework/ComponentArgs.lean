import Pipework.PipeError

/-!
The arguments of a component: which path each of its ports is bound to, and the arguments that are
its own. `toArguments` writes them and `parse` reads them back; a flag may have one dash or two,
and its value may follow an equals sign or be the next argument.
-/

namespace Pipework

structure PortPath where
  name : String
  path : Path
deriving DecidableEq, Repr

structure ComponentArgs where
  inports : List PortPath := []
  outports : List PortPath := []
  free : List String := []
deriving DecidableEq, Repr

inductive PortFlag where
  | inport
  | inpath
  | outport
  | outpath
deriving DecidableEq, Repr

namespace PortFlag

def word : PortFlag → String
  | inport => "inport"
  | inpath => "inpath"
  | outport => "outport"
  | outpath => "outpath"

def spelling (f : PortFlag) : String := "-" ++ f.word

def partner : PortFlag → PortFlag
  | inport => inpath
  | inpath => inport
  | outport => outpath
  | outpath => outport

def all : List PortFlag := [inport, inpath, outport, outpath]

def dropDashes? : List Char → Option (List Char)
  | '-' :: '-' :: cs => some cs
  | '-' :: cs => some cs
  | _ => none

def ofText? (s : String) : Option (PortFlag × Option String) := do
  let body ← dropDashes? s.toList
  let word := String.ofList (body.takeWhile (· != '='))
  let flag ← all.find? (·.word == word)
  match body.dropWhile (· != '=') with
  | [] => return (flag, none)
  | _ :: value => return (flag, some (String.ofList value))

/-- Reads a flag from an argument. An argument that is no text is no flag. -/
def ofArgument? (arg : Bytes) : Option (PortFlag × Option Bytes) := do
  let (flag, value) ← ofText? (← Text.ofBytes? arg)
  return (flag, value.map Text.toBytes)

end PortFlag

/-- The argument that ends the recognition of flags. -/
def terminator : Bytes := [45, 45]

structure SortedArguments where
  flags : List (PortFlag × Bytes) := []
  rest : List Bytes := []
  /-- A last flag whose value is missing. -/
  incomplete : Option PortFlag := none
deriving DecidableEq, Repr

namespace SortedArguments

/-- Sorts arguments up to the terminator, which stays with the rest, as does all behind it. -/
def ofArguments : List Bytes → SortedArguments
  | [] => {}
  | arg :: args =>
    if arg = terminator then { rest := arg :: args }
    else match PortFlag.ofArgument? arg, args with
      | none, args =>
        let later := ofArguments args
        { later with rest := arg :: later.rest }
      | some (flag, some value), args =>
        let later := ofArguments args
        { later with flags := (flag, value) :: later.flags }
      -- the next argument is the value, whatever it looks like
      | some (flag, none), value :: args =>
        let later := ofArguments args
        { later with flags := (flag, value) :: later.flags }
      | some (flag, none), [] => { incomplete := some flag }

end SortedArguments

structure PortPairing where
  inports : List PortPath := []
  outports : List PortPath := []
  openInport : Option String := none
  openOutport : Option String := none

namespace PortPairing

def unpaired (flag : PortFlag) (name : String) : PipeError :=
  .unpairedPort flag.spelling name flag.partner.spelling

def add (p : PortPairing) : PortFlag × Bytes → Except PipeError PortPairing
  | (.inport, value) => match p.openInport with
    | some name => .error (unpaired .inport name)
    | none => .ok { p with openInport := some (Text.lossy value) }
  | (.inpath, value) => match p.openInport with
    | some name => .ok { p with inports := p.inports ++ [⟨name, value⟩], openInport := none }
    | none => .error (unpaired .inpath (Text.lossy value))
  | (.outport, value) => match p.openOutport with
    | some name => .error (unpaired .outport name)
    | none => .ok { p with openOutport := some (Text.lossy value) }
  | (.outpath, value) => match p.openOutport with
    | some name => .ok { p with outports := p.outports ++ [⟨name, value⟩], openOutport := none }
    | none => .error (unpaired .outpath (Text.lossy value))

def close (p : PortPairing) : Except PipeError ComponentArgs :=
  match p.openInport, p.openOutport with
  | some name, _ => .error (unpaired .inport name)
  | none, some name => .error (unpaired .outport name)
  | none, none => .ok { inports := p.inports, outports := p.outports }

end PortPairing

namespace ComponentArgs

/-- Takes the port flags out of a list of arguments. What is left keeps its order. -/
def extract (args : List Bytes) : Except PipeError (ComponentArgs × List Bytes) := do
  let sorted := SortedArguments.ofArguments args
  -- a pair that does not fit is found before a value that is missing at the end
  let pairing ← sorted.flags.foldlM PortPairing.add {}
  match sorted.incomplete with
  | some flag => throw (.missingValue flag.spelling)
  | none => return (← pairing.close, sorted.rest)

def dropTerminator (args : List Bytes) : List Bytes := args.erase terminator

/-- Reads the arguments of a component. All that is no port flag is a free argument. -/
def parse (args : List Bytes) : Except PipeError ComponentArgs := do
  let (ports, rest) ← extract args
  return { ports with free := (dropTerminator rest).map Text.lossy }

def inportArguments (b : PortPath) : List Bytes :=
  [Text.toBytes "-inport", Text.toBytes b.name, Text.toBytes "-inpath", b.path]

def outportArguments (b : PortPath) : List Bytes :=
  [Text.toBytes "-outport=" ++ Text.toBytes b.name, Text.toBytes "-outpath=" ++ b.path]

def toArguments (p : ComponentArgs) : List Bytes :=
  p.inports.flatMap inportArguments ++ p.outports.flatMap outportArguments ++
    p.free.map Text.toBytes

def find? (bindings : List PortPath) (name : String) : Option Path :=
  (bindings.find? (·.name == name)).map (·.path)

def inport? (p : ComponentArgs) (name : String) : Option Path := find? p.inports name

def outport? (p : ComponentArgs) (name : String) : Option Path := find? p.outports name

def isEmpty (p : ComponentArgs) : Bool := p.inports.isEmpty && p.outports.isEmpty && p.free.isEmpty

/-- The named pipe of an inport: every sender finds it from the names of the receiver alone. -/
def pipePath (dir : Path) (process port : String) : Path :=
  dir.join (Text.toBytes (process ++ "." ++ port))

end ComponentArgs

end Pipework
