import Pipework.Rehearsal.Script.Scope

/-!
How a script finds the options among its arguments, one at a time. What has been found is kept in
variables, and so is the place at which the search goes on.
-/

namespace Pipework.Script

structure OptionScan where
  /-- The letter of the option, or a mark for what is wrong. -/
  name : String
  value : Option String := none
  /-- The argument at which the search goes on, and how much has been read of the one before it, if
  more of that is left to be read. -/
  index : Nat
  offset : Nat := 0
  complaint : Option String := none
  isOver : Bool := false

namespace OptionScan

/-- The next option among the arguments of a script. The letters are those that are allowed; a colon
behind a letter says that it has a value, one in front of all that there are no complaints. -/
def next (letters : List Char) (words : List String) (s : Scope) : OptionScan :=
  let index := (((s.bindings.get? "OPTIND").bind Script.integer?).getD 1).toNat
  let isQuiet := letters.head? == some ':'
  let open? : Option (List Char) := if s.optionOffset.1 != index || s.optionOffset.2 == 0 then none
    else ((words[index - 2]?).map fun w => w.toList.drop s.optionOffset.2).filter (!·.isEmpty)
  let found : Option (List Char × Nat) := match open? with
    | some cs => some (cs, index)
    | none => match ((words[index - 1]?).getD "").toList with
      | '-' :: c :: cs => if c = '-' ∧ cs = [] then none else some (c :: cs, index + 1)
      | _ => none
  match found with
  | none =>
    let isEnd := open?.isNone && words[index - 1]? == some "--"
    { name := "?", index := if isEnd then index + 1 else index, isOver := true }
  | some ([], _) => { name := "?", index := index, isOver := true }
  | some (c :: cs, index) =>
    let offset := ((words[index - 2]?).getD "").length - cs.length
    let letter := c.toString
    match (letters.dropWhile (· == ':')).dropWhile (· != c) with
    | [] =>
      { name := "?", index, offset, value := if isQuiet then some letter else none
        complaint := if isQuiet then none else some s!"Illegal option -{letter}" }
    | _ :: ':' :: _ => match cs, words[index - 1]? with
      | _ :: _, _ => { name := letter, value := some (String.ofList cs), index }
      | [], some v => { name := letter, value := some v, index := index + 1 }
      | [], none =>
        { name := if isQuiet then ":" else "?", index
          value := if isQuiet then some letter else none
          complaint := if isQuiet then none else some s!"No arg for -{letter} option" }
    | _ => { name := letter, value := some "", index, offset }

def scope (o : OptionScan) (s : Scope) : Scope :=
  let s := if o.isOver then s else match o.value with
    | some v => s.set "OPTARG" v
    | none => { s with bindings := s.bindings.erase "OPTARG" }
  { s.set "OPTIND" (toString o.index) with optionOffset := (o.index, o.offset) }

end OptionScan

end Pipework.Script
