namespace Pipework.Mode

def isOctal (s : String) : Bool := !s.isEmpty && s.toList.all fun c => '0' ≤ c && c ≤ '7'

/-- What letters make of a mode: they give rights to classes of users, take them away or set
them. -/
def changed? (cs : List Char) (mode : Nat) : Option Nat :=
  let who := cs.takeWhile fun c => "ugoa".toList.contains c
  let letters := cs.drop (who.length + 1)
  let bit (among : List Char) (c : Char) (n : Nat) : Nat := if among.contains c then n else 0
  let classes := if who.isEmpty || who.contains 'a' then 0o777
    else bit who 'u' 0o700 + bit who 'g' 0o070 + bit who 'o' 0o007
  let bits := (bit letters 'r' 0o444 + bit letters 'w' 0o222 + bit letters 'x' 0o111) &&& classes
  if !letters.all fun c => "rwxXst".toList.contains c then none
  else match cs[who.length]? with
    | some '+' => some (mode ||| bits)
    | some '-' => some (mode &&& (0o7777 - bits))
    | some '=' => some ((mode &&& (0o7777 - classes)) ||| bits)
    | _ => none

def read? (s : String) (mode : Nat) : Option Nat :=
  if isOctal s then some (s.toList.foldl (fun n c => n * 8 + (c.toNat - 48)) 0)
  else (s.splitOn ",").foldlM (fun mode part => changed? part.toList mode) mode

def shown (mode : Nat) : String :=
  let rights (who : String) (weight : Nat) : String :=
    let bits := mode / weight % 8
    who ++ "=" ++ (if bits / 4 % 2 = 1 then "r" else "") ++
      (if bits / 2 % 2 = 1 then "w" else "") ++ (if bits % 2 = 1 then "x" else "")
  ",".intercalate [rights "u" 64, rights "g" 8, rights "o" 1]

end Pipework.Mode
