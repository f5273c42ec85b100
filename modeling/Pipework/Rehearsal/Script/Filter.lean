import Pipework.Rehearsal.Script.Format
import Pipework.Rehearsal.Script.Regex

namespace Pipework.Script.Filter

structure Input where
  /-- The name under which the program has been given the input. -/
  label : Option String := none
  /-- Does the input come from a file whose size is known? -/
  isRegular : Bool := false
  text : String
deriving DecidableEq, Repr

structure Output where
  text : String
  status : Nat := 0
  complaints : List String := []
deriving DecidableEq, Repr

def linesOf (s : String) : List String :=
  match s.splitOn "\n" with
  | [] => []
  | parts => if parts.getLast? = some "" then parts.dropLast else parts

def unlines (lines : List String) : String := String.join (lines.map (· ++ "\n"))

def allLines (inputs : List Input) : List String := inputs.flatMap fun i => linesOf i.text

def splitOptions (args : List String) : List String × List String :=
  let options := args.takeWhile (· != "--")
  let (flags, others) := options.partition fun a => a.startsWith "-" && a != "-"
  (flags, others ++ args.drop (options.length + 1))

def lettersOf (options : List String) : List Char := options.flatMap fun a => a.toList.drop 1

def digitsNumber (cs : List Char) : Nat :=
  (cs.filter Char.isDigit).foldl (fun n c => n * 10 + (c.toNat - 48)) 0

/-! ## Options with values -/

/-- Options and operands, where some letters take a value from the same argument or the next one. -/
structure Options where
  letters : List Char := []
  values : List (Char × String) := []
  operands : List String := []
deriving DecidableEq, Repr

namespace Options

/-- Reads the letters of an argument. If the last one wants a value that is not there, it is
returned. -/
def readLetters (withValue : List Char) : List Char → Options → Options × Option Char
  | [], o => (o, none)
  | c :: cs, o =>
    if withValue.contains c then
      if cs.isEmpty then (o, some c)
      else ({ o with values := o.values ++ [(c, String.ofList cs)] }, none)
    else readLetters withValue cs { o with letters := o.letters ++ [c] }

def read (withValue : List Char) : List String → Options → Options
  | [], o => o
  | "--" :: args, o => { o with operands := o.operands ++ args }
  | a :: args, o => match a.toList with
    | '-' :: c :: cs =>
      match readLetters withValue (c :: cs) o, args with
      | (o, some c), v :: args => read withValue args { o with values := o.values ++ [(c, v)] }
      | (o, _), args => read withValue args o
    | _ => read withValue args { o with operands := o.operands ++ [a] }

def value? (o : Options) (c : Char) : Option String := o.values.reverse.lookup c

def has (o : Options) (c : Char) : Bool := o.letters.contains c

end Options

/-! ## Counting -/

def wordCount (s : String) : Nat :=
  (s.toList.splitOnP Char.isWhitespace).countP (!·.isEmpty)

def counts (letters : List Char) (s : String) : List Nat :=
  let wants (c : Char) : Bool := letters.contains c
  let all := letters.isEmpty
  (if all || wants 'l' then [s.toList.count '\n'] else []) ++
    (if all || wants 'w' then [wordCount s] else []) ++
    (if wants 'm' then [s.length] else []) ++ (if all || wants 'c' then [s.length] else [])

/-- How wide the numbers are shown. One number for one input needs no width; `asked` is how many
inputs there should have been. -/
def countWidth (letters : List Char) (asked : Nat) (inputs : List Input) : Nat :=
  if asked ≤ 1 ∧ letters.length = 1 then 1
  else
    let size := ((inputs.filter (·.isRegular)).map (·.text.length)).foldl (· + ·) 0
    max (toString size).length (if inputs.all (·.isRegular) then 1 else 7)

/-- What counting prints: a line for each input, and their sum if there are several. -/
def count (args : List String) (inputs : List Input) : String :=
  let (options, files) := splitOptions args
  let letters := lettersOf options
  let width := countWidth letters files.length inputs
  let line (ns : List Nat) (label : Option String) : String :=
    " ".intercalate (ns.map fun n => Layout.pad { width := width } (toString n)) ++
      (label.map (" " ++ ·)).getD ""
  let rows := inputs.map fun i => (counts letters i.text, i.label)
  let sum := rows.foldl (fun a r => if a.isEmpty then r.1 else a.zipWith (· + ·) r.1) []
  unlines (rows.map (fun r => line r.1 r.2) ++
    if 1 < files.length then [line (if sum.isEmpty then counts letters "" else sum) (some "total")]
    else [])

/-! ## Starts and ends -/

structure Quantity where
  characters : Bool := false
  /-- Counted from the start, where it would be counted from the end. -/
  fromStart : Bool := false
  /-- All but so many. -/
  allBut : Bool := false
  number : Nat := 10
deriving DecidableEq, Repr

def Quantity.withNumber (q : Quantity) (s : String) : Quantity :=
  { q with number := digitsNumber s.toList
           fromStart := s.startsWith "+", allBut := s.startsWith "-" }

/-- The arguments of programs that show a start or an end. A number may stand without its letter. -/
def quantityOptions (args : List String) : Options :=
  let spelled := args.map fun a => match a.toList with
    | '-' :: c :: _ => if c.isDigit then "-n" ++ (a.drop 1).toString else a
    | _ => a
  Options.read ['n', 'c'] spelled {}

def isQuantity (s : String) : Bool :=
  let cs := s.toList.dropWhile Char.isWhitespace
  let cs := if cs.head?.any fun c => c == '-' || c == '+' then cs.drop 1 else cs
  let unit := cs.dropWhile Char.isDigit
  cs.head?.any Char.isDigit && unit.all fun c => "bkKMGTPEZYRQBi".toList.contains c

def quantityFault? (args : List String) : Option String :=
  ((quantityOptions args).values.find? fun v => !isQuantity v.2).map fun v =>
    let what := if v.1 = 'c' then "bytes" else "lines"
    s!"invalid number of {what}: {quotedName v.2}"

def Quantity.ofOptions (o : Options) : Quantity :=
  match o.values.getLast? with
  | some (c, n) => Quantity.withNumber { characters := c == 'c' } n
  | none => {}

def rawLines (s : String) : List String :=
  let parts := s.splitOn "\n"
  (parts.dropLast.map (· ++ "\n")) ++ (parts.getLast?.filter (· != "")).toList

def first (q : Quantity) (s : String) : String :=
  let wanted (length : Nat) : Nat := if q.allBut then length - q.number else q.number
  if q.characters then String.ofList (s.toList.take (wanted s.length))
  else
    let ls := rawLines s
    String.join (ls.take (wanted ls.length))

def last (q : Quantity) (s : String) : String :=
  let unwanted (length : Nat) : Nat := if q.fromStart then q.number - 1 else length - q.number
  if q.characters then String.ofList (s.toList.drop (unwanted s.length))
  else
    let ls := rawLines s
    String.join (ls.drop (unwanted ls.length))

def underNames (o : Options) (show? : String → String) (inputs : List Input) : String :=
  let named := (1 < o.operands.length || o.has 'v') && !o.has 'q'
  let parts := inputs.map fun i =>
    let name := (i.label.filter (· != "-")).getD "standard input"
    (if named then s!"==> {name} <==\n" else "") ++ show? i.text
  (if named then "\n" else "").intercalate parts

/-! ## Replacing characters -/

def charRange (a b : Char) : List Char :=
  (List.range (b.toNat + 1 - a.toNat)).map fun n => Char.ofNat (a.toNat + n)

def charSet : (fuel : Nat) → List Char → List Char
  | 0, _ => []
  | fuel + 1, '[' :: ':' :: cs =>
    let name := cs.takeWhile (· != ':')
    (Regex.classRanges (String.ofList name)).flatMap (fun r => charRange r.1 r.2) ++
      charSet fuel (cs.drop (name.length + 2))
  | fuel + 1, '\\' :: c :: cs =>
    if '0' ≤ c ∧ c ≤ '7' then
      let (n, rest) := octalDigits 3 0 (c :: cs)
      octetChar n :: charSet fuel rest
    else (escapeLetter? c).getD c :: charSet fuel cs
  | fuel + 1, a :: '-' :: b :: cs =>
    charRange a b ++ charSet fuel cs
  | fuel + 1, c :: cs => c :: charSet fuel cs
  | _ + 1, [] => []

def setOf (s : String) : List Char := charSet (s.length + 1) s.toList

def squeeze (set : List Char) : List Char → List Char
  | a :: b :: cs =>
    if a = b ∧ set.contains a then squeeze set (b :: cs) else a :: squeeze set (b :: cs)
  | cs => cs

def replace (args : List String) (s : String) : String :=
  let (options, sets) := splitOptions args
  let letters := lettersOf options
  let set := setOf (sets.headD "")
  let inSet (c : Char) : Bool := set.contains c != (letters.contains 'c' || letters.contains 'C')
  let cs := s.toList
  String.ofList <|
    if letters.contains 'd' then cs.filter (!inSet ·)
    else match sets.tail with
      | [] => if letters.contains 's' then squeeze set cs else cs
      | other :: _ =>
        let others := setOf other
        let change (c : Char) : Char :=
          if inSet c then (others[set.idxOf c]?.orElse fun _ => others.getLast?).getD c else c
        let changed := cs.map change
        if letters.contains 's' then squeeze others changed else changed

/-! ## Parts of lines -/

/-- The numbers of the places in a list such as `1,3-5`, among the first `count` places. -/
def places (count : Nat) (list : String) : List Nat :=
  let number (s : String) (missing : Nat) : Nat := (integer? s).elim missing Int.toNat
  let chosen : List (Nat × Nat) := (list.splitOn ",").map fun range => match range.splitOn "-" with
    | [a, b] => (number a 1, number b count)
    | _ => (number range 0, number range 0)
  (List.range count).filter fun n => chosen.any fun r => r.1 ≤ n + 1 ∧ n + 1 ≤ r.2

def cutValues : List Char := ['b', 'c', 'd', 'f']

/-- Parts of each line: characters or fields. A line without a separator is kept as a whole. -/
def cut (o : Options) (lines : List String) : List String :=
  let separator := (o.value? 'd').getD "\t"
  let pick (line : String) : Option String := match o.value? 'f' with
    | some list =>
      let fields := line.splitOn separator
      if fields.length = 1 then if o.has 's' then none else some line
      else some (separator.intercalate ((places fields.length list).filterMap (fields[·]?)))
    | none =>
      let cs := line.toList
      let list := ((o.value? 'c').orElse fun _ => o.value? 'b').getD ""
      some (String.ofList ((places cs.length list).filterMap (cs[·]?)))
  lines.filterMap pick

/-! ## Order -/

/-- The fields of a line. Without a separator, blanks start a field and belong to it. -/
def fieldsOf (separator : Option Char) (line : List Char) : List (List Char) :=
  match separator with
  | some c => line.splitOnP (· == c)
  | none => (line.splitBy fun a b => a.isWhitespace || !b.isWhitespace).filter (!·.isEmpty)

def keyOf (separator : Option Char) (key : String) (line : List Char) : List Char :=
  let fields := fieldsOf separator line
  let between := separator.toList
  let ends := key.splitOn ","
  let start := digitsNumber (((ends.headD "").toList).takeWhile Char.isDigit)
  let kept := match ends[1]? with
    | some stop => fields.take (digitsNumber (stop.toList.takeWhile Char.isDigit))
    | none => fields
  between.intercalate (kept.drop (start - 1))

def leadingNumber (cs : List Char) : Int :=
  let cs := cs.dropWhile Char.isWhitespace
  let sign := cs.takeWhile (· == '-')
  (integer? (String.ofList (sign ++ (cs.drop sign.length).takeWhile Char.isDigit))).getD 0

def order (o : Options) (lines : List String) : List String :=
  let separator := (o.value? 't').bind (·.toList.head?)
  let keyLetters := (o.value? 'k').elim [] fun k => k.toList.filter Char.isAlpha
  let has (c : Char) : Bool := o.has c || keyLetters.contains c
  let fold (cs : List Char) : List Char := if has 'f' then cs.map Char.toUpper else cs
  let key (l : String) : List Char := fold (match o.value? 'k' with
    | some k => keyOf separator k l.toList
    | none => l.toList)
  let before (a b : String) : Bool :=
    if has 'n' then leadingNumber (key a) < leadingNumber (key b) else key a < key b
  let le (a b : String) : Bool :=
    let (a, b) := if has 'r' then (b, a) else (a, b)
    before a b || (!before b a && (o.has 'u' || o.has 's' || a ≤ b))
  let sorted := lines.mergeSort le
  if o.has 'u' then sorted.eraseRepsBy fun a b => !before a b && !before b a else sorted

def runs : List String → List (String × Nat)
  | [] => []
  | l :: ls => match runs ls with
    | (m, n) :: rest => if l = m then (l, n + 1) :: rest else (l, 1) :: (m, n) :: rest
    | [] => [(l, 1)]

def distinct (o : Options) (lines : List String) : List String :=
  let kept := (runs lines).filter fun r =>
    (!o.has 'd' || 1 < r.2) && (!o.has 'u' || r.2 = 1)
  kept.map fun r =>
    if o.has 'c' then Layout.pad { width := 7 } (toString r.2) ++ " " ++ r.1 else r.1

/-! ## Choosing lines -/

def grepValues : List Char := ['e', 'm', 'A', 'B', 'C']

def grepOperands (o : Options) : List String × List String :=
  match o.values.filterMap fun v => if v.1 = 'e' then some v.2 else none with
  | [] => ((o.operands.headD "").splitOn "\n", o.operands.tail)
  | patterns => (patterns, o.operands)

def standsAlone (cs : List Char) (m : Nat × Nat) : Bool :=
  let isWordChar (c : Char) : Bool := c.isAlphanum || c == '_'
  let before := if m.1 = 0 then none else cs[m.1 - 1]?
  !(before.any isWordChar) && !(cs[m.2]?.any isWordChar)

def matchesFrom (r : Regex) (line : List Char) : (fuel : Nat) → Nat → List (Nat × Nat)
  | 0, _ => []
  | fuel + 1, start => match r.find? line start with
    | none => []
    | some (a, b) => (a, b) :: matchesFrom r line fuel (max b (a + 1))

def grep (o : Options) (inputs : List Input) : Output :=
  let plain (s : String) : Regex := s.toList.foldl (fun r c => .seq r (.char c)) .empty
  let lower (s : String) : String := if o.has 'i' then s.map Char.toLower else s
  let patterns := (grepOperands o).1.map fun s =>
    if o.has 'F' then plain (lower s) else Regex.read (o.has 'E') (lower s)
  let found (line : List Char) : List (Nat × Nat) :=
    (patterns.flatMap fun r => matchesFrom r line (line.length + 1) 0).filter fun m =>
      (!o.has 'w' || standsAlone line m) && (!o.has 'x' || m == (0, line.length))
  let wants (l : String) : Bool := (found (lower l).toList).isEmpty == o.has 'v'
  let one (i : Input) : List String × Nat :=
    let label := if (1 < inputs.length || o.has 'H') && !o.has 'h' then
      i.label.getD "(standard input)" ++ ":" else ""
    let chosen := (linesOf i.text).zipIdx.filter fun l => wants l.1
    let chosen := match o.value? 'm' with
      | some n => chosen.take (digitsNumber n.toList)
      | none => chosen
    let shown := if o.has 'c' then [label ++ toString chosen.length]
      else if o.has 'l' then if chosen.isEmpty then [] else [i.label.getD "(standard input)"]
      else chosen.flatMap fun l =>
        let start := label ++ if o.has 'n' then toString (l.2 + 1) ++ ":" else ""
        if o.has 'o' then (found l.1.toList).map fun m =>
          start ++ String.ofList ((l.1.toList.drop m.1).take (m.2 - m.1))
        else [start ++ l.1]
    (if o.has 'q' then [] else shown, chosen.length)
  let results := inputs.map one
  { text := unlines (results.flatMap (·.1))
    status := if results.any fun r => 0 < r.2 then 0 else 1 }

/-! ## Numbers -/

/-- A number with decimals: the number without the point, and how many decimals there are. -/
def decimal? (s : String) : Option (Int × Nat) :=
  let cs := s.toList
  let sign := cs.takeWhile fun c => c == '-' || c == '+'
  let body := cs.drop sign.length
  let whole := body.takeWhile Char.isDigit
  let decimals := match body.drop whole.length with
    | '.' :: cs => cs
    | [] => []
    | _ => ['x']
  if sign.length ≤ 1 ∧ decimals.all Char.isDigit ∧ !(whole ++ decimals).isEmpty then
    let n : Int := digitsNumber (whole ++ decimals)
    some (if sign = ['-'] then -n else n, decimals.length)
  else none

def decimalShown (places : Nat) (n : Int) : String :=
  let digits := (toString n.natAbs).toList
  let digits := List.replicate (places + 1 - digits.length) '0' ++ digits
  let front := digits.take (digits.length - places)
  let text := if places = 0 then front else front ++ '.' :: digits.drop front.length
  (if n < 0 then "-" else "") ++ String.ofList text

def zeroPadded (width : Nat) (s : String) : String :=
  if s.startsWith "-" then "-" ++ zeros (s.drop 1).toString (width - 1) else zeros s width
where
  /-- Digits with zeros in front. -/
  zeros (s : String) (width : Nat) : String :=
    String.ofList (List.replicate (width - s.length) '0') ++ s

def sequence (args : List String) : Output :=
  let isNumber (a : String) : Bool := (decimal? a).isSome
  let rec options : List String → Options → Options
    | [], o => o
    | "-s" :: v :: args, o => options args { o with values := [('s', v)] }
    | a :: args, o =>
      if isNumber a then { o with operands := a :: args }
      else match a.toList with
        | '-' :: 's' :: v => options args { o with values := [('s', String.ofList v)] }
        | '-' :: 'w' :: _ => options args { o with letters := ['w'] }
        | _ => { o with operands := a :: args }
  let o := options args {}
  let refuse (message : String) : Output :=
    ⟨"", 1, [s!"{message}\nTry 'seq --help' for more information."]⟩
  match o.operands.find? (!isNumber ·), o.operands.filterMap decimal? with
  | some a, _ => refuse s!"invalid floating point argument: '{a}'"
  | none, [] => refuse "missing operand"
  | none, numbers =>
    let (a, step, b) := match numbers with
      | [b] => (((1 : Int), 0), ((1 : Int), 0), b)
      | [a, b] => (a, (1, 0), b)
      | a :: step :: b :: _ => (a, step, b)
      | [] => ((1, 0), (1, 0), (0, 0))
    let places := max a.2 step.2
    let scale := max places b.2
    let scaled (n : Int × Nat) : Int := n.1 * Nat.pow 10 (scale - n.2)
    let (x, d, y) := (scaled a, scaled step, scaled b)
    if d = 0 then
      let given := o.operands[1]?.getD ""
      refuse s!"invalid Zero increment value: '{given}'"
    else
      let length := if (0 < d ∧ y < x) ∨ (d < 0 ∧ x < y) then 0 else ((y - x).tdiv d + 1).toNat
      let shown := (List.range length).map fun (n : Nat) =>
        decimalShown places ((x + d * n).tdiv (Nat.pow 10 (scale - places)))
      let width := (shown.map String.length).max?.getD 0
      let shown := if o.has 'w' then shown.map (zeroPadded width) else shown
      let text := ((o.value? 's').getD "\n").intercalate shown
      ⟨if shown.isEmpty then "" else text ++ "\n", 0, []⟩

def numbered : (next : Nat) → List String → List String
  | _, [] => []
  | next, l :: ls =>
    if l.isEmpty then "       " :: numbered next ls
    else (Layout.pad { width := 6 } (toString next) ++ "\t" ++ l) :: numbered (next + 1) ls

/-! ## All programs -/

def names : List String :=
  ["wc", "head", "tail", "tr", "cut", "sort", "uniq", "grep", "rev", "tac", "nl"]

def operands (name : String) (args : List String) : List String :=
  match name with
  | "tr" => []
  | "cut" => (Options.read cutValues args {}).operands
  | "head" | "tail" => (quantityOptions args).operands
  | "sort" => (Options.read ['k', 't'] args {}).operands
  | "grep" => (grepOperands (Options.read grepValues args {})).2
  | _ => (splitOptions args).2

def run (name : String) (args : List String) (inputs : List Input) : Output :=
  let ofLines (change : List String → List String) : Output :=
    { text := unlines (change (allLines inputs)) }
  let plain := Options.read [] args {}
  match name with
  | "wc" => { text := count args inputs }
  | "head" =>
    let o := quantityOptions args
    { text := underNames o (first (Quantity.ofOptions o)) inputs }
  | "tail" =>
    let o := quantityOptions args
    { text := underNames o (last (Quantity.ofOptions o)) inputs }
  | "tr" => { text := replace args (String.join (inputs.map (·.text))) }
  | "cut" => ofLines (cut (Options.read cutValues args {}))
  | "sort" => ofLines (order (Options.read ['k', 't'] args {}))
  | "uniq" => ofLines (distinct plain)
  | "grep" => grep (Options.read grepValues args {}) inputs
  | "rev" => ofLines (·.map fun l => String.ofList l.toList.reverse)
  | "tac" => { text := String.join (inputs.map fun i => String.join (rawLines i.text).reverse) }
  | "nl" => ofLines (numbered 1)
  | _ => { text := String.join (inputs.map (·.text)) }

def isEnough (name : String) (args : List String) (s : String) : Bool :=
  name == "head" && (
    let q := Quantity.ofOptions (quantityOptions args)
    !q.allBut && (if q.characters then q.number ≤ s.length else q.number ≤ s.toList.count '\n'))

end Pipework.Script.Filter
