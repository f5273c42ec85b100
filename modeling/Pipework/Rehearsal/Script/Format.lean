import Pipework.Rehearsal.Script.Arithmetic

namespace Pipework.Script

def octalDigits : (most value : Nat) → List Char → Nat × List Char
  | 0, value, cs => (value, cs)
  | most + 1, value, c :: cs =>
    if '0' ≤ c ∧ c ≤ '7' then octalDigits most (value * 8 + (c.toNat - 48)) cs
    else (value, c :: cs)
  | _ + 1, value, [] => (value, [])

def escapeLetter? : Char → Option Char
  | 'a' => some '\x07'
  | 'b' => some '\x08'
  | 'f' => some '\x0c'
  | 'n' => some '\n'
  | 'r' => some '\r'
  | 't' => some '\t'
  | 'v' => some '\x0b'
  | '\\' => some '\\'
  | _ => none

/-- The character that a letter behind a backslash stands for in what is printed. -/
def printedLetter? (c : Char) : Option Char :=
  if c = 'e' then some '\x1b' else escapeLetter? c

def octetChar (n : Nat) : Char := Char.ofNat (n % 256)

/-- A character in a quoted name. Only visible characters other than the mark and the backslash
stand for themselves; the others have letters or octal numbers behind a backslash. -/
def quotedChar (c : Char) : List Char :=
  match "abfnrtv\\".toList.find? fun d => escapeLetter? d == some c with
  | some d => ['\\', d]
  | none =>
    if c = '\'' then ['\\', c]
    else if ' ' ≤ c ∧ c ≤ '~' then [c]
    else '\\' :: [c.toNat / 64, c.toNat / 8 % 8, c.toNat % 8].map Nat.digitChar

def quotedName (s : String) : String :=
  "'" ++ String.ofList (s.toList.flatMap quotedChar) ++ "'"

/-- Does a character mean something to a shell at the start of a word, or anywhere in it? -/
def isShellSpecial (isFirst : Bool) (c : Char) : Bool :=
  " !\"$&'()*;<=>?[\\^\u0060|:".toList.contains c || (isFirst && (c == '#' || c == '~')) ||
    c < ' ' || '~' < c

/-- A name as a shell would read it back, in quotation marks if it needs them, or `always`. -/
def shellName (always : Bool) (s : String) : String :=
  let cs := s.toList
  let isPlain (c : Char) : Bool := c.isAlphanum || " #~%+,-./:@_]\x7b\x7d'".toList.contains c
  let needsMarks := cs.isEmpty || cs.head?.any (isShellSpecial true) ||
    cs.any (isShellSpecial false) || s == "\x7b" || s == "\x7d"
  if !always && !needsMarks then s
  else if cs.contains '\'' && cs.all isPlain then "\"" ++ s ++ "\""
  else "'" ++ String.ofList (quoteFrom false cs)
where
  /-- A text behind an opening quotation mark. What cannot be seen stands in marks of its own. -/
  quoteFrom : (inEscapes : Bool) → List Char → List Char
  | _, [] => ['\'']
  | inEscapes, c :: cs =>
    if c < ' ' || '~' < c then
      (if inEscapes then [] else "'$'".toList) ++ quotedChar c ++ quoteFrom true cs
    else
      (if inEscapes then "''".toList else []) ++
        (if c = '\'' then "'\\''".toList else [c]) ++ quoteFrom false cs

/-- A text with its escapes replaced, and whether one of them ends all output. Octal numbers stand
behind a zero. -/
def unescape : (fuel : Nat) → List Char → List Char × Bool
  | 0, _ => ([], false)
  | _ + 1, [] => ([], false)
  | _ + 1, '\\' :: 'c' :: _ => ([], true)
  | fuel + 1, '\\' :: '0' :: cs =>
    let (n, rest) := octalDigits 3 0 cs
    let (later, ends) := unescape fuel rest
    (octetChar n :: later, ends)
  | fuel + 1, '\\' :: c :: cs =>
    let (later, ends) := unescape fuel cs
    match printedLetter? c with
    | some d => (d :: later, ends)
    | none => ('\\' :: c :: later, ends)
  | fuel + 1, c :: cs =>
    let (later, ends) := unescape fuel cs
    (c :: later, ends)

def echoText (args : List String) : String :=
  let (endsLine, args) := match args with
    | "-n" :: args => (false, args)
    | args => (true, args)
  let s := " ".intercalate args
  let (cs, ends) := unescape (s.length + 1) s.toList
  String.ofList cs ++ if endsLine && !ends then "\n" else ""

/-- How a value is laid out: at which side blanks are added, whether zeros are added instead, what
stands before a number, how long the value is at least and how long at most. -/
structure Layout where
  leftAligned : Bool := false
  zeros : Bool := false
  plus : Bool := false
  blank : Bool := false
  base : Bool := false
  width : Nat := 0
  precision : Option Nat := none

def Layout.pad (l : Layout) (s : String) : String :=
  let blanks := String.ofList (List.replicate (l.width - s.length) ' ')
  if l.leftAligned then s ++ blanks else blanks ++ s

def Layout.padNumber (l : Layout) (sign digits : String) : String :=
  let zeros (count : Nat) : String := String.ofList (List.replicate count '0')
  match l.precision with
  | some least => l.pad (sign ++ zeros (least - digits.length) ++ digits)
  | none =>
    if l.zeros && !l.leftAligned then
      sign ++ zeros (l.width - sign.length - digits.length) ++ digits
    else l.pad (sign ++ digits)

def layoutNumber (s : String) : Int := (integer? s).getD 0

def Layout.read (cs : List Char) (args : List String) : Layout × List Char × List String :=
  let flags := cs.takeWhile fun c => "-0+ #".toList.contains c
  let number (cs : List Char) (args : List String) : Int × List Char × List String :=
    match cs with
    | '*' :: cs => (layoutNumber (args.headD ""), cs, args.tail)
    | cs =>
      let digits := cs.takeWhile Char.isDigit
      (layoutNumber (String.ofList digits), cs.drop digits.length, args)
  let (width, cs, args) := number (cs.drop flags.length) args
  let layout : Layout :=
    { leftAligned := flags.contains '-' || width < 0, zeros := flags.contains '0'
      plus := flags.contains '+', blank := flags.contains ' ', base := flags.contains '#'
      width := width.natAbs }
  match cs with
  | '.' :: cs =>
    let (places, cs, args) := number cs args
    ({ layout with precision := some places.toNat }, cs, args)
  | cs => (layout, cs, args)

def numberArgument (s : String) : Int64 × Option String :=
  match s.toList with
  | '\'' :: c :: _ | '"' :: c :: _ => (Int64.ofNat c.toNat, none)
  | cs =>
    let cs := cs.dropWhile Char.isWhitespace
    let (negative, digits) := match cs with
      | '-' :: cs => (true, cs)
      | '+' :: cs => (false, cs)
      | cs => (false, cs)
    let (n, rest) := Arithmetic.readNumber digits
    let n := if negative then -n else n
    if s.isEmpty then (0, none)
    else if rest.length = digits.length then (0, some s!"{s}: expected numeric value")
    else (n, if rest.isEmpty then none else some s!"{s}: not completely converted")

def Layout.sign (l : Layout) (negative : Bool) : String :=
  if negative then "-" else if l.plus then "+" else if l.blank then " " else ""

/-- A number with decimals, rounded to its places; a half goes to the even neighbour. -/
def decimalText (l : Layout) (s : String) : String :=
  let cs := s.toList
  let negative := cs.head? == some '-'
  let cs := if negative || cs.head? == some '+' then cs.drop 1 else cs
  let whole := cs.takeWhile Char.isDigit
  let decimals := ((cs.drop whole.length).drop 1).takeWhile Char.isDigit
  let places := l.precision.getD 6
  let digits := Arithmetic.ofDigits.digit? 10
  let n := ((whole ++ decimals).filterMap digits).foldl (fun n d => n * 10 + d) 0
  let scaled := n * Nat.pow 10 places
  let unit := Nat.pow 10 decimals.length
  let up := 2 * (scaled % unit) > unit || (2 * (scaled % unit) = unit && scaled / unit % 2 = 1)
  let rounded := scaled / unit + if up then 1 else 0
  let shown := (toString rounded).toList
  let shown := List.replicate (places + 1 - shown.length) '0' ++ shown
  let front := shown.take (shown.length - places)
  let back := shown.drop (shown.length - places)
  let text := String.ofList (if places = 0 then front else front ++ '.' :: back)
  { l with precision := none }.padNumber (l.sign negative) text

structure Printed where
  text : String := ""
  complaints : List String := []
  /-- Has the end of all output been asked for? -/
  isOver : Bool := false
  /-- Has the format itself a mistake, so that nothing more can be printed? -/
  isFaulty : Bool := false

namespace Printed

def before (s : String) (p : Printed) : Printed := { p with text := s ++ p.text }

def andThen (p later : Printed) : Printed :=
  { later with text := p.text ++ later.text, complaints := p.complaints ++ later.complaints }

def fault (complaint : String) : Printed :=
  { complaints := [complaint], isOver := true, isFaulty := true }

end Printed

/-- A value as a conversion shows it, if the conversion is known, and what is wrong with it. The
value may end all output. -/
def convert (l : Layout) (conversion : Char) (arg : String) : Option Printed :=
  let unsigned (base : Nat) (start : String) : Printed :=
    let (n, complaint) := numberArgument arg
    let digits := String.ofList (Nat.toDigits base n.toUInt64.toNat)
    ⟨l.padNumber (if l.base && n != 0 then start else "") digits, complaint.toList, false, false⟩
  match conversion with
  | 'd' | 'i' =>
    let (n, complaint) := numberArgument arg
    some ⟨l.padNumber (l.sign (n < 0)) (toString n.toInt.natAbs), complaint.toList, false, false⟩
  | 'u' => some (unsigned 10 "")
  | 'x' => some (unsigned 16 "0x")
  | 'X' =>
    let p := unsigned 16 "0X"
    some { p with text := p.text.map Char.toUpper }
  | 'o' => some (unsigned 8 "0")
  | 'c' => some ⟨l.pad (String.ofList (arg.toList.take 1)), [], false, false⟩
  | 's' => match l.precision with
    | some most => some ⟨l.pad (String.ofList (arg.toList.take most)), [], false, false⟩
    | none => some ⟨l.pad arg, [], false, false⟩
  | 'b' =>
    let (cs, ends) := unescape (arg.length + 1) arg.toList
    some ⟨l.pad (String.ofList cs), [], ends, false⟩
  | 'f' | 'e' | 'g' | 'F' | 'E' | 'G' | 'a' => some ⟨decimalText l arg, [], false, false⟩
  | _ => none

def formatOnce : (fuel : Nat) → List Char → List String → Printed × List String
  | 0, _, args => ({}, args)
  | _ + 1, [], args => ({}, args)
  | fuel + 1, '%' :: '%' :: cs, args =>
    let (later, args) := formatOnce fuel cs args
    (later.before "%", args)
  | fuel + 1, '%' :: cs, args =>
    let (layout, rest, args) := Layout.read cs args
    match rest with
    | c :: rest =>
      match convert layout c (args.headD "") with
      | some p =>
        if p.isOver then (p, args.tail)
        else
          let (later, left) := formatOnce fuel rest args.tail
          (p.andThen later, left)
      | none =>
        let directive := String.ofList ('%' :: cs.take (cs.length - rest.length))
        (.fault s!"{directive}: invalid directive", [])
    | [] => (.fault "missing format character", [])
  | fuel + 1, '\\' :: c :: cs, args =>
    if '0' ≤ c ∧ c ≤ '7' then
      let (n, rest) := octalDigits 3 0 (c :: cs)
      let (later, args) := formatOnce fuel rest args
      (later.before (octetChar n).toString, args)
    else
      let (later, args) := formatOnce fuel cs args
      let shown := match printedLetter? c with
        | some d => d.toString
        | none => if c = '"' then "\"" else String.ofList ['\\', c]
      (later.before shown, args)
  | fuel + 1, c :: cs, args =>
    let (later, args) := formatOnce fuel cs args
    (later.before c.toString, args)

/-- What a format prints. It is used again as long as arguments are left. -/
def formatText : (fuel : Nat) → String → List String → Printed
  | 0, _, _ => {}
  | fuel + 1, format, args =>
    let (p, left) := formatOnce (format.length + 1) format.toList args
    if p.isOver || left.isEmpty || left.length = args.length then p
    else
      p.andThen (formatText fuel format left)

def printed (format : String) (args : List String) : Printed :=
  formatText (args.length + 1) format args

end Pipework.Script
