import Mathlib.Data.List.Basic
import Pipework.Proofs.Report.Sink

/-! The graph of a network read back. A quoted text ends at its first quote that is not escaped, no
statement has a line feed within it, and so each line holds one statement with the texts that it was
made from. -/

namespace Pipework.Dot

/-- The character that an escaped one stands for. -/
def unescape? (c : Char) : Option Char :=
  if c = '"' ∨ c = '\\' then some c else if c = 'n' then some '\n' else none

/-- Reads up to the first quote that is not escaped: the text before it, and what follows it.
`escaped` says whether a backslash has just been read. -/
def readQuoted : (escaped : Bool) → List Char → Option (List Char × List Char)
  | _, [] => none
  | true, c :: cs =>
    (unescape? c).bind fun c => (readQuoted false cs).map fun r => (c :: r.1, r.2)
  | false, c :: cs =>
    if c = '"' then some ([], cs)
    else if c = '\\' then readQuoted true cs
    else (readQuoted false cs).map fun r => (c :: r.1, r.2)

/-- Reads a text between quotes. -/
def unquote? : List Char → Option (String × List Char)
  | [] => none
  | c :: cs =>
    if c = '"' then (readQuoted false cs).map fun r => (String.ofList r.1, r.2) else none

/-- Reads one of a few words, for which something stands. -/
def choose? {α : Type} (words : List (α × String)) (cs : List Char) : Option (α × List Char) :=
  words.findSome? fun w => (cs.dropPrefix? w.2.toList).map fun rest => (w.1, rest)

namespace Statement

/-- A statement as a line, without its line feed. -/
def line : Statement → String
  | process name label => "    " ++ quote name ++ " [label=" ++ quote label ++ "];"
  | node name shape label =>
    "    " ++ quote name ++ " [shape=" ++ shape.word ++ ", label=" ++ quote label ++ "];"
  | edge source target label dashed => "    " ++ quote source ++ " -> " ++ quote target ++
    " [label=" ++ quote label ++ if dashed then ", style=dashed];" else "];"

/-- What can follow the first name of a statement: the arrow of an edge, or the attributes of a
node. -/
inductive Kind where
  | process
  | node (shape : Shape)
  | edge

/-- How each kind of statements goes on. -/
def Kind.words : List (Kind × String) :=
  [(edge, " -> "), (process, " [label="), (node .boundary, " [shape=cds, label="),
    (node .packet, " [shape=plaintext, label=")]

/-- Reads the rest of an edge. -/
def edgeFrom? (source : String) (cs : List Char) : Option Statement := do
  let (target, cs) ← unquote? cs
  let cs ← cs.dropPrefix? " [label=".toList
  let (label, cs) ← unquote? cs
  if cs = "];".toList then return .edge source target label false
  else if cs = ", style=dashed];".toList then return .edge source target label true
  else none

/-- Reads the rest of a node. -/
def nodeFrom? (make : String → Statement) (cs : List Char) : Option Statement := do
  let (label, cs) ← unquote? cs
  if cs = "];".toList then return make label else none

/-- Reads the rest of a statement of some kind. -/
def Kind.rest? (name : String) (cs : List Char) : Kind → Option Statement
  | edge => edgeFrom? name cs
  | process => nodeFrom? (.process name) cs
  | node shape => nodeFrom? (.node name shape) cs

/-- Reads a line as a statement. -/
def ofLine? (cs : List Char) : Option Statement := do
  let cs ← cs.dropPrefix? "    ".toList
  let (name, cs) ← unquote? cs
  let (kind, cs) ← choose? Kind.words cs
  kind.rest? name cs

end Statement

/-- Reads lines as statements, up to the closing line, which is the last. -/
def statementsOf? : List (List Char) → Option (List Statement)
  | [] => none
  | cs :: lines =>
    if cs :: lines = closing.toList.splitOn '\n' then some []
    else do return (← Statement.ofLine? cs) :: (← statementsOf? lines)

/-- Reads the statements of a graph. -/
def ofText? (text : String) : Option (List Statement) :=
  (text.toList.dropPrefix? opening.toList).bind fun cs => statementsOf? (cs.splitOn '\n')

theorem readQuoted_escape (cs rest : List Char) :
    readQuoted false (cs.flatMap escapeChar ++ '"' :: rest) = some (cs, rest) := by
  induction cs with
  | nil => rfl
  | cons c cs ih =>
    rw [List.flatMap_cons, List.append_assoc, escapeChar]
    by_cases hquote : c = '"'
    · simp [hquote, readQuoted, unescape?, ih]
    by_cases hslash : c = '\\'
    · simp [hslash, readQuoted, unescape?, ih]
    by_cases hfeed : c = '\n'
    · simp [hfeed, readQuoted, unescape?, ih]
    simp [hquote, hslash, hfeed, readQuoted, ih]

/-- A quoted text is read back, whatever follows it. -/
theorem unquote?_quote (text : String) (rest : List Char) :
    unquote? ((quote text).toList ++ rest) = some (text, rest) := by
  have hquote : (quote text).toList ++ rest =
      '"' :: (text.toList.flatMap escapeChar ++ '"' :: rest) := by
    simp [quote]
  rw [hquote, unquote?, if_pos rfl, readQuoted_escape, Option.map_some, String.ofList_toList]

theorem lineFeed_not_mem_quote (text : String) : '\n' ∉ (quote text).toList := by
  have hescape (c : Char) : '\n' ∉ escapeChar c := by
    unfold escapeChar
    split
    · decide
    split
    · decide
    split
    · decide
    · rename_i hfeed
      simpa using Ne.symm hfeed
  simp [quote, hescape]

namespace Statement

theorem join_pieces (s : Statement) : String.join s.pieces = s.line ++ "\n" := by
  cases s with
  | process name label => simp [pieces, line, String.append_assoc]
  | node name shape label => simp [pieces, line, String.append_assoc]
  | edge source target label dashed => cases dashed <;> simp [pieces, line, String.append_assoc]

theorem lineFeed_not_mem_line (s : Statement) : '\n' ∉ s.line.toList := by
  cases s with
  | process name label => simp [line, lineFeed_not_mem_quote]
  | node name shape label => cases shape <;> simp [line, Shape.word, lineFeed_not_mem_quote]
  | edge source target label dashed => cases dashed <;> simp [line, lineFeed_not_mem_quote]

theorem choose?_words {kind : Kind} {word : String} (h : (kind, word) ∈ Kind.words)
    (rest : List Char) : choose? Kind.words (word.toList ++ rest) = some (kind, rest) := by
  simp only [Kind.words, List.mem_cons, List.not_mem_nil, or_false, Prod.mk.injEq] at h
  -- the words differ in their second character, or behind the equals sign
  rcases h with ⟨rfl, rfl⟩ | ⟨rfl, rfl⟩ | ⟨rfl, rfl⟩ | ⟨rfl, rfl⟩ <;>
    simp [choose?, Kind.words, List.dropPrefix?]

theorem ofLine?_open {kind : Kind} {word : String} (h : (kind, word) ∈ Kind.words)
    (name : String) (rest : List Char) :
    ofLine? ("    ".toList ++ ((quote name).toList ++ (word.toList ++ rest))) =
      kind.rest? name rest := by
  rw [ofLine?, List.dropPrefix?_append_of_beq _ BEq.rfl]
  simp only [unquote?_quote, choose?_words h, Option.bind_some, Option.bind_eq_bind]

theorem nodeFrom?_close (make : String → Statement) (label : String) :
    nodeFrom? make ((quote label).toList ++ "];".toList) = some (make label) := by
  simp [nodeFrom?, unquote?_quote]

theorem edgeFrom?_close (source target label : String) (dashed : Bool) :
    edgeFrom? source ((quote target).toList ++ (" [label=".toList ++ ((quote label).toList ++
      (if dashed then ", style=dashed];" else "];").toList))) =
      some (.edge source target label dashed) := by
  rw [edgeFrom?, unquote?_quote]
  simp only [Option.bind_some, Option.bind_eq_bind, List.dropPrefix?_append_of_beq _ BEq.rfl,
    unquote?_quote]
  cases dashed <;> simp

theorem ofLine?_line (s : Statement) : ofLine? s.line.toList = some s := by
  cases s with
  | process name label =>
    have hword : (Kind.process, " [label=") ∈ Kind.words := by simp [Kind.words]
    have hline : (process name label).line.toList = "    ".toList ++ ((quote name).toList ++
        (" [label=".toList ++ ((quote label).toList ++ "];".toList))) := by
      simp [line]
    rw [hline, ofLine?_open hword]
    exact nodeFrom?_close _ _
  | node name shape label =>
    have hword : (Kind.node shape, " [shape=" ++ shape.word ++ ", label=") ∈ Kind.words := by
      cases shape <;> simp [Kind.words, Shape.word]
    have hline : (node name shape label).line.toList = "    ".toList ++ ((quote name).toList ++
        ((" [shape=" ++ shape.word ++ ", label=").toList ++
          ((quote label).toList ++ "];".toList))) := by
      simp [line]
    rw [hline, ofLine?_open hword]
    exact nodeFrom?_close _ _
  | edge source target label dashed =>
    have hword : (Kind.edge, " -> ") ∈ Kind.words := by simp [Kind.words]
    have hline : (edge source target label dashed).line.toList = "    ".toList ++
        ((quote source).toList ++ (" -> ".toList ++ ((quote target).toList ++
          (" [label=".toList ++ ((quote label).toList ++
            (if dashed then ", style=dashed];" else "];").toList))))) := by
      simp [line]
    rw [hline, ofLine?_open hword]
    exact edgeFrom?_close _ _ _ _

end Statement

/-- The statements, each in its line, stand between the opening lines and the closing one. -/
theorem render_eq_lines (n : Network) : render n =
    opening ++ String.join ((statements n).map (·.line ++ "\n")) ++ closing := by
  have hbody (ss : List Statement) : String.join (ss.flatMap Statement.pieces) =
      String.join (ss.map (·.line ++ "\n")) := by
    induction ss with
    | nil => rfl
    | cons s ss ih =>
      rw [List.flatMap_cons, String.join_append, ih, Statement.join_pieces, List.map_cons,
        String.join_cons]
  rw [render_eq_join, pieces, List.cons_append, String.join_cons, String.join_append, hbody]
  simp [String.append_assoc]

theorem statementsOf?_lines (ss : List Statement) :
    statementsOf? (((String.join (ss.map (·.line ++ "\n")) ++ closing).toList).splitOn '\n') =
      some ss := by
  induction ss with
  | nil => rfl
  | cons s ss ih =>
    have hsplit : (String.join ((s :: ss).map (·.line ++ "\n")) ++ closing).toList =
        s.line.toList ++ '\n' :: (String.join (ss.map (·.line ++ "\n")) ++ closing).toList := by
      simp
    have hopen : s.line.toList.head? = some ' ' := by
      cases s <;> simp [Statement.line]
    rw [hsplit, List.splitOn_append_cons_self_of_not_mem s.lineFeed_not_mem_line, statementsOf?]
    split
    · rename_i hclosing
      -- a statement starts with spaces, and the closing line does not
      have hhead := congrArg (fun lines => lines.head?.bind List.head?) hclosing
      rw [List.head?_cons, Option.bind_some, hopen] at hhead
      exact absurd hhead (by decide)
    · rw [Statement.ofLine?_line, ih]
      rfl

/-- The statements of a graph are read back from its text. -/
theorem ofText?_render (n : Network) : ofText? (render n) = some (statements n) := by
  rw [ofText?, render_eq_lines, String.append_assoc, String.toList_append,
    List.dropPrefix?_append_of_beq _ BEq.rfl]
  exact statementsOf?_lines _

end Pipework.Dot
