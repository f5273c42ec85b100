import Mathlib.Algebra.Group.Nat.Defs
import Pipework.Proofs.ExitCode
import Pipework.Proofs.Text

/-! Spans of time as they are written. A text is read exactly if it spells a number of a unit, where
the number is not zero and fits a machine word. The span is then as long as the text says, except
that minutes end where the seconds do, and every other text is an error in the use of the program. -/

namespace Pipework.Duration

open Text

/-- The signs of units. Seconds may go without. -/
inductive TimeUnit.IsSign : TimeUnit → List Char → Prop where
  | milliseconds : IsSign .milliseconds ['m', 's']
  | seconds : IsSign .seconds ['s']
  | minutes : IsSign .minutes ['m']
  | missing : IsSign .seconds []

/-- A number of a unit as it is written, with white space on either side. -/
structure Spelling where
  before : List Char
  plus : Bool
  digits : List Char
  unit : TimeUnit
  sign : List Char
  after : List Char
  blank_before : ∀ c ∈ before, isBlank c = true
  nonempty : digits ≠ []
  digit : ∀ c ∈ digits, c.isDigit = true
  is_sign : unit.IsSign sign
  blank_after : ∀ c ∈ after, isBlank c = true

namespace Spelling

/-- The sign in front of the digits. -/
def front (s : Spelling) : List Char := if s.plus then ['+'] else []

/-- What stands between the white space. -/
def core (s : Spelling) : List Char := s.front ++ (s.digits ++ s.sign)

/-- The text that is written. -/
def text (s : Spelling) : String := String.ofList (s.before ++ (s.core ++ s.after))

/-- The number that the digits stand for. -/
def number (s : Spelling) : ℕ := Nat.ofDigitChars 10 s.digits 0

end Spelling

/-- The nanoseconds of a span. -/
def length (d : Duration) : ℕ := d.seconds * 10 ^ 9 + d.nanoseconds

/-- The nanoseconds in so many of a unit. Minutes end at the last second that fits a word. -/
def TimeUnit.length : TimeUnit → ℕ → ℕ
  | milliseconds, n => n * 10 ^ 6
  | seconds, n => n * 10 ^ 9
  | minutes, n => min (60 * n) (2 ^ 64 - 1) * 10 ^ 9

/-- The seconds fit a machine word, and the rest is less than a second. -/
structure Fits (d : Duration) : Prop where
  seconds : d.seconds < 2 ^ 64
  nanoseconds : d.nanoseconds < 10 ^ 9

/-- A span is known by its length. -/
theorem eq_of_length {d e : Duration} (hd : d.Fits) (he : e.Fits) (h : d.length = e.length) :
    d = e := by
  obtain ⟨-, hd⟩ := hd
  obtain ⟨-, he⟩ := he
  cases d
  cases e
  simp only [length, mk.injEq] at *
  omega

theorem length_times (unit : TimeUnit) (n : ℕ) : (unit.times n).length = unit.length n := by
  cases unit with
  | milliseconds =>
    simp only [TimeUnit.times, ofMilliseconds, length, TimeUnit.length]
    omega
  | seconds => simp only [TimeUnit.times, length, TimeUnit.length, Nat.add_zero]
  | minutes =>
    have hlast : wordBound - 1 = 2 ^ 64 - 1 := rfl
    simp only [TimeUnit.times, length, TimeUnit.length, hlast, Nat.add_zero, Nat.mul_comm n]

theorem fits_times (unit : TimeUnit) {n : ℕ} (h : n < 2 ^ 64) : (unit.times n).Fits := by
  have hwhole : 0 < 10 ^ 9 := by decide
  cases unit with
  | milliseconds =>
    have hseconds : n / 1000 < 2 ^ 64 := lt_of_le_of_lt (Nat.div_le_self n 1000) h
    have hrest : n % 1000 < 1000 := Nat.mod_lt n (by decide)
    refine ⟨hseconds, ?_⟩
    change n % 1000 * 1000000 < 10 ^ 9
    omega
  | seconds => exact ⟨h, hwhole⟩
  | minutes =>
    have hlast : min (n * 60) (wordBound - 1) < 2 ^ 64 :=
      lt_of_le_of_lt (Nat.min_le_right _ _) (by decide)
    exact ⟨hlast, hwhole⟩

theorem TimeUnit.length_pos (unit : TimeUnit) {n : ℕ} (h : 0 < n) : 0 < unit.length n := by
  cases unit <;> simp only [TimeUnit.length] <;> omega

theorem TimeUnit.length_mono (unit : TimeUnit) {m n : ℕ} (h : m ≤ n) :
    unit.length m ≤ unit.length n := by
  cases unit <;> simp only [TimeUnit.length] <;> omega

theorem TimeUnit.IsSign.eq_of_mem {unit : TimeUnit} {sign : List Char} (h : unit.IsSign sign)
    {c : Char} (hc : c ∈ sign) : c = 'm' ∨ c = 's' := by
  cases h <;> simp_all

theorem dropPlus_of_not_mem {cs : List Char} (h : '+' ∉ cs) : dropPlus cs = cs := by
  unfold dropPlus
  split
  · exact absurd List.mem_cons_self h
  · rfl

theorem exists_plus (cs : List Char) :
    ∃ plus : Bool, cs = (if plus then ['+'] else []) ++ dropPlus cs := by
  unfold dropPlus
  split
  · exact ⟨true, rfl⟩
  · exact ⟨false, rfl⟩

/-- The sign of milliseconds ends in that of seconds and starts with that of minutes. Behind a digit
each sign is taken for itself. -/
theorem splitUnit_append {unit : TimeUnit} {sign cs : List Char} (hsign : unit.IsSign sign)
    (hlast : ∀ c ∈ cs.getLast?, c.isDigit = true) : splitUnit (cs ++ sign) = (unit, cs) := by
  obtain ⟨r, rfl⟩ : ∃ r, cs = r.reverse := ⟨cs.reverse, cs.reverse_reverse.symm⟩
  rw [List.getLast?_reverse] at hlast
  cases r with
  | nil => cases hsign <;> rfl
  | cons c r =>
    have hc : c.isDigit = true := hlast c rfl
    have hne {d : Char} (hd : d.isDigit = false) : c ≠ d := by
      intro he
      rw [← he, hc] at hd
      cases hd
    have hs : c ≠ 's' := hne rfl
    have hm : c ≠ 'm' := hne rfl
    cases hsign <;> simp [splitUnit, hs, hm]

theorem exists_sign (cs : List Char) :
    ∃ sign, (splitUnit cs).1.IsSign sign ∧ cs = (splitUnit cs).2 ++ sign := by
  have hback {l : List Char} (h : cs.reverse = l) : cs = l.reverse := by
    rw [← h, List.reverse_reverse]
  unfold splitUnit
  split
  · rename_i h
    exact ⟨_, .milliseconds, by simpa using hback h⟩
  · rename_i h
    exact ⟨_, .seconds, by simpa using hback h⟩
  · rename_i h
    exact ⟨_, .minutes, by simpa using hback h⟩
  · exact ⟨[], .missing, (List.append_nil cs).symm⟩

/-- What `parse` looks at: the unit behind the number, and the digits behind the plus sign. -/
theorem parse_eq_ok_iff {text : String} {d : Duration} : parse text = .ok d ↔
    ∃ n, 0 < n ∧ parseWord? (dropPlus (splitUnit (trimBlanks text.toList)).2) = some n ∧
      d = (splitUnit (trimBlanks text.toList)).1.times n := by
  simp only [parse]
  cases hcs : trimBlanks text.toList with
  | nil =>
    -- the empty text has no digits, so refusing it by a message of its own takes nothing away
    simp [splitUnit, dropPlus, parseWord?]
  | cons c cs =>
    simp only [List.isEmpty_cons, Bool.false_eq_true, if_false]
    cases parseWord? (dropPlus (splitUnit (c :: cs)).2) with
    | none => simp
    | some n => cases n <;> simp [eq_comm]

namespace Spelling

theorem getLast?_front (s : Spelling) : ∀ c ∈ (s.front ++ s.digits).getLast?, c.isDigit = true := by
  intro c hc
  rw [List.getLast?_append_of_ne_nil _ s.nonempty] at hc
  exact s.digit c (List.mem_of_getLast? hc)

theorem plus_not_mem_digits (s : Spelling) : '+' ∉ s.digits := by
  intro h
  exact absurd (s.digit '+' h) (by decide)

theorem dropPlus_front (s : Spelling) : dropPlus (s.front ++ s.digits) = s.digits := by
  unfold front
  cases s.plus
  · exact dropPlus_of_not_mem s.plus_not_mem_digits
  · rfl

theorem core_ne_nil (s : Spelling) : s.core ≠ [] := by
  intro h
  exact s.nonempty (List.append_eq_nil_iff.1 (List.append_eq_nil_iff.1 h).2).1

theorem isBlank_of_mem_core (s : Spelling) : ∀ c ∈ s.core, isBlank c = false := by
  intro c hc
  rcases List.mem_append.1 hc with hfront | hc
  · unfold front at hfront
    cases hp : s.plus with
    | false => simp [hp] at hfront
    | true =>
      obtain rfl : c = '+' := by simpa [hp] using hfront
      rfl
  · rcases List.mem_append.1 hc with hdigit | hsign
    · exact isBlank_of_isDigit (s.digit c hdigit)
    · rcases s.is_sign.eq_of_mem hsign with rfl | rfl <;> rfl

theorem trimBlanks_text (s : Spelling) : trimBlanks s.text.toList = s.core := by
  rw [text, String.toList_ofList]
  exact trimBlanks_append s.blank_before s.blank_after s.core_ne_nil s.isBlank_of_mem_core

theorem parse_text_eq_ok_iff (s : Spelling) {d : Duration} : parse s.text = .ok d ↔
    (0 < s.number ∧ s.number < 2 ^ 64) ∧ d = s.unit.times s.number := by
  have hunit : splitUnit s.core = (s.unit, s.front ++ s.digits) := by
    rw [core, ← List.append_assoc]
    exact splitUnit_append s.is_sign s.getLast?_front
  rw [parse_eq_ok_iff, s.trimBlanks_text, hunit, s.dropPlus_front]
  constructor
  · rintro ⟨n, hpos, hword, rfl⟩
    obtain ⟨-, -, rfl, hlt⟩ := parseWord?_eq_some_iff.1 hword
    exact ⟨⟨hpos, hlt⟩, rfl⟩
  · rintro ⟨⟨hpos, hlt⟩, rfl⟩
    exact ⟨s.number, hpos, parseWord?_eq_some_iff.2 ⟨s.nonempty, s.digit, rfl, hlt⟩, rfl⟩

end Spelling

/-- Only texts that spell a number are read. -/
theorem exists_spelling {text : String} {d : Duration} (h : parse text = .ok d) :
    ∃ s : Spelling, s.text = text := by
  -- the parts are found from the outside in, and the digits are what is left
  obtain ⟨n, -, hword, -⟩ := parse_eq_ok_iff.1 h
  obtain ⟨hne, hdigit, -⟩ := parseWord?_eq_some_iff.1 hword
  obtain ⟨before, after, hbefore, hafter, htext⟩ := exists_trimBlanks_eq text.toList
  obtain ⟨sign, hsign, hcore⟩ := exists_sign (trimBlanks text.toList)
  obtain ⟨plus, hplus⟩ := exists_plus (splitUnit (trimBlanks text.toList)).2
  let s : Spelling := ⟨before, plus, _, _, sign, after, hbefore, hne, hdigit, hsign, hafter⟩
  have hs : s.core = trimBlanks text.toList := by
    conv_rhs => rw [hcore, hplus, List.append_assoc]
    rfl
  refine ⟨s, ?_⟩
  rw [Spelling.text, hs, ← htext, String.ofList_toList]

/-- The texts that are read are those that spell a number which is not zero and fits a word. -/
theorem parse_eq_ok_iff_spelled {text : String} {d : Duration} : parse text = .ok d ↔
    ∃ s : Spelling, s.text = text ∧ (0 < s.number ∧ s.number < 2 ^ 64) ∧
      d = s.unit.times s.number := by
  constructor
  · intro h
    obtain ⟨s, rfl⟩ := exists_spelling h
    exact ⟨s, rfl, s.parse_text_eq_ok_iff.1 h⟩
  · rintro ⟨s, rfl, h⟩
    exact s.parse_text_eq_ok_iff.2 h

theorem eq_times_iff {d : Duration} (unit : TimeUnit) {n : ℕ} (h : n < 2 ^ 64) :
    d = unit.times n ↔ d.Fits ∧ d.length = unit.length n := by
  constructor
  · rintro rfl
    exact ⟨fits_times unit h, length_times unit n⟩
  · rintro ⟨hfits, hlength⟩
    exact eq_of_length hfits (fits_times unit h) (hlength.trans (length_times unit n).symm)

/-- A text is read exactly if it spells a number of a unit that is not zero and fits a machine word.
The span is as long as the number says, it is never empty, and longer numbers of a unit never give
shorter spans. Every other text ends the program as an error in its use. -/
theorem spelled_exactly :
    (∀ text d, parse text = .ok d ↔
      ∃ s : Spelling, s.text = text ∧ (0 < s.number ∧ s.number < 2 ^ 64) ∧
        d.Fits ∧ d.length = s.unit.length s.number) ∧
    (∀ text d, parse text = .ok d → 0 < d.length) ∧
    (∀ (s t : Spelling) d e, parse s.text = .ok d → parse t.text = .ok e → s.unit = t.unit →
      s.number ≤ t.number → d.length ≤ e.length) ∧
    ∀ text, (¬∃ s : Spelling, s.text = text ∧ 0 < s.number ∧ s.number < 2 ^ 64) →
      ∃ fault, parse text = .error fault ∧ ∀ (c : CommandLine) (boundary : ComponentArgs),
        c.IsRun → c.timeout = some text → c.action boundary = .error ⟨.usage, fault.message⟩ := by
  refine ⟨?read, ?positive, ?monotone, ?refused⟩
  case read =>
    -- a span that fits is the one that the number and its unit give exactly if it is as long
    intro text d
    rw [parse_eq_ok_iff_spelled]
    apply exists_congr
    intro s
    exact and_congr_right fun _ => and_congr_right fun hs => eq_times_iff s.unit hs.2
  case positive =>
    intro text d h
    obtain ⟨s, -, hs, rfl⟩ := parse_eq_ok_iff_spelled.1 h
    rw [length_times]
    exact s.unit.length_pos hs.1
  case monotone =>
    intro s t d e hd he hunit hle
    obtain ⟨-, rfl⟩ := s.parse_text_eq_ok_iff.1 hd
    obtain ⟨-, rfl⟩ := t.parse_text_eq_ok_iff.1 he
    rw [length_times, length_times, hunit]
    exact t.unit.length_mono hle
  case refused =>
    intro text hnot
    cases hp : parse text with
    | ok d =>
      obtain ⟨s, hs, hrange, -⟩ := parse_eq_ok_iff_spelled.1 hp
      exact absurd ⟨s, hs, hrange⟩ hnot
    | error fault =>
      refine ⟨fault, rfl, ?_⟩
      intro c boundary hrun htext
      simp [CommandLine.action, hrun.1, hrun.2, htext, hp]

/-- The first number of minutes that has more seconds than a word can count, behind a wide space and
a plus sign, and the first number that does not fit a word itself. -/
theorem spelled_exactly_at_limits :
    let s : Spelling :=
      { before := ['\u2003'], plus := true, digits := "307445734561825861".toList
        unit := .minutes, sign := ['m'], after := ['\n'], nonempty := by decide
        blank_before := List.all_eq_true.1 (by decide), digit := List.all_eq_true.1 (by decide)
        is_sign := .minutes, blank_after := List.all_eq_true.1 (by decide) }
    let c : CommandLine :=
      { network := [], pipeDir := [], timeout := some "18446744073709551616" }
    (0 < s.number ∧ s.number < 2 ^ 64) ∧
    parse "\u2003+307445734561825861m\n" = .ok ⟨2 ^ 64 - 1, 0⟩ ∧ c.IsRun ∧
    c.action {} = .error ⟨.usage, "invalid duration value: 18446744073709551616"⟩ := by
  intro s c
  obtain ⟨hread, -, -, hrefused⟩ := spelled_exactly
  have hs : 0 < s.number ∧ s.number < 2 ^ 64 := by decide +kernel
  have htext : s.text = "\u2003+307445734561825861m\n" := by decide +kernel
  have hlength : length ⟨2 ^ 64 - 1, 0⟩ = s.unit.length s.number := by decide +kernel
  have hbad : parse "18446744073709551616" = .error (.notANumber "18446744073709551616") := by
    decide +kernel
  have hrun : c.IsRun := ⟨rfl, rfl⟩
  refine ⟨hs, (hread _ _).2 ⟨s, htext, hs, ⟨by decide, by decide⟩, hlength⟩, hrun, ?_⟩
  obtain ⟨fault, hfault, haction⟩ := hrefused "18446744073709551616" <| by
    rintro ⟨t, ht, hrange⟩
    have hok := (hread _ _).2 ⟨t, ht, hrange, fits_times t.unit hrange.2, length_times _ _⟩
    cases hbad.symm.trans hok
  obtain rfl := Except.error.inj (hbad.symm.trans hfault)
  exact haction c {} hrun rfl

end Pipework.Duration
