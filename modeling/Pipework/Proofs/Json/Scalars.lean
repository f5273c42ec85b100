import Pipework.Json.Read
import Pipework.Json.Write
import Pipework.Proofs.Except
import Pipework.Proofs.Text

/-! What has been written is read back, for words, strings and whole numbers. A reader takes what
was written for it and no more, whatever stands behind it; only a numeral needs something behind it
that cannot be taken for more of it. -/

namespace Pipework.Json

/-- What may stand behind a numeral without becoming a part of it. -/
def EndsNumeral (rest : List Char) : Prop :=
  ∀ c ∈ rest.head?, c.isDigit = false ∧ c ≠ '.' ∧ c ≠ 'e' ∧ c ≠ 'E'

/-- In any text that starts like this, the reader finds the value and leaves the rest. -/
structure Reads {α : Type} (item : Reader α) (text : List Char) (x : α) : Prop where
  starts : ∃ c cs, text = c :: cs ∧ isBlank c = false ∧ c ≠ ']'
  found : ∀ rest, EndsNumeral rest → ∃ h, item (text ++ rest) = .ok ⟨x, rest, h⟩

theorem skipBlanks_cons {c : Char} (h : isBlank c = false) (cs : List Char) :
    skipBlanks (c :: cs) = c :: cs :=
  List.dropWhile_cons_of_neg (Bool.eq_false_iff.1 h)

/-! ### Strings -/

theorem hexValues?_hexDigit : ∀ n < 0x20,
    hexValues? '0' '0' (hexDigit (n / 16)) (hexDigit (n % 16)) = some n := by
  decide

theorem readUnicode_control {c : Char} (h : c.toNat < 0x20) (rest : List Char) :
    ∃ h', readUnicode ('0' :: '0' :: hexDigit (c.toNat / 16) :: hexDigit (c.toNat % 16) :: rest) =
      .ok ⟨c, rest, h'⟩ := by
  have hlow : ¬(0xDC00 ≤ c.toNat ∧ c.toNat ≤ 0xDFFF) := by omega
  have hunit : c.toNat < 0xD800 ∨ 0xDBFF < c.toNat := by omega
  have hc : Char.ofNat c.toNat = c := Char.ofNat_toNat c
  refine ⟨by simp; omega, ?_⟩
  simp only [readUnicode, readHex, hexValues?_hexDigit c.toNat h]
  simp [bind, Except.bind, hlow, hunit, hc, pure, Except.pure]

theorem readStringFrom_escape {done cs rest : List Char} {c d : Char}
    (h : ∃ h', readEscape (d :: cs) = .ok ⟨c, rest, h'⟩) :
    readStringFrom done ('\\' :: d :: cs) = readStringFrom (c :: done) rest := by
  obtain ⟨h', h⟩ := h
  have hquote : '\\' ≠ '"' := by decide
  rw [readStringFrom, if_neg hquote, if_pos rfl, h]

theorem readStringFrom_shortEscape {c d : Char} (hd : d ≠ 'u') (hs : shortEscape? d = some c)
    (done rest : List Char) :
    readStringFrom done ('\\' :: d :: rest) = readStringFrom (c :: done) rest := by
  apply readStringFrom_escape
  rw [readEscape, if_neg hd, hs]
  exact ⟨Nat.lt_succ_self _, rfl⟩

/-- What is written for one character of a string is read as this character. -/
theorem readStringFrom_escapeChar (done : List Char) (c : Char) (rest : List Char) :
    readStringFrom done (escapeChar c ++ rest) = readStringFrom (c :: done) rest := by
  unfold escapeChar
  iterate 7
    split
    · rename_i hc
      rw [hc]
      exact readStringFrom_shortEscape (by decide) rfl done rest
  rename_i hquote hbackslash _ _ _ _ _
  split
  · rename_i hlow
    apply readStringFrom_escape
    obtain ⟨h', hread⟩ := readUnicode_control hlow rest
    refine ⟨Nat.lt_succ_of_lt h', ?_⟩
    rw [readEscape, if_pos rfl]
    change (readUnicode ('0' :: '0' :: _ :: _ :: rest)).map _ = _
    rw [hread]
    rfl
  · rename_i hhigh
    rw [List.singleton_append, readStringFrom, if_neg hquote, if_neg hbackslash, if_neg hhigh]

theorem readStringFrom_escaped (done cs rest : List Char) :
    readStringFrom done (cs.flatMap escapeChar ++ '"' :: rest) =
      .ok (String.ofList (done.reverse ++ cs), rest) := by
  induction cs generalizing done with
  | nil =>
    rw [List.flatMap_nil, List.nil_append, readStringFrom, if_pos rfl, List.append_nil]
  | cons c cs ih =>
    rw [List.flatMap_cons, List.append_assoc, readStringFrom_escapeChar, ih, List.reverse_cons,
      List.append_assoc, List.singleton_append]

theorem toList_writeString (s : String) :
    (writeString s).toList = '"' :: (s.toList.flatMap escapeChar ++ ['"']) := by
  simp [writeString]

theorem readStringBody_eq_ok {cs rest : List Char} {s : String}
    (h : readStringFrom [] cs = .ok (s, rest)) :
    ∃ h', readStringBody cs = .ok ⟨s, rest, h'⟩ := by
  refine ⟨length_lt_of_readStringFrom h, ?_⟩
  unfold readStringBody
  split
  · rename_i e he
    cases h.symm.trans he
  · rename_i s' rest' hs'
    cases h.symm.trans hs'
    rfl

theorem readStringBody_escaped (s : String) (rest : List Char) :
    ∃ h, readStringBody (s.toList.flatMap escapeChar ++ '"' :: rest) = .ok ⟨s, rest, h⟩ := by
  have hread := readStringFrom_escaped [] s.toList rest
  rw [List.reverse_nil, List.nil_append, String.ofList_toList] at hread
  exact readStringBody_eq_ok hread

theorem reads_string (s : String) : Reads readString (writeString s).toList s := by
  rw [toList_writeString]
  refine ⟨⟨'"', _, rfl, rfl, by decide⟩, fun rest _ => ?_⟩
  have htext : '"' :: (s.toList.flatMap escapeChar ++ ['"']) ++ rest =
      '"' :: (s.toList.flatMap escapeChar ++ '"' :: rest) := by simp
  obtain ⟨h, hbody⟩ := readStringBody_escaped s rest
  rw [htext]
  refine ⟨Nat.lt_succ_of_lt h, ?_⟩
  change (readStringBody _).map _ = _
  rw [hbody]
  rfl

/-! ### Whole numbers -/

theorem isDigit_of_mem_toDigits {n : ℕ} {c : Char} (h : c ∈ Nat.toDigits 10 n) :
    c.isDigit = true :=
  Nat.isDigit_of_mem_toDigits (by decide) (by decide) h

/-- Only zero is written with a zero at the front. -/
theorem head?_toDigits_ne_zero {n : ℕ} (h : n ≠ 0) : (Nat.toDigits 10 n).head? ≠ some '0' := by
  have hdigit : ∀ m < 10, m ≠ 0 → [m.digitChar].head? ≠ some '0' := by decide
  induction n using Nat.strong_induction_on with
  | _ n ih =>
    by_cases hlt : n < 10
    · rw [Nat.toDigits_of_lt_base hlt]
      exact hdigit n hlt h
    · have hle : 10 ≤ n := Nat.le_of_not_lt hlt
      rw [Nat.toDigits_of_base_le (by decide) hle,
        List.head?_append_of_ne_nil _ Nat.toDigits_ne_nil]
      exact ih (n / 10) (by omega) (by omega)

theorem foldl_toDigits (n : ℕ) :
    (Nat.toDigits 10 n).foldl (fun m c => m * 10 + (c.toNat - '0'.toNat)) 0 = n := by
  have hvalue := Nat.ofDigitChars_ten_toDigits (n := n)
  rw [Nat.ofDigitChars_eq_foldl] at hvalue
  simpa only [Nat.mul_comm] using hvalue

namespace Numeral

theorem absorb_eq {digits : List Char} {m : ℕ}
    (h : digits.foldl (fun m c => m * 10 + (c.toNat - '0'.toNat)) m < Text.wordBound) :
    absorb m digits = (digits.foldl (fun m c => m * 10 + (c.toNat - '0'.toNat)) m, []) := by
  induction digits generalizing m with
  | nil => rfl
  | cons c digits ih =>
    rw [List.foldl_cons] at h ⊢
    -- later digits only make the number larger
    have hgrow (m : ℕ) (cs : List Char) :
        m ≤ cs.foldl (fun m c => m * 10 + (c.toNat - '0'.toNat)) m := by
      induction cs generalizing m with
      | nil => exact Nat.le_refl m
      | cons c cs ih =>
        rw [List.foldl_cons]
        exact Nat.le_trans (by omega) (ih _)
    have hstep := Nat.lt_of_le_of_lt (hgrow _ digits) h
    rw [absorb, if_pos hstep]
    exact ih h

theorem absorb_toDigits {n : ℕ} (h : n < Text.wordBound) :
    absorb 0 (Nat.toDigits 10 n) = (n, []) := by
  have hvalue := foldl_toDigits n
  rw [absorb_eq (by rwa [hvalue]), hvalue]

/-- The numeral of a whole number. -/
def ofNat (negative : Bool) (n : ℕ) : Numeral := ⟨negative, Nat.toDigits 10 n, [], none⟩

theorem value?_ofNat {n : ℕ} (h : n < Text.wordBound) :
    (ofNat false n).value? = some (.whole n) := by
  have hwhole := absorb_toDigits h
  simp [value?, ofNat, hwhole]

theorem value?_ofNat_negative {n : ℕ} (hpos : n ≠ 0) (h : n ≤ Text.wordBound / 2) :
    (ofNat true n).value? = some (.whole (-n)) := by
  have hword : n < Text.wordBound :=
    Nat.lt_of_le_of_lt h (Nat.div_lt_self (by decide) (by decide))
  have hwhole := absorb_toDigits hword
  simp [value?, ofNat, hwhole, hpos, h]

theorem takeWhile_toDigits {rest : List Char} (h : EndsNumeral rest) (cs : List Char)
    (hcs : ∀ c ∈ cs, c.isDigit = true) : (cs ++ rest).takeWhile Char.isDigit = cs ∧
      (cs ++ rest).dropWhile Char.isDigit = rest := by
  have hrest : rest.takeWhile Char.isDigit = [] ∧ rest.dropWhile Char.isDigit = rest := by
    cases rest with
    | nil => exact ⟨rfl, rfl⟩
    | cons c rest =>
      have hc : ¬c.isDigit = true := Bool.eq_false_iff.1 (h c rfl).1
      exact ⟨List.takeWhile_cons_of_neg hc, List.dropWhile_cons_of_neg hc⟩
  rw [List.takeWhile_append_of_pos hcs, List.dropWhile_append_of_pos hcs, hrest.1, hrest.2,
    List.append_nil]
  exact ⟨rfl, rfl⟩

theorem readWhole_toDigits (atEnd : Fault) (n : ℕ) {rest : List Char} (h : EndsNumeral rest) :
    ∃ h', readWhole atEnd (Nat.toDigits 10 n ++ rest) = .ok ⟨Nat.toDigits 10 n, rest, h'⟩ := by
  by_cases hn : n = 0
  · have hzero : Nat.toDigits 10 n = ['0'] := by
      rw [hn]
      rfl
    have hnot : rest.head?.any Char.isDigit = false := by
      cases rest with
      | nil => rfl
      | cons c rest => exact (h c rfl).1
    rw [hzero, List.singleton_append, readWhole, if_pos rfl, hnot]
    exact ⟨Nat.lt_succ_self _, rfl⟩
  · cases hdigits : Nat.toDigits 10 n with
    | nil => exact absurd hdigits Nat.toDigits_ne_nil
    | cons c cs =>
      have hall : ∀ d ∈ c :: cs, d.isDigit = true := by
        rw [← hdigits]
        exact fun d => isDigit_of_mem_toDigits
      have hzero : c ≠ '0' := by
        rintro rfl
        have hhead := head?_toDigits_ne_zero hn
        rw [hdigits] at hhead
        exact hhead rfl
      obtain ⟨htake, hdrop⟩ :=
        takeWhile_toDigits h cs fun d hd => hall d (List.mem_cons_of_mem c hd)
      have hshorter : rest.length < (c :: (cs ++ rest)).length := by
        rw [List.length_cons, List.length_append]
        omega
      refine ⟨hshorter, ?_⟩
      change readWhole atEnd (c :: (cs ++ rest)) = .ok ⟨c :: cs, rest, hshorter⟩
      rw [readWhole, if_neg hzero, if_pos (hall c List.mem_cons_self)]
      simp only [readDigits, htake, hdrop]

theorem readUnsigned_toDigits (atEnd : Fault) (negative : Bool) (n : ℕ) {rest : List Char}
    (h : EndsNumeral rest) : ∃ h', readUnsigned atEnd negative (Nat.toDigits 10 n ++ rest) =
      .ok ⟨ofNat negative n, rest, h'⟩ := by
  obtain ⟨h', hwhole⟩ := readWhole_toDigits atEnd n h
  have hfraction : readFraction atEnd rest = .ok ([], ⟨rest, Nat.le_refl _⟩) := by
    unfold readFraction
    split
    · exact absurd rfl (h '.' rfl).2.1
    · rfl
  have hexponent : readExponent atEnd rest = .ok (none, ⟨rest, Nat.le_refl _⟩) := by
    cases rest with
    | nil => rfl
    | cons c rest =>
      obtain ⟨-, -, he, hE⟩ := h c rfl
      rw [readExponent, if_neg (not_or.2 ⟨he, hE⟩)]
  refine ⟨h', ?_⟩
  rw [readUnsigned, hwhole]
  simp only [bind, Except.bind, hfraction, hexponent]
  rfl

theorem read_of_ne_minus {atEnd : Fault} {cs : List Char} (h : cs.head? ≠ some '-') :
    read atEnd cs = readUnsigned atEnd false cs := by
  unfold read
  split
  · exact absurd rfl h
  · rfl

theorem read_nat (atEnd : Fault) (n : ℕ) {rest : List Char} (h : EndsNumeral rest) :
    ∃ h', read atEnd (Nat.toDigits 10 n ++ rest) = .ok ⟨ofNat false n, rest, h'⟩ := by
  have hhead : (Nat.toDigits 10 n ++ rest).head? ≠ some '-' := by
    rw [List.head?_append_of_ne_nil _ Nat.toDigits_ne_nil]
    intro hminus
    cases isDigit_of_mem_toDigits (List.mem_of_head? hminus)
  rw [read_of_ne_minus hhead]
  exact readUnsigned_toDigits atEnd false n h

theorem read_negative (atEnd : Fault) (n : ℕ) {rest : List Char} (h : EndsNumeral rest) :
    ∃ h', read atEnd ('-' :: (Nat.toDigits 10 n ++ rest)) = .ok ⟨ofNat true n, rest, h'⟩ := by
  obtain ⟨h', hread⟩ := readUnsigned_toDigits atEnd true n h
  refine ⟨Nat.lt_succ_of_lt h', ?_⟩
  rw [read, hread]
  rfl

end Numeral

/-! ### Values without brackets -/

/-- The words that are values. -/
def wordValues : List (Char × List Char × Json) :=
  [('n', ['u', 'l', 'l'], .null), ('t', ['r', 'u', 'e'], .bool true),
    ('f', ['a', 'l', 's', 'e'], .bool false)]

theorem reads_word {c : Char} {letters : List Char} {x : Json} (h : (c, letters, x) ∈ wordValues) :
    Reads readScalar (c :: letters) x := by
  have hstart : ∀ w ∈ wordValues, isBlank w.1 = false ∧ w.1 ≠ ']' := by decide
  obtain ⟨hblank, hbracket⟩ := hstart _ h
  refine ⟨⟨c, letters, rfl, hblank, hbracket⟩, fun rest _ => ?_⟩
  have hshorter : rest.length < (c :: (letters ++ rest)).length := by
    rw [List.length_cons, List.length_append]
    omega
  refine ⟨hshorter, ?_⟩
  change readScalar (c :: (letters ++ rest)) = _
  unfold readScalar
  split
  · rename_i hskip
    rw [skipBlanks_cons hblank] at hskip
    cases hskip
  · rename_i d rest' hskip
    rw [skipBlanks_cons hblank] at hskip
    obtain ⟨rfl, rfl⟩ := List.cons.inj hskip
    simp only [wordValues, List.mem_cons, Prod.mk.injEq, List.not_mem_nil, or_false] at h
    rcases h with ⟨rfl, rfl, rfl⟩ | ⟨rfl, rfl, rfl⟩ | ⟨rfl, rfl, rfl⟩ <;>
      simp [readWord, Except.map]

theorem reads_string_value (s : String) : Reads readScalar (writeString s).toList (.string s) := by
  rw [toList_writeString]
  refine ⟨⟨'"', _, rfl, rfl, by decide⟩, fun rest _ => ?_⟩
  have htext : '"' :: (s.toList.flatMap escapeChar ++ ['"']) ++ rest =
      '"' :: (s.toList.flatMap escapeChar ++ '"' :: rest) := by simp
  obtain ⟨h, hbody⟩ := readStringBody_escaped s rest
  rw [htext]
  refine ⟨Nat.lt_succ_of_lt h, ?_⟩
  unfold readScalar
  split
  · rename_i hskip
    cases hskip
  · rename_i c rest' hskip
    obtain ⟨rfl, rfl⟩ := List.cons.inj hskip
    simp [hbody, Except.map]

theorem ne_of_numeral {c d : Char} (hc : c = '-' ∨ c.isDigit = true) (hminus : '-' ≠ d)
    (hd : d.isDigit = false) : c ≠ d := by
  rintro rfl
  rcases hc with rfl | hc
  · exact hminus rfl
  · rw [hd] at hc
    cases hc

theorem isBlank_of_numeral {c : Char} (hc : c = '-' ∨ c.isDigit = true) : isBlank c = false := by
  have hspace := ne_of_numeral hc (d := ' ') (by decide) rfl
  have hline := ne_of_numeral hc (d := '\n') (by decide) rfl
  have htab := ne_of_numeral hc (d := '\t') (by decide) rfl
  have hreturn := ne_of_numeral hc (d := '\r') (by decide) rfl
  simp [isBlank, hspace, hline, htab, hreturn]

theorem readScalar_numeral {c : Char} {cs rest : List Char} (hc : c = '-' ∨ c.isDigit = true)
    {x : Numeral} {n : JsonNumber} (hx : x.value? = some n)
    (h : ∃ h', Numeral.read .cutShort (c :: cs) = .ok ⟨x, rest, h'⟩) :
    ∃ h', readScalar (c :: cs) = .ok ⟨.number n, rest, h'⟩ := by
  obtain ⟨h', hread⟩ := h
  have hblank := isBlank_of_numeral hc
  have hn := ne_of_numeral hc (d := 'n') (by decide) rfl
  have ht := ne_of_numeral hc (d := 't') (by decide) rfl
  have hf := ne_of_numeral hc (d := 'f') (by decide) rfl
  have hquote := ne_of_numeral hc (d := '"') (by decide) rfl
  refine ⟨h', ?_⟩
  unfold readScalar
  split
  · rename_i hskip
    rw [skipBlanks_cons hblank] at hskip
    cases hskip
  · rename_i d rest' hskip
    rw [skipBlanks_cons hblank] at hskip
    obtain ⟨rfl, rfl⟩ := List.cons.inj hskip
    simp only [if_neg hn, if_neg ht, if_neg hf, if_neg hquote, if_pos hc, hread, hx]

/-- Every whole number that fits a signed or an unsigned machine word is read as it is. -/
theorem reads_whole {n : ℤ} (hlow : -(Text.wordBound / 2 : ℕ) ≤ n) (hhigh : n < Text.wordBound) :
    Reads readScalar (toString n).toList (.number (.whole n)) := by
  cases n with
  | ofNat n =>
    have hword : n < Text.wordBound := Int.ofNat_lt.1 hhigh
    have htext : (toString (Int.ofNat n)).toList = Nat.toDigits 10 n := by
      change (toString n).toList = _
      rw [Nat.toString_eq_ofList_toDigits, String.toList_ofList]
    rw [htext]
    cases hdigits : Nat.toDigits 10 n with
    | nil => exact absurd hdigits Nat.toDigits_ne_nil
    | cons c cs =>
      have hc : c.isDigit = true := isDigit_of_mem_toDigits (hdigits ▸ List.mem_cons_self)
      have hbracket := ne_of_numeral (.inr hc) (d := ']') (by decide) rfl
      refine ⟨⟨c, cs, rfl, isBlank_of_numeral (.inr hc), hbracket⟩, fun rest hrest => ?_⟩
      apply readScalar_numeral (.inr hc) (Numeral.value?_ofNat hword)
      have hread := Numeral.read_nat .cutShort n hrest
      rwa [hdigits] at hread
  | negSucc n =>
    have hhalf : n + 1 ≤ Text.wordBound / 2 := by
      rw [Int.negSucc_eq] at hlow
      omega
    have htext : (toString (Int.negSucc n)).toList = '-' :: Nat.toDigits 10 (n + 1) := by
      change ("-" ++ toString (n + 1)).toList = _
      rw [Nat.toString_eq_ofList_toDigits, String.toList_append, String.toList_ofList,
        String.toList_ofList]
      rfl
    have hvalue := Numeral.value?_ofNat_negative (Nat.succ_ne_zero n) hhalf
    rw [htext, Int.negSucc_eq]
    refine ⟨⟨'-', _, rfl, rfl, by decide⟩, fun rest hrest => ?_⟩
    exact readScalar_numeral (.inl rfl) hvalue (Numeral.read_negative .cutShort (n + 1) hrest)

theorem Reads.ne_bracket {c : Char} {cs : List Char} {x : Json}
    (h : Reads readScalar (c :: cs) x) : c ≠ '[' ∧ c ≠ '\x7b' := by
  have hfails {d : Char} (hd : d = '[' ∨ d = '\x7b') (text : List Char) :
      readScalar (d :: text) = .error .malformed := by
    rcases hd with rfl | rfl <;> rfl
  obtain ⟨h', hfound⟩ := h.found [] nofun
  change readScalar (c :: (cs ++ [])) = _ at hfound
  constructor
  · rintro rfl
    cases (hfails (.inl rfl) (cs ++ [])).symm.trans hfound
  · rintro rfl
    cases (hfails (.inr rfl) (cs ++ [])).symm.trans hfound

theorem Reads.eq_null {cs : List Char} {x : Json} (h : Reads readScalar ('n' :: cs) x) :
    x = .null := by
  obtain ⟨h', hfound⟩ := h.found [] nofun
  have hword : ∃ r, (readWord ['u', 'l', 'l'] (cs ++ [])).map r =
      (.ok ⟨x, [], h'⟩ : Except Fault (Found Json ('n' :: cs ++ []))) ∧ ∀ y, (r y).value = .null :=
    ⟨_, hfound, fun _ => rfl⟩
  obtain ⟨r, hread, hvalue⟩ := hword
  cases hletters : readWord ['u', 'l', 'l'] (cs ++ []) with
  | error e =>
    rw [hletters] at hread
    cases hread
  | ok y =>
    rw [hletters] at hread
    rw [← hvalue y, Except.ok.inj hread]

end Pipework.Json
