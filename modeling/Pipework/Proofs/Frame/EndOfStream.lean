import Pipework.Frame.Receiver
import Pipework.Proofs.Frame.Ending
import Pipework.Proofs.Frame.Received

/-! What the octets mean that are left when a stream ends. Nothing at all is the clean end. Octets
without a blank line are a frame cut short within its header block; behind a whole header block the
frame is cut short within its body, and it is known how much is missing. -/

namespace Pipework.Frame

open Text

/-- One of the lines that have ended in the buffer is empty, or a lone carriage return. -/
def HasBlankLine (buffer : Bytes) : Prop :=
  ∃ before blank rest, buffer = before ++ (blank ++ lineFeed :: rest) ∧
    (before = [] ∨ before.getLast? = some lineFeed) ∧ (blank = [] ∨ blank = [carriageReturn])

variable {limits : Limits} {buffer line rest : Bytes}

theorem line_eq_of_append_eq {line' rest' : Bytes} (hf : lineFeed ∉ line) (hf' : lineFeed ∉ line')
    (h : line ++ lineFeed :: rest = line' ++ lineFeed :: rest') : line = line' ∧ rest = rest' := by
  have hsplit := splitLine?_append hf rest
  rw [h, splitLine?_append hf' rest'] at hsplit
  obtain ⟨rfl, rfl⟩ := Prod.mk.inj (Option.some.inj hsplit)
  exact ⟨rfl, rfl⟩

/-- A blank line behind a line that is not blank is found in what is behind that line. -/
theorem HasBlankLine.behind_line (hf : lineFeed ∉ line)
    (hne : ¬(line = [] ∨ line = [carriageReturn]))
    (h : HasBlankLine (line ++ lineFeed :: rest)) : HasBlankLine rest := by
  obtain ⟨before, blank, later, he, hbefore, hblank⟩ := h
  have hfb : lineFeed ∉ blank := by
    rcases hblank with rfl | rfl <;> decide
  rcases hbefore with rfl | hlast
  · -- the blank line would be the first one
    rw [List.nil_append] at he
    exact absurd hblank ((line_eq_of_append_eq hf hfb he).1 ▸ hne)
  · obtain ⟨first, middle, rfl, hfirst⟩ :=
      List.eq_append_cons_of_mem (List.mem_of_getLast? hlast)
    rw [List.append_assoc, List.cons_append] at he
    refine ⟨middle, blank, later, (line_eq_of_append_eq hf hfirst he).2, ?_, hblank⟩
    cases middle with
    | nil => exact Or.inl rfl
    | cons b bs =>
      rw [List.getLast?_append, List.getLast?_cons_cons] at hlast
      simpa using hlast

/-- A buffer with a blank line starts with a header block, which ends at the first of them. -/
theorem hasBlankLine_iff :
    HasBlankLine buffer ↔ ∃ raws blank rest, StartsWith buffer raws blank rest := by
  constructor
  · intro h
    -- the first line may not be the blank one, and then the buffer behind it is shorter
    induction hn : buffer.length using Nat.strong_induction_on generalizing buffer with
    | _ n ih =>
      have hmem : lineFeed ∈ buffer := by
        obtain ⟨before, blank, later, rfl, -⟩ := h
        simp
      obtain ⟨line, rest, rfl, hf⟩ := List.eq_append_cons_of_mem hmem
      by_cases hblank : line = [] ∨ line = [carriageReturn]
      · refine ⟨[], line, rest, ?_, hblank, fun _ hm => nomatch hm⟩
        simp [blockOf]
      · have hshort : rest.length < n := by
          rw [← hn, List.length_append, List.length_cons]
          omega
        obtain ⟨raws, blank, later, hrest⟩ := ih _ hshort (h.behind_line hf hblank) rfl
        refine ⟨line :: raws, blank, later, ?_, hrest.blank, ?_⟩
        · rw [blockOf_cons, hrest.buffer_eq, List.append_assoc, List.cons_append]
        · exact List.forall_mem_cons.2 ⟨⟨hf, not_or.1 hblank⟩, hrest.line⟩
  · rintro ⟨raws, blank, rest, rfl, hblank, -⟩
    refine ⟨raws.flatMap (· ++ [lineFeed]), blank, rest, by simp [blockOf], ?_, hblank⟩
    rcases List.eq_nil_or_concat raws with rfl | ⟨init, last, rfl⟩
    · exact Or.inl rfl
    · right
      simp

theorem splitHead?_eq_none_iff : splitHead? buffer = none ↔ ¬HasBlankLine buffer := by
  rw [hasBlankLine_iff]
  constructor
  · rintro h ⟨raws, blank, rest, hb⟩
    have hsome := splitHead?_eq_some_iff.2 ⟨raws, blank, hb, rfl⟩
    rw [h] at hsome
    cases hsome
  · intro h
    rw [Option.eq_none_iff_forall_ne_some]
    rintro ⟨lines, rest⟩ hs
    obtain ⟨raws, blank, hb, -⟩ := splitHead?_eq_some_iff.1 hs
    exact h ⟨raws, blank, rest, hb⟩

theorem cutShort_of_no_blank (h : ¬HasBlankLine buffer) :
    cutShort limits buffer = .unexpectedEnd := by
  rw [cutShort, splitHead?_eq_none_iff.2 h]

/-- The header block is read a second time, and says the same. -/
theorem StartsWithHead.cutShort_eq {raws : List Bytes} {blank : Bytes} {head : FrameHead}
    (h : StartsWithHead limits buffer raws blank head rest) :
    cutShort limits buffer = .truncatedBody head.contentLength rest.length := by
  have hs := splitHead?_eq_some_iff.2 ⟨raws, blank, h.block, rfl⟩
  rw [cutShort, hs]
  simp only [h.lines]

/-- What is left of a stream that has ended is the clean end if it is nothing, and otherwise what
the decoder finds in it, a frame or an error. If it finds neither, the frame is cut short: within
the header block if there is no blank line, else within the body, which then has fewer octets than
the block says. An error takes nothing from the buffer, and no frame has a body shorter than its
header block says. -/
theorem end_classified (limits : Limits) (buffer : Bytes) :
    (decodeLast limits buffer = .error .connectionClosed ↔ buffer = []) ∧
    (∀ f rest, decode limits buffer = .ok (some (f, rest)) →
      decodeLast limits buffer = .ok (f, rest)) ∧
    (∀ e, decode limits buffer = .error e → decodeLast limits buffer = .error e) ∧
    (buffer ≠ [] → decode limits buffer = .ok none →
      (decodeLast limits buffer = .error .unexpectedEnd ↔ ¬HasBlankLine buffer) ∧
      (HasBlankLine buffer → ∃ raws blank rest, ∃ lines : List String, ∃ text n,
        StartsWith buffer raws blank rest ∧ raws.map dropReturn = lines.map toBytes ∧
        FieldLines.finalValue? lines FieldName.contentLengthName = some text ∧
        FrameHead.IsNumeral text n ∧
        decodeLast limits buffer = .error (.truncatedBody n rest.length) ∧
        rest.length < n ∧ n ≤ limits.maxBody)) ∧
    (∀ source e, decodeLast limits buffer = .error e →
      FrameReceiver.finish ⟨source, buffer, limits⟩ = (.error e, ⟨source, buffer, limits⟩)) ∧
    ∀ f rest, decodeLast limits buffer = .ok (f, rest) →
      ∃ raws blank, ∃ lines : List String, ∃ text,
        StartsWith buffer raws blank (f.body ++ rest) ∧ raws.map dropReturn = lines.map toBytes ∧
        FieldLines.finalValue? lines FieldName.contentLengthName = some text ∧
        FrameHead.IsNumeral text f.body.length := by
  refine ⟨decodeLast_eq_closed_iff, fun f rest => decodeLast_of_frame,
    fun e => decodeLast_of_error, fun hne hnone => ?_, fun source e he => ?_, fun f rest hf => ?_⟩
  · have hlast := decodeLast_of_none hne hnone
    rcases decode_eq_none_iff.1 hnone with ⟨hs, -⟩ | ⟨raws, blank, head, rest, hhead, -, hshort⟩
    · have hblank := splitHead?_eq_none_iff.1 hs
      rw [hlast, cutShort_of_no_blank hblank]
      exact ⟨iff_of_true rfl hblank, fun h => absurd h hblank⟩
    · have hblank : HasBlankLine buffer := hasBlankLine_iff.2 ⟨raws, blank, rest, hhead.block⟩
      obtain ⟨lines, hlines, -, hd, hmax, -⟩ := hhead.exists_lines
      obtain ⟨text, htext, hnum⟩ := hd.length
      rw [hlast, hhead.cutShort_eq]
      refine ⟨iff_of_false (fun he => nomatch he) (not_not_intro hblank), fun _ => ?_⟩
      exact ⟨raws, blank, rest, lines, text, head.contentLength, hhead.block, hlines, htext, hnum,
        rfl, hshort, hmax⟩
  · unfold FrameReceiver.finish
    simp only [he]
  · obtain ⟨raws, blank, head, hstart⟩ := decode_eq_frame_iff.1 (decodeLast_eq_ok_iff.1 hf)
    obtain ⟨lines, hlines, -, hd, -⟩ := hstart.exists_lines
    obtain ⟨text, htext, hnum⟩ := hd.length
    rw [← hstart.length] at hnum
    exact ⟨raws, blank, lines, text, hstart.block, hlines, htext, hnum⟩

/-- A frame that is cut between the return and the line feed of its blank line, and one that is cut
within its body. -/
theorem end_classified_of_cut :
    let header := toBytes "Type: a.b\r\nContent-Length: 5\r\n\r"
    let body := header ++ toBytes "\nhel"
    (header ≠ [] ∧ decode {} header = .ok none ∧
      decodeLast {} header = .error .unexpectedEnd) ∧
    body ≠ [] ∧ decode {} body = .ok none ∧ HasBlankLine body ∧
      decodeLast {} body = .error (.truncatedBody 5 3) ∧
      ∀ source, FrameReceiver.finish ⟨source, body, {}⟩ =
        (.error (.truncatedBody 5 3), ⟨source, body, {}⟩) := by
  intro header body
  have hheader : header ≠ [] := by decide
  have hbody : body ≠ [] := by decide
  have hnone : decode {} header = .ok none := by decide +kernel
  have hnone' : decode {} body = .ok none := by decide +kernel
  have hno : ¬HasBlankLine header := splitHead?_eq_none_iff.1 (by decide +kernel)
  have hblank : HasBlankLine body :=
    ⟨toBytes "Type: a.b\r\nContent-Length: 5\r\n", [carriageReturn], toBytes "hel",
      by decide, Or.inr (by decide), Or.inr rfl⟩
  have hlast : decodeLast {} body = .error (.truncatedBody 5 3) := by decide +kernel
  obtain ⟨-, -, -, hcut, -⟩ := end_classified {} header
  obtain ⟨-, -, -, -, hsame, -⟩ := end_classified {} body
  exact ⟨⟨hheader, hnone, (hcut hheader hnone).1.2 hno⟩, hbody, hnone', hblank, hlast,
    fun source => hsame source _ hlast⟩

end Pipework.Frame
