import Mathlib.Data.Nat.Digits.Defs
import Pipework.Proofs.Frame.Grammar
import Pipework.Proofs.Frame.Stream

/-! How long a frame is. The decoder adds the length that a header block announces to the length of
the block. While a buffer can hold so many octets, comparing the sum with those at hand is exact, and
the decoder waits. Beyond that it cannot have the room that it asks for, and beyond the last machine
word the sum itself is wrong. How large a sum can be is a matter of the limits alone. -/

namespace Pipework.Frame

open Text

variable {limits : Limits} {buffer rest : Bytes} {lines : List Bytes} {head : FrameHead}

/-- Under these limits every frame that is announced has fewer octets than the bound. -/
def LengthsBelow (limits : Limits) (bound : ℕ) : Prop :=
  ∀ buffer raws blank head rest, StartsWithHead limits buffer raws blank head rest →
    (blockOf raws blank).length + head.contentLength < bound

theorem exists_startsWithHead (hs : splitHead? buffer = some (lines, rest))
    (hl : FrameHead.ofLines limits lines = .ok head)
    (hsize : buffer.length - rest.length ≤ limits.maxHeader) : ∃ raws blank,
      StartsWithHead limits buffer raws blank head rest ∧
        (blockOf raws blank).length = buffer.length - rest.length := by
  obtain ⟨raws, blank, hb, rfl⟩ := splitHead?_eq_some_iff.1 hs
  have hlen : (blockOf raws blank).length = buffer.length - rest.length := by
    rw [hb.buffer_eq, List.length_append, Nat.add_sub_cancel]
  exact ⟨raws, blank, ⟨hb, hl, hlen ▸ hsize⟩, hlen⟩

theorem length_toBytes_of_digits {text : String} (h : ∀ c ∈ text.toList, c.isDigit = true) :
    (toBytes text).length = text.toList.length := by
  have hone : ∀ c ∈ text.toList, (String.utf8EncodeChar c).length = 1 := by
    intro c hc
    rw [String.length_utf8EncodeChar, Char.utf8Size_eq_one_iff]
    have hd := h c hc
    simp only [Char.isDigit, Bool.and_eq_true, decide_eq_true_eq] at hd
    exact UInt32.le_trans hd.2 (by decide)
  rw [toBytes_eq_flatMap, List.length_flatMap, List.map_congr_left hone]
  simp

theorem length_fieldLine (name value : String) :
    (fieldLine name value).length = (toBytes name).length + (toBytes value).length + 4 := by
  have hsep : (toBytes ": ").length = 2 := by decide
  have hend : (toBytes "\r\n").length = 2 := by decide
  simp only [fieldLine, toBytes_append, List.length_append, hsep, hend]
  omega

/-- There are frames with a body and a header block of any length, from the least one on. -/
theorem exists_writable_of_length {body block : ℕ} (hbody : body < 2 ^ 64) (hblock : 75 ≤ block) :
    ∃ f : Frame, Writable f ∧ f.body.length = body ∧ f.headerBlock.length = block := by
  have hdigits : (toBytes (toString body)).length ≤ 20 := by
    rw [length_toBytes_of_digits fun _ => isDigit_of_mem_toString,
      Nat.toString_eq_ofList_toDigits, String.toList_ofList]
    exact Nat.toDigits_length 10 body 20 (by decide) (hbody.trans (by decide))
  -- the name of the port takes up what is left of the block
  let port := String.ofList (List.replicate (block - 55 - (toBytes (toString body)).length) '0')
  have hport : ∀ c ∈ port.toList, c.isDigit = true := by
    intro c hc
    rw [String.toList_ofList] at hc
    rw [List.eq_of_mem_replicate hc]
    rfl
  have hlen : (toBytes port).length = block - 55 - (toBytes (toString body)).length := by
    rw [length_toBytes_of_digits hport, String.toList_ofList, List.length_replicate]
  refine ⟨{ category := "a", subtype := "b", port := port, body := List.replicate body 0 },
    ?_, List.length_replicate, ?_⟩
  · exact ⟨(by decide : isTypePair "a" "b" = true), (by decide : isFieldValue "a" = true),
      (by decide : isFieldValue "b" = true), nofun, nofun, isFieldValue_of_digits hport,
      (by decide : isFieldValue "" = true)⟩
  · have htype : (toBytes FieldName.typeName).length = 4 := by decide
    have hname : (toBytes FieldName.portName).length = 4 := by decide
    have hct : (toBytes FieldName.contentTypeName).length = 12 := by decide
    have hcl : (toBytes FieldName.contentLengthName).length = 14 := by decide
    have hpair : (toBytes ("a" ++ "." ++ "b")).length = 3 := by decide
    have hempty : (toBytes "").length = 0 := by decide
    have hend : (toBytes "\r\n").length = 2 := by decide
    have hnone : NameMap.entries (∅ : NameMap String) = [] := rfl
    simp only [headerBlock, fields, typeHeader, hnone, List.append_nil, List.flatMap_cons,
      List.flatMap_nil, List.length_append, length_fieldLine, htype, hname, hct, hcl, hpair,
      hempty, hend, hlen, List.length_replicate]
    omega

/-- A sum that goes beyond the last word comes out small, and the octets at hand seem enough. -/
theorem StartsWithHead.wraps {raws : List Bytes} {blank : Bytes}
    (h : StartsWithHead limits buffer raws blank head rest)
    (htotal : 2 ^ 64 ≤ (blockOf raws blank).length + head.contentLength)
    (hbuffer : buffer.length < 2 ^ 64) :
    ((blockOf raws blank).length + head.contentLength) % 2 ^ 64 ≤ buffer.length ∧
      rest.length < head.contentLength := by
  have hlen := h.length_eq
  have hword : head.contentLength < 2 ^ 64 := h.contentLength_le.2
  have hblock : (blockOf raws blank).length < 2 ^ 64 := by omega
  -- both parts of the sum are below the word, so it wraps once
  have hmod : ((blockOf raws blank).length + head.contentLength) % 2 ^ 64 =
      (blockOf raws blank).length + head.contentLength - 2 ^ 64 := by
    rw [Nat.mod_eq_sub_mod htotal]
    exact Nat.mod_eq_of_lt (by omega)
  rw [hmod]
  omega

theorem lengthsBelow_of_limits {bound : ℕ}
    (h : limits.maxHeader + min limits.maxBody (2 ^ 64 - 1) < bound) :
    LengthsBelow limits bound := by
  intro buffer raws blank head rest hs
  have hheader := hs.header
  have hmax := hs.contentLength_le.1
  have hword : head.contentLength < 2 ^ 64 := hs.contentLength_le.2
  omega

/-- Limits that admit the header block of a long frame admit one that is as long as they say. -/
theorem limits_of_lengthsBelow {bound : ℕ} (hheader : 75 ≤ limits.maxHeader)
    (hbelow : LengthsBelow limits bound) :
    limits.maxHeader + min limits.maxBody (2 ^ 64 - 1) < bound := by
  have hbody : min limits.maxBody (2 ^ 64 - 1) < 2 ^ 64 := by omega
  -- the header block is as large as its limit, and the body as large as can be announced
  obtain ⟨f, hf, hlen, hblock⟩ := exists_writable_of_length hbody hheader
  have hlines : FrameHead.ofLines limits (f.fields.map fun e => toBytes (fieldText e)) =
      .ok f.toHead := by
    rw [ofLines_wire hf (hlen ▸ hbody), if_neg]
    omega
  have hs := splitHead?_headerBlock hf []
  rw [List.append_nil] at hs
  obtain ⟨raws, blank, hstart, hsame⟩ := exists_startsWithHead hs hlines (by simp [hblock])
  have htotal := hbelow _ _ _ _ _ hstart
  have hcontent : f.toHead.contentLength = f.body.length := rfl
  rwa [hsame, hcontent, hlen, List.length_nil, Nat.sub_zero, hblock] at htotal

/-- The head that announces the largest of all lengths. -/
theorem startsWithHead_of_largest : StartsWithHead { maxBody := 2 ^ 64 - 1 }
    (toBytes "Type: a.b\r\nContent-Length: 18446744073709551615\r\n\r\n")
    [toBytes "Type: a.b\r", toBytes "Content-Length: 18446744073709551615\r"] [carriageReturn]
    ⟨"a", "b", "", "", ∅, 2 ^ 64 - 1⟩ [] := by
  refine ⟨⟨by decide, Or.inr rfl, by decide⟩, rfl, by decide⟩

/-- While a buffer has room for the block and the length it announces, the decoder waits for just the
octets that are missing, and takes the body from within the buffer. For a longer frame it cannot go
on: up to the last machine word the sum is still right, but nobody has the room that is asked for;
behind it the sum modulo the word would make the decoder take octets that are not there. The limits
decide how long a frame can be, if the shortest header block with a length of twenty digits that the
encoder writes, which has 75 octets, is within them. -/
theorem frame_length_exact (limits : Limits) :
    (∀ buffer raws blank head rest, StartsWithHead limits buffer raws blank head rest →
      let total := (blockOf raws blank).length + head.contentLength
      (total < 2 ^ 63 →
        (decode limits buffer = .ok none ↔ buffer.length < total) ∧
        (total ≤ buffer.length → ∃ body later, rest = body ++ later ∧
          body.length = head.contentLength ∧
          decode limits buffer = .ok (some (head.toFrame body, later)))) ∧
      (2 ^ 63 ≤ total → decode limits buffer = .error .unaddressable) ∧
      (2 ^ 64 ≤ total → buffer.length < 2 ^ 64 →
        total % 2 ^ 64 ≤ buffer.length ∧ rest.length < head.contentLength)) ∧
    ∀ bound, (limits.maxHeader + min limits.maxBody (2 ^ 64 - 1) < bound →
        LengthsBelow limits bound) ∧
      (75 ≤ limits.maxHeader → LengthsBelow limits bound →
        limits.maxHeader + min limits.maxBody (2 ^ 64 - 1) < bound) := by
  refine ⟨fun buffer raws blank head rest h => ?_,
    fun bound => ⟨lengthsBelow_of_limits, limits_of_lengthsBelow⟩⟩
  intro total
  have hbuffer := h.length_eq
  have hdecode : decode limits buffer = if total ≥ 2 ^ 63 then .error .unaddressable
      else if rest.length < head.contentLength then .ok none
      else .ok (some (head.toFrame (rest.take head.contentLength),
        rest.drop head.contentLength)) := h.decode_eq
  refine ⟨fun hroom => ?_, fun hlong => by rw [hdecode, if_pos hlong], h.wraps⟩
  rw [if_neg (Nat.not_le.2 hroom)] at hdecode
  by_cases hshort : rest.length < head.contentLength
  · rw [if_pos hshort] at hdecode
    exact ⟨⟨fun _ => by omega, fun _ => hdecode⟩, fun hfull => absurd hfull (by omega)⟩
  · rw [if_neg hshort] at hdecode
    refine ⟨⟨fun hnone => ?_, fun hlt => absurd hlt (by omega)⟩, fun _ => ?_⟩
    · cases hdecode.symm.trans hnone
    · exact ⟨_, _, (List.take_append_drop head.contentLength rest).symm,
        List.length_take_of_le (Nat.not_lt.1 hshort), hdecode⟩

/-- A body that is all there with octets behind it, a length that no buffer has room for, and a
length beyond the last word. -/
theorem frame_length_exact_of_ends :
    let small := toBytes "Type: a.b\r\nContent-Length: 2\r\n\r\nhello"
    let large := toBytes "Type: a.b\r\nContent-Length: 9223372036854775808\r\n\r\n"
    let largest := toBytes "Type: a.b\r\nContent-Length: 18446744073709551615\r\n\r\n"
    let limits : Limits := { maxBody := 2 ^ 64 - 1 }
    let f : Frame := { category := "a", subtype := "b", body := toBytes "he" }
    decode {} small = .ok (some (f, toBytes "llo")) ∧ LengthsBelow {} (2 ^ 63) ∧
      decode limits large = .error .unaddressable ∧
      decode limits largest = .error .unaddressable ∧ ¬LengthsBelow limits (2 ^ 64) := by
  intro small large largest limits f
  obtain ⟨hdecode, hbelow⟩ := frame_length_exact {}
  obtain ⟨hdecode', hbelow'⟩ := frame_length_exact limits
  have hsmall : StartsWithHead {} small [toBytes "Type: a.b\r", toBytes "Content-Length: 2\r"]
      [carriageReturn] ⟨"a", "b", "", "", ∅, 2⟩ (toBytes "hello") :=
    ⟨⟨by decide, Or.inr rfl, by decide⟩, rfl, by decide⟩
  have hlarge : StartsWithHead limits large
      [toBytes "Type: a.b\r", toBytes "Content-Length: 9223372036854775808\r"] [carriageReturn]
      ⟨"a", "b", "", "", ∅, 2 ^ 63⟩ [] :=
    ⟨⟨by decide, Or.inr rfl, by decide⟩, rfl, by decide⟩
  obtain ⟨body, later, hrest, hlen, htaken⟩ :=
    ((hdecode _ _ _ _ _ hsmall).1 (by decide)).2 (by decide)
  obtain ⟨rfl, rfl⟩ : toBytes "he" = body ∧ toBytes "llo" = later :=
    List.append_inj hrest hlen.symm
  refine ⟨htaken, (hbelow _).1 (by decide), ?_, ?_, fun h => ?_⟩
  · exact (hdecode' _ _ _ _ _ hlarge).2.1 (by decide)
  · exact (hdecode' _ _ _ _ _ startsWithHead_of_largest).2.1 (by decide)
  · exact absurd ((hbelow' _).2 (by decide) h) (by decide)

/-- A length that is within its limit and yet ends beyond the last word, at a whole header block.
Modulo the word the frame would be shorter than the buffer. -/
theorem length_wraps :
    let limits : Limits := { maxBody := 2 ^ 64 - 1 }
    let buffer := toBytes "Type: a.b\r\nContent-Length: 18446744073709551615\r\n\r\n"
    ∃ raws blank head rest, StartsWithHead limits buffer raws blank head rest ∧
      2 ^ 64 ≤ (blockOf raws blank).length + head.contentLength ∧
      ((blockOf raws blank).length + head.contentLength) % 2 ^ 64 < buffer.length ∧
      rest.length < head.contentLength ∧ decode limits buffer = .error .unaddressable :=
  ⟨_, _, _, _, startsWithHead_of_largest, by decide, by decide, by decide, by decide +kernel⟩

end Pipework.Frame
