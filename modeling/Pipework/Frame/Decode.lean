import Pipework.Frame.Head

/-!
Reading frames from the front of a buffer. `decode` takes one frame or asks for more octets; what it
does not take stays as it is. `decodeLast` also knows that no more octets will come.
-/

namespace Pipework.Frame

/-- The bound of the octets that one buffer can hold: half of what a word can count. -/
def memoryBound : Nat := Text.wordBound / 2

/-- The first frame of a buffer and what comes after it, or nothing if the frame is not complete.
A header block over its limit is refused even before its end has been seen. -/
def decode (limits : Limits) (buffer : Bytes) : Except FrameError (Option (Frame × Bytes)) :=
  match splitHead? buffer with
  | none =>
    -- a block that has no end yet can only grow
    if buffer.length > limits.maxHeader then .error (.headerTooLarge limits.maxHeader) else .ok none
  | some (lines, rest) =>
    if buffer.length - rest.length > limits.maxHeader then
      .error (.headerTooLarge limits.maxHeader)
    else match FrameHead.ofLines limits lines with
      | .error e => .error e
      | .ok head =>
        -- room for the whole frame is asked for at once, and nobody has so much
        if buffer.length - rest.length + head.contentLength ≥ memoryBound then
          .error .unaddressable
        else if rest.length < head.contentLength then .ok none
        else .ok (some (head.toFrame (rest.take head.contentLength),
          rest.drop head.contentLength))

/-- Why an incomplete frame is all that is left of a stream. -/
def cutShort (limits : Limits) (buffer : Bytes) : FrameError :=
  match splitHead? buffer with
  | none => .unexpectedEnd
  | some (lines, rest) =>
    match FrameHead.ofLines limits lines with
    | .ok head => .truncatedBody head.contentLength rest.length
    | .error e => e

/-- The first frame of a buffer that will not grow any more. An empty buffer is a clean end. -/
def decodeLast (limits : Limits) (buffer : Bytes) : Except FrameError (Frame × Bytes) :=
  if buffer.isEmpty then .error .connectionClosed
  else match decode limits buffer with
    | .error e => .error e
    | .ok (some taken) => .ok taken
    | .ok none => .error (cutShort limits buffer)

/-- The next frame of a buffer that will not grow any more, or nothing at the clean end. -/
def decodeEnd (limits : Limits) (buffer : Bytes) : Except FrameError (Option (Frame × Bytes)) :=
  match decodeLast limits buffer with
  | .ok taken => .ok (some taken)
  | .error .connectionClosed => .ok none
  | .error e => .error e

theorem length_lt_of_splitHead? {bs rest : Bytes} {lines : List Bytes}
    (h : splitHead? bs = some (lines, rest)) : rest.length < bs.length := by
  fun_induction splitHead? bs generalizing lines rest with
  | case1 => cases h
  | case2 _ _ _ _ hlt _ =>
    obtain ⟨-, rfl⟩ := Prod.mk.inj (Option.some.inj h)
    exact hlt
  | case3 _ _ _ _ hlt _ ih =>
    obtain ⟨⟨ls, body⟩, hb, he⟩ := Option.map_eq_some_iff.1 h
    obtain ⟨-, rfl⟩ := Prod.mk.inj he
    exact Nat.lt_trans (ih hb) hlt

theorem length_lt_of_decode {limits : Limits} {buffer rest : Bytes} {f : Frame}
    (h : decode limits buffer = .ok (some (f, rest))) : rest.length < buffer.length := by
  unfold decode at h
  split at h
  · split at h <;> cases h
  · rename_i lines body hs
    have hlt := length_lt_of_splitHead? hs
    repeat' split at h
    all_goals simp only [Except.ok.injEq, Option.some.injEq, Prod.mk.injEq, reduceCtorEq] at h
    obtain ⟨-, rfl⟩ := h
    simp only [List.length_drop]
    omega

theorem length_lt_of_decodeEnd {limits : Limits} {buffer rest : Bytes} {f : Frame}
    (h : decodeEnd limits buffer = .ok (some (f, rest))) : rest.length < buffer.length := by
  unfold decodeEnd decodeLast at h
  by_cases hb : buffer.isEmpty
  · simp [hb] at h
  · simp only [hb, Bool.false_eq_true, if_false] at h
    rcases hd : decode limits buffer with e | _ | ⟨g, r⟩
    · rw [hd] at h
      cases e <;> cases h
    · rw [hd] at h
      cases hc : cutShort limits buffer <;> simp [hc] at h
    · rw [hd] at h
      simp only [Except.ok.injEq, Option.some.injEq, Prod.mk.injEq] at h
      obtain ⟨-, rfl⟩ := h
      exact length_lt_of_decode hd

structure Decoded where
  frames : List Frame
  failure : Option FrameError
  rest : Bytes

/-- Takes frames from a buffer until `step` gives none or fails; a failing step takes nothing. -/
def takeWith (step : Bytes → Except FrameError (Option (Frame × Bytes)))
    (shorter : ∀ {b f r}, step b = .ok (some (f, r)) → r.length < b.length) (buffer : Bytes) :
    Decoded :=
  match h : step buffer with
  | .error e => ⟨[], some e, buffer⟩
  | .ok none => ⟨[], none, buffer⟩
  | .ok (some (f, rest)) =>
    have := shorter h
    let later := takeWith step shorter rest
    { later with frames := f :: later.frames }
termination_by buffer.length

/-- All complete frames at the front of a buffer. -/
def decodeAll (limits : Limits) (buffer : Bytes) : Decoded :=
  takeWith (decode limits) length_lt_of_decode buffer

def decodeEndAll (limits : Limits) (buffer : Bytes) : Decoded :=
  takeWith (decodeEnd limits) length_lt_of_decodeEnd buffer

end Pipework.Frame
