import Pipework.Frame.Decode

/-!
Receiving frames from a stream. A source hands out octets in pieces of its own choosing and may fail
in between; a reader keeps what it has not used yet. No frame is handed out before its whole body
has arrived, and nothing is read while a whole frame is at hand.
-/

namespace Pipework

inductive Delivery where
  | octets (bs : Bytes)
  | failure (cause : IoError)
deriving DecidableEq, Repr

/-- A stream: what its reading operations will yield, and how many there have been. When nothing is
left every further one yields no octets. -/
structure Source where
  deliveries : List Delivery
  reads : Nat := 0
deriving DecidableEq, Repr

def readRoom : Nat := 8 * 1024

namespace Source

/-- What deliveries amount to, counting each of them and each octet. -/
def amount : List Delivery → Nat
  | [] => 0
  | .octets bs :: later => bs.length + 1 + amount later
  | .failure _ :: later => 1 + amount later

def size (s : Source) : Nat := amount s.deliveries

def unread (s : Source) : Bytes :=
  s.deliveries.flatMap fun | .octets bs => bs | .failure _ => []

/-- One reading operation. What does not fit stays at the front. -/
def read (s : Source) : Except IoError Bytes × Source :=
  match s.deliveries with
  | [] => (.ok [], { s with reads := s.reads + 1 })
  | .failure cause :: later => (.error cause, ⟨later, s.reads + 1⟩)
  | .octets bs :: later =>
    if bs.length > readRoom then
      (.ok (bs.take readRoom), ⟨.octets (bs.drop readRoom) :: later, s.reads + 1⟩)
    else (.ok bs, ⟨later, s.reads + 1⟩)

theorem size_read_lt_of_error {s t : Source} {cause : IoError} (h : s.read = (.error cause, t)) :
    t.size < s.size := by
  unfold read at h
  split at h
  · cases h
  · obtain ⟨-, rfl⟩ := Prod.mk.inj h
    simp [size, amount, *]
  · split at h <;> cases h

theorem size_read_add_le {s t : Source} {bs : Bytes} (h : s.read = (.ok bs, t)) :
    t.size + bs.length ≤ s.size := by
  unfold read at h
  split at h
  · obtain ⟨hb, rfl⟩ := Prod.mk.inj h
    simp [size, amount, ← Except.ok.inj hb, *]
  · cases h
  · split at h <;> obtain ⟨hb, rfl⟩ := Prod.mk.inj h <;> obtain rfl := Except.ok.inj hb <;>
      simp [size, amount, *] <;> omega

def fill (s : Source) : Except IoError Bytes × Source :=
  match h : s.read with
  | (.ok bs, t) => (.ok bs, t)
  | (.error cause, t) =>
    have := size_read_lt_of_error h
    -- an interrupted operation is tried again
    if cause.kind = .interrupted then t.fill else (.error cause, t)
termination_by s.size

theorem size_fill_add_le {s t : Source} {bs : Bytes} (h : s.fill = (.ok bs, t)) :
    t.size + bs.length ≤ s.size := by
  fun_induction fill s with
  | case1 _ _ _ hr => exact size_read_add_le (hr.trans h)
  | case2 _ _ _ _ hlt _ ih => exact Nat.le_trans (ih h) (Nat.le_of_lt hlt)
  | case3 => cases h

end Source

/-- The receiving end of a stream of frames. -/
structure FrameReceiver where
  source : Source
  pending : Bytes := []
  limits : Limits := {}

namespace FrameReceiver

def finish (r : FrameReceiver) : Except FrameError Frame × FrameReceiver :=
  match Frame.decodeLast r.limits r.pending with
  | .ok (f, rest) => (.ok f, { r with pending := rest })
  | .error e => (.error e, r)

/-- The next frame. Reads only while the octets at hand hold neither a whole frame nor an error. -/
def readFrame (r : FrameReceiver) : Except FrameError Frame × FrameReceiver :=
  match Frame.decode r.limits r.pending with
  | .error e => (.error e, r)
  | .ok (some (f, rest)) => (.ok f, { r with pending := rest })
  | .ok none =>
    match h : r.source.fill with
    | (.error cause, source) => (.error (.io cause), { r with source := source })
    -- an operation that yields no octets is the end of the stream
    | (.ok [], source) => finish { r with source := source }
    | (.ok (b :: bs), source) =>
      have := Source.size_fill_add_le h
      readFrame { r with source := source, pending := r.pending ++ b :: bs }
termination_by r.source.size
decreasing_by simp only [List.length_cons] at this; omega

def remaining (r : FrameReceiver) : Nat := r.source.size + r.pending.length

theorem length_lt_of_decodeLast {limits : Limits} {buffer rest : Bytes} {f : Frame}
    (h : Frame.decodeLast limits buffer = .ok (f, rest)) : rest.length < buffer.length :=
  Frame.length_lt_of_decodeEnd (show Frame.decodeEnd limits buffer = .ok (some (f, rest)) by
    simp [Frame.decodeEnd, h])

theorem remaining_lt_of_readFrame {r t : FrameReceiver} {f : Frame} (h : r.readFrame = (.ok f, t)) :
    t.remaining < r.remaining := by
  fun_induction readFrame r with
  | case1 => cases h
  | case2 r f' rest hd =>
    obtain ⟨-, rfl⟩ := Prod.mk.inj h
    exact Nat.add_lt_add_left (Frame.length_lt_of_decode hd) _
  | case3 => cases h
  | case4 r _ source hf =>
    have hs := Source.size_fill_add_le hf
    unfold finish at h
    split at h
    · rename_i hl
      obtain ⟨-, rfl⟩ := Prod.mk.inj h
      have := length_lt_of_decodeLast hl
      exact Nat.add_lt_add_of_le_of_lt hs this
    · cases h
  | case5 r _ b bs source hf hle ih =>
    refine Nat.lt_of_lt_of_le (ih h) ?_
    simp only [remaining, List.length_append]
    omega

end FrameReceiver

/-- A run over the frames of a stream. It ends with the stream or after the first error. -/
structure FrameRun where
  reader : FrameReceiver
  done : Bool := false

namespace FrameRun

def next (run : FrameRun) : Option (Except FrameError Frame) × FrameRun :=
  if run.done then (none, run)
  else match run.reader.readFrame with
    -- whatever the error is, nothing is read after it
    | (.ok f, reader) => (some (.ok f), ⟨reader, false⟩)
    | (.error e, reader) => (if e.isStreamEnd then none else some (.error e), ⟨reader, true⟩)

def remaining (run : FrameRun) : Nat := if run.done then 0 else run.reader.remaining + 1

theorem remaining_next_lt {run after : FrameRun} {item : Except FrameError Frame}
    (h : run.next = (some item, after)) : after.remaining < run.remaining := by
  unfold next at h
  split at h
  · cases h
  · rename_i hd
    split at h
    · rename_i hr
      obtain ⟨-, rfl⟩ := Prod.mk.inj h
      simpa [remaining, hd] using FrameReceiver.remaining_lt_of_readFrame hr
    · obtain ⟨-, rfl⟩ := Prod.mk.inj h
      simp [remaining, hd]

def toList (run : FrameRun) : List (Except FrameError Frame) × FrameRun :=
  match h : run.next with
  | (none, after) => ([], after)
  | (some item, after) =>
    have := remaining_next_lt h
    let (items, last) := after.toList
    (item :: items, last)
termination_by run.remaining

end FrameRun

def FrameReceiver.frames (r : FrameReceiver) : FrameRun := { reader := r }

end Pipework
