import Pipework.Frame.Encode

/-!
Sending frames into a sink. A sink takes as many octets of each write as it likes and may fail; a
writer goes on until all of a frame is taken. A frame is encoded before its first octet goes out, so
a refused frame leaves no trace.
-/

namespace Pipework

/-- A sink: how its next writes and flushes end, what it has taken, and how often it was asked. Past
the end of either list everything succeeds. -/
structure Sink where
  /-- The most octets that each write takes, or its failure. -/
  writeResults : List (Except IoError Nat) := []
  flushResults : List (Except IoError Unit) := []
  taken : Bytes := []
  writes : Nat := 0
  flushes : Nat := 0

namespace Sink

/-- One write: the number of octets that the sink took from the front of `bs`. -/
def write (s : Sink) (bs : Bytes) : Except IoError Nat × Sink :=
  match s.writeResults with
  | [] => (.ok bs.length, { s with taken := s.taken ++ bs, writes := s.writes + 1 })
  | .ok room :: later =>
    (.ok (min room bs.length),
      { s with writeResults := later, taken := s.taken ++ bs.take room, writes := s.writes + 1 })
  | .error cause :: later =>
    (.error cause, { s with writeResults := later, writes := s.writes + 1 })

def flush (s : Sink) : Except IoError Unit × Sink :=
  match s.flushResults with
  | [] => (.ok (), { s with flushes := s.flushes + 1 })
  | result :: later => (result, { s with flushResults := later, flushes := s.flushes + 1 })

def rearm (s : Sink) : Sink := { s with writeResults := [] }

theorem length_writeResults_lt_of_error {s t : Sink} {bs : Bytes} {cause : IoError}
    (h : s.write bs = (.error cause, t)) : t.writeResults.length < s.writeResults.length := by
  unfold write at h
  split at h
  · cases h
  · cases h
  · obtain ⟨-, rfl⟩ := Prod.mk.inj h
    simp [*]

theorem length_writeResults_le {s t : Sink} {bs : Bytes} {n : Nat}
    (h : s.write bs = (.ok n, t)) : t.writeResults.length ≤ s.writeResults.length := by
  unfold write at h
  split at h
  · obtain ⟨-, rfl⟩ := Prod.mk.inj h
    simp
  · obtain ⟨-, rfl⟩ := Prod.mk.inj h
    simp [*]
  · cases h

theorem length_flushResults_lt_of_error {s t : Sink} {cause : IoError}
    (h : s.flush = (.error cause, t)) : t.flushResults.length < s.flushResults.length := by
  unfold flush at h
  split at h
  · cases h
  · obtain ⟨-, rfl⟩ := Prod.mk.inj h
    simp [*]

end Sink

/-- Is the operation simply tried again after such a failure? -/
def IoError.isTransient (e : IoError) : Bool := e.kind = .interrupted || e.kind = .wouldBlock

/-- The sending end of a stream of frames. -/
structure FrameSender where
  sink : Sink := {}
  /-- The number of frames that the sink took in full. -/
  sent : Nat := 0

namespace FrameSender

/-- Writes until all octets are taken. A write that takes none means that the other side is gone. -/
def sendAll (s : Sink) (bs : Bytes) : Except FrameError Unit × Sink :=
  if bs = [] then (.ok (), s)
  else match h : s.write bs with
    | (.ok 0, t) => (.error .connectionClosed, t)
    -- what was not taken is offered again
    | (.ok (n + 1), t) =>
      have := Sink.length_writeResults_le h
      sendAll t (bs.drop (n + 1))
    | (.error cause, t) =>
      have := Sink.length_writeResults_lt_of_error h
      if cause.isTransient then sendAll t bs else (.error (.io cause), t)
termination_by bs.length + s.writeResults.length
decreasing_by
  · have : bs.length ≠ 0 := by simpa using ‹¬bs = []›
    simp only [List.length_drop]
    omega
  · omega

def flushAll (s : Sink) : Except FrameError Unit × Sink :=
  match h : s.flush with
  | (.ok (), t) => (.ok (), t)
  | (.error cause, t) =>
    have := Sink.length_flushResults_lt_of_error h
    if cause.isTransient then flushAll t else (.error (.io cause), t)
termination_by s.flushResults.length

def flush (w : FrameSender) : Except FrameError Unit × FrameSender :=
  let (result, sink) := flushAll w.sink
  (result, { w with sink := sink })

/-- Sends one frame and flushes the sink. The frame counts as sent once all of it is taken. -/
def writeFrame (w : FrameSender) (f : Frame) : Except FrameError Unit × FrameSender :=
  match f.encode with
  | .error e => (.error e, w)
  | .ok bs =>
    match sendAll w.sink bs with
    | (.error e, sink) => (.error e, { w with sink := sink })
    -- the sink has all of the frame by now, even if flushing fails
    | (.ok (), sink) => flush { w with sink := sink, sent := w.sent + 1 }

end FrameSender

end Pipework
