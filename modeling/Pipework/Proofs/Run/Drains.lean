import Pipework.Proofs.Run.Output

/-! How one stream of a process is read. Whatever else happens in between, its steps are pieces of
output, then its end, then its mark; and the lines that they log are those of all pieces together,
wherever the pieces were cut. -/

namespace Pipework

/-- The steps that read a stream in these pieces and to its end, and fire its mark. -/
def drainSteps (p : String) (stream : OutputStream) (chunks : List Bytes) : List LaunchStep :=
  chunks.map (.output p stream) ++ [.streamEnd p stream, .drained p stream]

/-- Is the step one of those that read the stream? -/
def LaunchStep.reads (p : String) (stream : OutputStream) : LaunchStep → Bool
  | .output q stream' _ | .streamEnd q stream' | .readFailure q stream' | .drained q stream' =>
    q = p ∧ stream' = stream
  | _ => false

/-- The steps that read a stream, among those of a run. -/
def streamSteps (p : String) (stream : OutputStream) (ss : List LaunchStep) : List LaunchStep :=
  ss.filter (·.reads p stream)

/-- What has been logged of a stream. -/
def Launch.texts {σ : Type} (l : Launch σ) (p : String) (stream : OutputStream) : List String :=
  (l.log.filter fun line => line.process == p && line.stream == stream).map (·.text)

/-- How far the reading of a stream has come with these steps. -/
inductive DrainStage.Reached (p : String) (stream : OutputStream) :
    DrainStage → List LaunchStep → Prop
  | unstarted : Reached p stream .idle []
  | reading (chunks : List Bytes) (line : LineBuffer) :
      Reached p stream (.reading line) (chunks.map (.output p stream))
  | ended (chunks : List Bytes) :
      Reached p stream .ended (chunks.map (.output p stream) ++ [.streamEnd p stream])
  | failed (chunks : List Bytes) :
      Reached p stream .ended (chunks.map (.output p stream) ++ [.readFailure p stream])
  | drained {ss : List LaunchStep} (h : Reached p stream .ended ss) :
      Reached p stream .idle (ss ++ [.drained p stream])

section

variable {p : String} {stream : OutputStream} {s : LaunchStep} {ss : List LaunchStep}
  {stage : DrainStage}

theorem streamSteps_append_of_reads (h : s.reads p stream = true) (ss : List LaunchStep) :
    streamSteps p stream (ss ++ [s]) = streamSteps p stream ss ++ [s] := by
  simp [streamSteps, h]

theorem streamSteps_append_of_not_reads (h : s.reads p stream = false) (ss : List LaunchStep) :
    streamSteps p stream (ss ++ [s]) = streamSteps p stream ss := by
  simp [streamSteps, h]

theorem process?_of_reads (h : s.reads p stream = true) : s.process? = some p := by
  cases s with
  | output q _ _ | streamEnd q _ | readFailure q _ | drained q _ =>
    obtain ⟨rfl, -⟩ := of_decide_eq_true h
    rfl
  | _ => cases h

theorem streamSteps_ownSteps (ss : List LaunchStep) :
    streamSteps p stream (ownSteps p ss) = streamSteps p stream ss := by
  unfold streamSteps ownSteps
  rw [List.filter_filter]
  apply List.filter_congr
  intro s _
  cases h : s.reads p stream with
  | false => rfl
  | true => simp [process?_of_reads h]

theorem mem_streamSteps_of_reads (h : s.reads p stream = true) (ss : List LaunchStep) :
    s ∈ streamSteps p stream ss ↔ s ∈ ss := by
  rw [streamSteps, List.mem_filter, and_iff_left h]

theorem octets_of_not_reads (h : s.reads p stream = false) : s.octets p stream = [] := by
  cases s with
  | output q stream' octets => exact if_neg (of_decide_eq_false h)
  | _ => rfl

theorem octetsRead_streamSteps (ss : List LaunchStep) :
    octetsRead p stream (streamSteps p stream ss) = octetsRead p stream ss := by
  induction ss with
  | nil => rfl
  | cons s ss ih =>
    unfold octetsRead streamSteps at ih ⊢
    cases h : s.reads p stream with
    | true => rw [List.filter_cons_of_pos h, List.flatMap_cons, List.flatMap_cons, ih]
    | false =>
      rw [List.filter_cons_of_neg (Bool.eq_false_iff.1 h), List.flatMap_cons,
        octets_of_not_reads h, List.nil_append, ih]

theorem octetsRead_drainSteps (p : String) (stream : OutputStream) (chunks : List Bytes) :
    octetsRead p stream (drainSteps p stream chunks) = chunks.flatten := by
  rw [drainSteps, octetsRead_append]
  have hend : octetsRead p stream [.streamEnd p stream, .drained p stream] = [] := rfl
  have hchunk : (fun octets => (LaunchStep.output p stream octets).octets p stream) = id := by
    funext octets
    exact if_pos ⟨rfl, rfl⟩
  rw [hend, List.append_nil, octetsRead, List.flatMap_map, hchunk, List.flatMap_id]

namespace DrainStage.Reached

variable {line : LineBuffer}

theorem output (h : (DrainStage.reading line).Reached p stream ss) (octets : Bytes)
    (line' : LineBuffer) :
    (DrainStage.reading line').Reached p stream (ss ++ [.output p stream octets]) := by
  cases h with
  | reading chunks line =>
    have hmap : chunks.map (.output p stream) ++ [.output p stream octets] =
        (chunks ++ [octets]).map (LaunchStep.output p stream) := by simp
    rw [hmap]
    exact .reading _ line'

theorem streamEnd (h : (DrainStage.reading line).Reached p stream ss) :
    DrainStage.ended.Reached p stream (ss ++ [.streamEnd p stream]) := by
  cases h with
  | reading chunks line => exact .ended chunks

theorem readFailure (h : (DrainStage.reading line).Reached p stream ss) :
    DrainStage.ended.Reached p stream (ss ++ [.readFailure p stream]) := by
  cases h with
  | reading chunks line => exact .failed chunks

/-- A step that reads some stream takes this stream on, or it is another stream. -/
theorem set {d : Drains} {stream' : OutputStream} {stage' : DrainStage}
    (h : (d.get stream).Reached p stream (streamSteps p stream ss))
    (hs : s.reads p stream = decide (stream' = stream))
    (hnext : stream' = stream → stage'.Reached p stream (streamSteps p stream ss ++ [s])) :
    ((d.set stage' stream').get stream).Reached p stream (streamSteps p stream (ss ++ [s])) := by
  rw [Drains.get_set]
  by_cases he : stream' = stream
  · rw [if_pos he.symm, streamSteps_append_of_reads (hs.trans (decide_eq_true he))]
    exact hnext he
  · rw [if_neg (Ne.symm he), streamSteps_append_of_not_reads (hs.trans (decide_eq_false he))]
    exact h

/-- Behind the end of the stream nothing is read any more, and the reading has not failed. -/
theorem of_streamEnd (h : stage.Reached p stream ss) (hm : .streamEnd p stream ∈ ss) :
    (∀ line, stage ≠ .reading line) ∧ .readFailure p stream ∉ ss := by
  have hended {ss : List LaunchStep} (h : DrainStage.ended.Reached p stream ss)
      (hm : .streamEnd p stream ∈ ss) : .readFailure p stream ∉ ss := by
    cases h with
    | ended chunks => simp
    | failed chunks => simp at hm
  cases h with
  | unstarted => cases hm
  | reading chunks line => simp at hm
  | ended chunks => exact ⟨nofun, hended (.ended chunks) hm⟩
  | failed chunks => exact ⟨nofun, hended (.failed chunks) hm⟩
  | drained h =>
    have hm := (List.mem_append.1 hm).resolve_right (by simp)
    refine ⟨nofun, fun hf => hended h hm ?_⟩
    exact (List.mem_append.1 hf).resolve_right (by simp)

/-- The steps of a stream that does not fail are the first of those that drain it. -/
theorem isPrefix (h : stage.Reached p stream ss) (hread : .readFailure p stream ∉ ss) :
    ∃ chunks, ss <+: drainSteps p stream chunks := by
  have hended {ss : List LaunchStep} (h : DrainStage.ended.Reached p stream ss)
      (hread : .readFailure p stream ∉ ss) :
      ∃ chunks, ss ++ [.drained p stream] = drainSteps p stream chunks := by
    cases h with
    | ended chunks => exact ⟨chunks, by simp [drainSteps]⟩
    | failed chunks => simp at hread
  cases h with
  | unstarted => exact ⟨[], List.nil_prefix⟩
  | reading chunks line => exact ⟨chunks, List.prefix_append _ _⟩
  | ended chunks =>
    obtain ⟨chunks', heq⟩ := hended (.ended chunks) hread
    exact ⟨chunks', heq ▸ List.prefix_append _ _⟩
  | failed chunks => simp at hread
  | drained h =>
    obtain ⟨chunks, heq⟩ := hended h fun hm => hread (List.mem_append_left _ hm)
    exact ⟨chunks, heq ▸ List.prefix_refl _⟩

end DrainStage.Reached

end

/-- The steps of a stream say how far its reading has come. -/
theorem LaunchTask.Run.reached {x : Preparation} {ss : List LaunchStep} {lines : List OutputLine}
    {events : List Tally.Event} {t : LaunchTask}
    (h : LaunchTask.Run x.spec.name x.task ss lines events t) (stream : OutputStream) :
    (t.drains.get stream).Reached x.spec.name stream (streamSteps x.spec.name stream ss) := by
  induction h with
  | start =>
    rw [x.drains_task stream]
    exact .unstarted
  | @step ss lines events t s t' lines' events' h hs ih =>
    cases hs with
    | start ht =>
      obtain ⟨rfl, -, -⟩ := h.standing.of_ready ht
      cases stream <;> exact .reading [] {}
    | output stream' octets line hd =>
      refine ih.set (by simp [LaunchStep.reads]) ?_
      rintro rfl
      rw [hd] at ih
      exact ih.output octets _
    | streamEnd stream' line hd =>
      refine ih.set (by simp [LaunchStep.reads]) ?_
      rintro rfl
      rw [hd] at ih
      exact ih.streamEnd
    | readFailure stream' line hd =>
      refine ih.set (by simp [LaunchStep.reads]) ?_
      rintro rfl
      rw [hd] at ih
      exact ih.readFailure
    | drained stream' hd =>
      refine ih.set (by simp [LaunchStep.reads]) ?_
      rintro rfl
      rw [hd] at ih
      exact ih.drained
    | _ =>
      rw [streamSteps_append_of_not_reads rfl]
      exact ih

namespace Launch

variable {σ : Type} [PipeStore σ] {l k : Launch σ} {all prepared : List Preparation}
  {ss : List LaunchStep} {es : List Tally.Event} {ns : List Notice} {x : Preparation}
  {stream : OutputStream} {files : σ} {mode : Nat} {specs : List PlannedProcess}

omit [PipeStore σ] in
theorem texts_eq_streamLines (l : Launch σ) (p : String) (stream : OutputStream) :
    l.texts p stream = streamLines stream (l.log.filter (·.process == p)) := by
  rw [texts, filter_log, List.map_map]
  exact List.map_id _

/-- Once the end of a stream has been seen, its lines have been logged and no others. -/
theorem Course.texts_eq (h : Course all prepared ss es ns l) (hx : x ∈ prepared)
    (hend : .streamEnd x.spec.name stream ∈ ss) :
    l.texts x.spec.name stream = Text.lines (octetsRead x.spec.name stream ss) := by
  obtain ⟨t, -, hrun⟩ := h.tasks x hx
  have hreached := hrun.reached stream
  rw [streamSteps_ownSteps] at hreached
  have hends : .streamEnd x.spec.name stream ∈ streamSteps x.spec.name stream ss :=
    (mem_streamSteps_of_reads (by simp [LaunchStep.reads]) ss).2 hend
  obtain ⟨hstage, hread⟩ := hreached.of_streamEnd hends
  have hread' : .readFailure x.spec.name stream ∉ ownSteps x.spec.name ss := by
    rw [mem_ownSteps_of_process? rfl]
    rwa [mem_streamSteps_of_reads (by simp [LaunchStep.reads])] at hread
  have hlogged := hrun.logged hread'
  rw [octetsRead_ownSteps] at hlogged
  rw [texts_eq_streamLines]
  cases hd : t.drains.get stream with
  | reading line => exact absurd hd (hstage line)
  | ended | idle =>
    rw [hd] at hlogged
    exact hlogged.symm

/-- A process that has taken a step is one of those whose pipes have been made. -/
theorem Run.exists_prepared (hn : (specs.map (·.name)).Nodup)
    (h : Run (ofSpecs files mode specs) ss ns l) {spec : PlannedProcess} (hspec : spec ∈ specs)
    {s : LaunchStep} (hs : s ∈ ss) (hp : s.process? = some spec.name) :
    ∃ all prepared es, Course all prepared ss es ns l ∧ l.unprepared = [] ∧
      ∃ x ∈ prepared, x.spec = spec := by
  obtain ⟨prepared, es, hc⟩ := h.course hn
  have hall := hc.eq_all_of_mem hs hp
  have hu : l.unprepared = [] := by
    by_contra hu
    obtain ⟨-, -, hother, -⟩ := hc.early hu
    cases (hother s hs).symm.trans hp
  rw [← map_spec_preparations mode files specs] at hspec
  obtain ⟨x, hx, hxspec⟩ := List.mem_map.1 hspec
  exact ⟨_, prepared, es, hc, hu, x, hall ▸ hx, hxspec⟩

/-- A step of a process as a run, with the task of the process behind it. -/
theorem Run.own {p : String} {t t' : LaunchTask} {s : LaunchStep} {lines : List OutputLine}
    {events : List Tally.Event} (ht : l.tasks.get? p = some t) (hu : l.unprepared = [])
    (hs : t.Step p s t' lines events) :
    ∃ k, Run l [s] [] k ∧ k.tasks.get? p = some t' ∧ k.unprepared = [] := by
  have hstep := step?_of_own ht hs hu
  have hrun := Run.start.step hstep
  have htally : s ≠ .tally := by
    rintro rfl
    cases hs.process?_eq
  rw [if_neg htally] at hrun
  refine ⟨_, hrun, ?_, hu⟩
  exact (NameMap.get?_insert _ _ _ _).trans (if_pos rfl)

/-- A stream that is being read can be read on in any pieces, to its end and its mark. -/
theorem Run.drain {p : String} {t : LaunchTask} {line : LineBuffer}
    (ht : l.tasks.get? p = some t) (hu : l.unprepared = [])
    (hd : t.drains.get stream = .reading line) (chunks : List Bytes) :
    ∃ k, Run l (drainSteps p stream chunks) [] k := by
  induction chunks generalizing l t line with
  | nil =>
    obtain ⟨m, hend, htm, hum⟩ := Run.own ht hu (.streamEnd stream line hd)
    have hdm : (t.drains.set .ended stream).get stream = .ended := by
      rw [Drains.get_set, if_pos rfl]
    obtain ⟨k, hmark, -⟩ := Run.own htm hum (.drained stream hdm)
    exact ⟨k, hend.trans hmark⟩
  | cons octets chunks ih =>
    obtain ⟨m, hout, htm, hum⟩ := Run.own ht hu (.output stream octets line hd)
    obtain ⟨k, hrest⟩ := ih htm hum ((Drains.get_set _ _ _ _).trans (if_pos rfl))
    exact ⟨k, hout.trans hrest⟩

omit [PipeStore σ] in
/-- A run that drains a stream fires its mark once, and the end of the stream comes before. -/
theorem exists_mark {p : String} {chunks : List Bytes}
    (h : streamSteps p stream ss = drainSteps p stream chunks) :
    ∃ before after, ss = before ++ .drained p stream :: after ∧
      .drained p stream ∉ before ++ after ∧ .streamEnd p stream ∈ before ∧
      octetsRead p stream before = chunks.flatten := by
  let mark : LaunchStep := .drained p stream
  let body : List LaunchStep := chunks.map (.output p stream) ++ [.streamEnd p stream]
  have hreads : mark.reads p stream = true := by simp [mark, LaunchStep.reads]
  have hbody : drainSteps p stream chunks = body ++ mark :: [] := by
    simp [drainSteps, body, mark]
  have hm : mark ∈ ss := by
    rw [← mem_streamSteps_of_reads hreads ss, h, hbody]
    simp
  obtain ⟨before, after, hss⟩ := List.append_of_mem hm
  -- the mark stands once among the steps of the stream, so these are cut there as well
  have hcut : body ++ mark :: [] =
      streamSteps p stream before ++ mark :: streamSteps p stream after := by
    rw [← hbody, ← h, hss, streamSteps, List.filter_append, List.filter_cons_of_pos hreads]
    rfl
  have hnot : mark ∉ body := by simp [mark, body]
  obtain ⟨hbefore, -, hafter⟩ := (List.append_cons_inj_of_notMem hnot List.not_mem_nil).1 hcut
  refine ⟨before, after, hss, ?_, ?_, ?_⟩
  · rw [List.mem_append, ← mem_streamSteps_of_reads hreads before, ← hbefore,
      ← mem_streamSteps_of_reads hreads after, ← hafter]
    simpa using hnot
  · have hend : (LaunchStep.streamEnd p stream).reads p stream = true := by
      simp [LaunchStep.reads]
    rw [← mem_streamSteps_of_reads hend before, ← hbefore]
    simp [body]
  · have hmark : octetsRead p stream [mark] = [] := rfl
    have hall := octetsRead_drainSteps p stream chunks
    rw [hbody, octetsRead_append, hmark, List.append_nil] at hall
    rw [← octetsRead_streamSteps, ← hbefore, hall]

/-- A stream that has not failed has taken the first of the steps that drain it in some pieces. -/
theorem Run.streamSteps_isPrefix (hn : (specs.map (·.name)).Nodup)
    (h : Run (ofSpecs files mode specs) ss ns l) {spec : PlannedProcess} (hspec : spec ∈ specs)
    (hread : .readFailure spec.name stream ∉ ss) :
    ∃ chunks, streamSteps spec.name stream ss <+: drainSteps spec.name stream chunks := by
  have hreads : (LaunchStep.readFailure spec.name stream).reads spec.name stream = true := by
    simp [LaunchStep.reads]
  cases hsteps : streamSteps spec.name stream ss with
  | nil => exact ⟨[], List.nil_prefix⟩
  | cons s steps =>
    have hm : s ∈ streamSteps spec.name stream ss := by
      rw [hsteps]
      exact List.mem_cons_self
    obtain ⟨hs, hown⟩ := List.mem_filter.1 hm
    obtain ⟨all, prepared, es, hc, -, x, hx, rfl⟩ :=
      h.exists_prepared hn hspec hs (process?_of_reads hown)
    obtain ⟨t, -, hrun⟩ := hc.tasks x hx
    have hreached := hrun.reached stream
    rw [streamSteps_ownSteps, hsteps] at hreached
    apply hreached.isPrefix
    rwa [← hsteps, mem_streamSteps_of_reads hreads]

/-- A stream of a started process that has neither ended nor failed can be drained. -/
theorem Run.exists_drain (hn : (specs.map (·.name)).Nodup)
    (h : Run (ofSpecs files mode specs) ss ns l) {spec : PlannedProcess} (hspec : spec ∈ specs)
    (hstart : .start spec.name .started ∈ ss) (hend : .streamEnd spec.name stream ∉ ss)
    (hread : .readFailure spec.name stream ∉ ss) (chunks : List Bytes) :
    ∃ k, Run (ofSpecs files mode specs) (ss ++ drainSteps spec.name stream chunks) ns k := by
  obtain ⟨all, prepared, es, hc, hu, x, hx, rfl⟩ := h.exists_prepared hn hspec hstart rfl
  obtain ⟨t, ht, hrun⟩ := hc.tasks x hx
  -- a stream of a started process is read until its end has been seen
  have hreading : ∃ line, t.drains.get stream = .reading line := by
    by_contra hnot
    rw [not_exists] at hnot
    have hstart' := (mem_ownSteps_of_process? rfl).2 hstart
    rcases hrun.ended_of_started hstart' hnot with hm | hm
    · exact hend ((mem_ownSteps_of_process? rfl).1 hm)
    · exact hread ((mem_ownSteps_of_process? rfl).1 hm)
  obtain ⟨line, hd⟩ := hreading
  obtain ⟨k, hdrain⟩ := Run.drain ht hu hd chunks
  have hboth := h.trans hdrain
  rw [List.append_nil] at hboth
  exact ⟨k, hboth⟩

theorem Run.texts_eq (hn : (specs.map (·.name)).Nodup)
    (h : Run (ofSpecs files mode specs) ss ns l) {spec : PlannedProcess} (hspec : spec ∈ specs)
    (hend : .streamEnd spec.name stream ∈ ss) :
    l.texts spec.name stream = Text.lines (octetsRead spec.name stream ss) := by
  obtain ⟨all, prepared, es, hc, -, x, hx, rfl⟩ := h.exists_prepared hn hspec hend rfl
  exact hc.texts_eq hx hend

/-- However a stream of a process is delivered, and whatever happens in between: each segment that a
line feed ends is logged as one line, and so is a rest that is not empty. The mark fires once, when
all of them have been logged. A stream that is being read can be read on in any pieces, and what was
a text without carriage returns at the ends of its lines can be put together from them again. -/
theorem stream_drained (hn : (specs.map (·.name)).Nodup)
    (h : Run (ofSpecs files mode specs) ss ns l) {spec : PlannedProcess} (hspec : spec ∈ specs)
    (stream : OutputStream) :
    (.readFailure spec.name stream ∉ ss →
      ∃ chunks, streamSteps spec.name stream ss <+: drainSteps spec.name stream chunks) ∧
    (.start spec.name .started ∈ ss → .streamEnd spec.name stream ∉ ss →
      .readFailure spec.name stream ∉ ss → ∀ chunks,
        ∃ k, Run (ofSpecs files mode specs) (ss ++ drainSteps spec.name stream chunks) ns k) ∧
    ∀ chunks, streamSteps spec.name stream ss = drainSteps spec.name stream chunks →
      ∃ ended rest, Text.Segments chunks.flatten ended rest ∧
        l.texts spec.name stream = (ended ++ Text.lastSegment rest).map Text.lineText ∧
        (∃ before after ns' m, ss = before ++ .drained spec.name stream :: after ∧
          .drained spec.name stream ∉ before ++ after ∧
          Run (ofSpecs files mode specs) before ns' m ∧
          m.texts spec.name stream = l.texts spec.name stream) ∧
        ∀ text, chunks.flatten = Text.toBytes text → Text.ReturnFree (Text.toBytes text) →
          Text.toBytes text =
            [Text.lineFeed].intercalate ((l.texts spec.name stream).map Text.toBytes) ++
              if (Text.toBytes text).getLast? = some Text.lineFeed then [Text.lineFeed] else [] := by
  refine ⟨h.streamSteps_isPrefix hn hspec, h.exists_drain hn hspec, ?_⟩
  intro chunks hsteps
  obtain ⟨before, after, rfl, honce, hend, hoctets⟩ := exists_mark hsteps
  obtain ⟨ns', m, -, hbefore, -⟩ := h.exists_before rfl
  have hall := h.texts_eq hn hspec (List.mem_append_left _ hend)
  rw [← octetsRead_streamSteps, hsteps, octetsRead_drainSteps] at hall
  have hmark := hbefore.texts_eq hn hspec hend
  rw [hoctets] at hmark
  obtain ⟨ended, rest, hsegments⟩ := Text.exists_segments chunks.flatten
  refine ⟨ended, rest, hsegments, hall.trans hsegments.lines_eq,
    ⟨before, after, ns', m, rfl, honce, hbefore, hmark.trans hall.symm⟩, ?_⟩
  intro text htext hfree
  rw [hall, htext]
  exact Text.toBytes_eq_intercalate hfree

/-- A line feed apart from its carriage return, a character in two pieces, an empty line and octets
that are no text; and another stream in between. -/
theorem stream_drained_of_pieces :
    let specs : List PlannedProcess := [⟨"A", "bin/a", {}, {}⟩]
    let files : FileTree := ⟨[], []⟩
    let chunks : List Bytes := [[49, 13], [10, 195], [169, 10, 10, 255]]
    let ss : List LaunchStep := [.prepare, .start "A" .started, .output "A" .stdout [49, 13],
      .output "A" .stderr [33, 13], .output "A" .stdout [10, 195], .streamEnd "A" .stderr,
      .output "A" .stdout [169, 10, 10, 255], .drained "A" .stderr, .streamEnd "A" .stdout,
      .drained "A" .stdout]
    ∃ ns l, Run (ofSpecs files 0o770 specs) ss ns l ∧
      streamSteps "A" .stdout ss = drainSteps "A" .stdout chunks ∧
      l.texts "A" .stdout = ["1", "é", "", "\uFFFD"] ∧ l.texts "A" .stderr = ["!"] := by
  intro specs files chunks ss
  have hdone : (ss.foldlM step? (ofSpecs files 0o770 specs)).isSome = true := by decide +kernel
  obtain ⟨l, hl⟩ := Option.isSome_iff_exists.1 hdone
  obtain ⟨ns, hrun⟩ := run_of_foldlM ss hl
  have hspec : (⟨"A", "bin/a", {}, {}⟩ : PlannedProcess) ∈ specs := List.mem_cons_self
  have hout : streamSteps "A" .stdout ss = drainSteps "A" .stdout chunks := by decide +kernel
  have herr : streamSteps "A" .stderr ss = drainSteps "A" .stderr [[33, 13]] := by decide +kernel
  obtain ⟨-, -, hstdout⟩ := stream_drained (by decide) hrun hspec .stdout
  obtain ⟨-, -, hstderr⟩ := stream_drained (by decide) hrun hspec .stderr
  obtain ⟨ended, rest, hsegments, htexts, -⟩ := hstdout chunks hout
  obtain ⟨ended', rest', hsegments', htexts', -⟩ := hstderr _ herr
  refine ⟨ns, l, hrun, hout, ?_, ?_⟩
  · rw [htexts, ← hsegments.lines_eq]
    decide +kernel
  · rw [htexts', ← hsegments'.lines_eq]
    decide +kernel

end Launch

end Pipework
