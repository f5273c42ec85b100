import Pipework.Proofs.Lines
import Pipework.Proofs.Run.Supervision

/-! What a launch logs. A mark fires after the last line of its stream, and no process is counted
before its marks have fired, so a launch that comes to its summary has logged all lines. -/

namespace Pipework

/-- The octets that a step reads from a stream of a process. -/
def LaunchStep.octets (p : String) (stream : OutputStream) : LaunchStep → Bytes
  | .output q stream' octets => if q = p ∧ stream' = stream then octets else []
  | _ => []

/-- The octets that were read from a stream of a process. -/
def octetsRead (p : String) (stream : OutputStream) (ss : List LaunchStep) : Bytes :=
  ss.flatMap (·.octets p stream)

/-- The lines of one stream among those of a process. -/
def streamLines (stream : OutputStream) (lines : List OutputLine) : List String :=
  (lines.filter (·.stream == stream)).map (·.text)

/-- What has been logged of a stream, when these are the octets that were read from it. -/
def DrainStage.Logged (octets : Bytes) (texts : List String) : DrainStage → Prop
  | .reading line => LineBuffer.feed {} octets = (texts, line)
  | .ended | .idle => Text.lines octets = texts

section

variable {p : String} {stream : OutputStream}

theorem octetsRead_append (ss later : List LaunchStep) :
    octetsRead p stream (ss ++ later) = octetsRead p stream ss ++ octetsRead p stream later :=
  List.flatMap_append

@[simp] theorem octetsRead_singleton (s : LaunchStep) :
    octetsRead p stream [s] = s.octets p stream := List.append_nil _

theorem streamLines_append (lines later : List OutputLine) :
    streamLines stream (lines ++ later) = streamLines stream lines ++ streamLines stream later := by
  rw [streamLines, List.filter_append, List.map_append]
  rfl

theorem streamLines_map (p : String) (stream' : OutputStream) (texts : List String) :
    streamLines stream (texts.map fun text => ⟨p, stream', text⟩) =
      if stream' = stream then texts else [] := by
  unfold streamLines
  rw [List.filter_map, List.map_map]
  by_cases h : stream' = stream <;> simp [Function.comp_def, h]

/-- What was logged of one stream of a process is known by the texts. -/
theorem filter_log (log : List OutputLine) :
    log.filter (fun line => line.process == p && line.stream == stream) =
      (streamLines stream (log.filter (·.process == p))).map fun text => ⟨p, stream, text⟩ := by
  induction log with
  | nil => rfl
  | cons line log ih =>
    obtain ⟨q, stream', text⟩ := line
    unfold streamLines at ih ⊢
    rw [List.filter_cons, List.filter_cons]
    by_cases hp : q = p
    · by_cases hs : stream' = stream
      · simp [hp, hs, ih]
      · simp [hp, hs, ih]
    · simp [hp, ih]

theorem octets_eq_nil {s : LaunchStep} (h : s.process? ≠ some p) : s.octets p stream = [] := by
  cases s with
  | output q stream' octets =>
    rw [LaunchStep.octets, if_neg]
    rintro ⟨rfl, -⟩
    exact h rfl
  | _ => rfl

/-- Other processes do not matter. -/
theorem octetsRead_ownSteps (ss : List LaunchStep) :
    octetsRead p stream (ownSteps p ss) = octetsRead p stream ss := by
  induction ss with
  | nil => rfl
  | cons s ss ih =>
    unfold octetsRead ownSteps at ih ⊢
    rw [List.filter_cons, List.flatMap_cons]
    split
    · rw [List.flatMap_cons, ih]
    · rename_i hs
      rw [octets_eq_nil (by simpa using hs), List.nil_append, ih]

end

namespace LaunchTask.Run

variable {x : Preparation} {ss : List LaunchStep} {lines : List OutputLine}
  {events : List Tally.Event} {t : LaunchTask} {stream : OutputStream}

theorem started_of_not_idle (h : Run x.spec.name x.task ss lines events t)
    (hd : t.drains.get stream ≠ .idle) : .start x.spec.name .started ∈ ss := by
  by_contra hs
  exact hd ((h.idle_iff stream).2 fun hm => absurd hm hs)

/-- The lines of a stream are logged as they come, and all of them when its end has been seen. -/
theorem logged (h : Run x.spec.name x.task ss lines events t)
    (hread : .readFailure x.spec.name stream ∉ ss) :
    (t.drains.get stream).Logged (octetsRead x.spec.name stream ss)
      (streamLines stream lines) := by
  -- on the way, the lines so far and the part of the next one are what one feed would give
  induction h with
  | start =>
    rw [x.drains_task stream]
    rfl
  | @step ss lines events t s t' lines' events' h hs ih =>
    rw [List.mem_append, not_or] at hread
    have ih := ih hread.1
    rw [octetsRead_append, streamLines_append, octetsRead_singleton]
    cases hs with
    | start ht =>
      obtain ⟨rfl, rfl, -⟩ := h.standing.of_ready ht
      rw [x.drains_task stream] at ih
      have hnil : streamLines stream lines = [] := ih.symm
      rw [hnil]
      cases stream <;> rfl
    | output stream' octets line hd =>
      rw [Drains.get_set, streamLines_map]
      by_cases he : stream = stream'
      · subst he
        rw [hd] at ih
        have hfeed : LineBuffer.feed {} (octetsRead x.spec.name stream ss) =
            (streamLines stream lines, line) := ih
        rw [if_pos rfl, if_pos rfl, LaunchStep.octets, if_pos ⟨rfl, rfl⟩, DrainStage.Logged,
          LineBuffer.feed_append, hfeed]
      · rw [if_neg he, if_neg (Ne.symm he), LaunchStep.octets, if_neg fun h => he h.2.symm,
          List.append_nil, List.append_nil]
        exact ih
    | streamEnd stream' line hd =>
      have hnone : (LaunchStep.streamEnd x.spec.name stream').octets x.spec.name stream = [] := rfl
      rw [Drains.get_set, streamLines_map, hnone, List.append_nil]
      by_cases he : stream = stream'
      · subst he
        rw [hd] at ih
        have hfeed : LineBuffer.feed {} (octetsRead x.spec.name stream ss) =
            (streamLines stream lines, line) := ih
        rw [if_pos rfl, if_pos rfl, DrainStage.Logged, LineBuffer.lines_eq, hfeed]
      · rw [if_neg he, if_neg (Ne.symm he), List.append_nil]
        exact ih
    | readFailure stream' line hd =>
      have he : stream ≠ stream' := by
        rintro rfl
        exact hread.2 (List.mem_singleton_self _)
      rw [Drains.get_set, if_neg he]
      simpa [LaunchStep.octets, streamLines] using ih
    | drained stream' hd =>
      rw [Drains.get_set]
      by_cases he : stream = stream'
      · rw [← he] at hd
        rw [hd] at ih
        rw [if_pos he]
        simpa [LaunchStep.octets, streamLines, DrainStage.Logged] using ih
      · rw [if_neg he]
        simpa [LaunchStep.octets, streamLines] using ih
    | _ => simpa [LaunchStep.octets, streamLines] using ih

/-- A stream of a process that has been started is read until its end is seen or it fails. -/
theorem ended_of_started (h : Run x.spec.name x.task ss lines events t)
    (hs : .start x.spec.name .started ∈ ss) (hd : ∀ line, t.drains.get stream ≠ .reading line) :
    .streamEnd x.spec.name stream ∈ ss ∨ .readFailure x.spec.name stream ∈ ss := by
  induction h with
  | start => cases hs
  | @step ss lines events t s t' lines' events' h hstep ih =>
    simp only [List.mem_append, List.mem_singleton] at hs ⊢
    cases hstep with
    | start ht => cases stream <;> exact absurd rfl (hd {})
    | output stream' octets line hd' =>
      have hs := hs.resolve_right nofun
      rw [Drains.get_set] at hd
      by_cases he : stream = stream'
      · rw [if_pos he] at hd
        exact absurd rfl (hd _)
      · rw [if_neg he] at hd
        exact (ih hs hd).imp .inl .inl
    | streamEnd stream' line hd' =>
      have hs := hs.resolve_right nofun
      rw [Drains.get_set] at hd
      by_cases he : stream = stream'
      · exact .inl (.inr (by rw [he]))
      · rw [if_neg he] at hd
        exact (ih hs hd).imp .inl .inl
    | readFailure stream' line hd' =>
      have hs := hs.resolve_right nofun
      rw [Drains.get_set] at hd
      by_cases he : stream = stream'
      · exact .inr (.inr (by rw [he]))
      · rw [if_neg he] at hd
        exact (ih hs hd).imp .inl .inl
    | drained stream' hd' =>
      have hs := hs.resolve_right nofun
      refine (ih hs fun line hl => ?_).imp .inl .inl
      rw [Drains.get_set] at hd
      by_cases he : stream = stream'
      · rw [he, hd'] at hl
        cases hl
      · rw [if_neg he] at hd
        exact hd line hl
    | _ => exact (ih (hs.resolve_right nofun) hd).imp .inl .inl

/-- A process that has not been started logs nothing. -/
theorem lines_eq_nil (h : Run x.spec.name x.task ss lines events t)
    (hs : .start x.spec.name .started ∉ ss) : lines = [] := by
  induction h with
  | start => rfl
  | @step ss lines events t s t' lines' events' h hstep ih =>
    rw [List.mem_append, not_or] at hs
    rw [ih hs.1, List.nil_append]
    cases hstep with
    | output stream' _ line hd | streamEnd stream' line hd =>
      exact absurd (h.started_of_not_idle (by rw [hd]; nofun)) hs.1
    | _ => rfl

end LaunchTask.Run

namespace Launch

variable {σ : Type} [PipeStore σ] {l : Launch σ} {all prepared : List Preparation}
  {ss : List LaunchStep} {es : List Tally.Event} {ns : List Notice} {x : Preparation}

omit [PipeStore σ] in
theorem timeout_mem_of_reports (h : .timedOut ∈ x.reports ss) : .timeout x.spec.name ∈ ss := by
  obtain ⟨s, hs, ho⟩ := List.mem_filterMap.1 h
  obtain ⟨hm, hp⟩ := mem_ownSteps.1 hs
  cases s with
  | timeout p =>
    obtain rfl := Option.some.inj hp
    exact hm
  | refuse p => cases hx : x.result <;> simp [Preparation.report?, hx] at ho
  | start p r => cases r <;> cases ho
  | _ => cases ho

/-- When the tally is complete, the marks of every process that was started and not killed have
fired. -/
theorem Course.drained_of_finished (h : Course all prepared ss es ns l)
    (hf : l.tally.finished = true) (hx : x ∈ prepared) (htimeout : ∀ p, .timeout p ∉ ss)
    (hs : .start x.spec.name .started ∈ ss) (stream : OutputStream) :
    .drained x.spec.name stream ∈ ss := by
  have hheard := h.heard_of_finished hf hx
  obtain ⟨m, hm⟩ := h.exists_marks hx
  have hdrained : (l.tally.marksOf x.spec.name).drained = true := by
    rcases h.tally.drained.heard _ (List.mem_map_of_mem hx) hheard with
      ⟨r, hr, -⟩ | hd | ⟨n, hn, -, ho⟩
    · cases (h.tally.kept.counted hf).symm.trans hr
    · exact hd
    · obtain ⟨y, -, -, hy⟩ := h.exists_of_notice (List.mem_append_left _ hn)
      exact absurd (timeout_mem_of_reports (ho ▸ hy)) (htimeout _)
  rw [Tally.marksOf, hm, Option.getD_some, DrainMarks.drained_iff] at hdrained
  exact ((h.mark_ne_pending_iff hx hm stream).1 (hdrained stream)).2 hs

/-- Nobody loses output: when the summary comes and nobody has been killed, the lines of both
streams of every process that was started have been logged, whatever order things happened in, and
nothing else has. -/
theorem output_complete {files : σ} {mode : Nat} {specs : List PlannedProcess}
    (hn : (specs.map (·.name)).Nodup) (h : Run (ofSpecs files mode specs) ss ns l)
    (htimeout : ∀ p, .timeout p ∉ ss) (hread : ∀ p stream, .readFailure p stream ∉ ss)
    {produced : String → OutputStream → Bytes}
    (hproduced : ∀ p stream, .streamEnd p stream ∈ ss → octetsRead p stream ss = produced p stream)
    {s : RunSummary} (hs : l.summary? = some s) :
    (∀ spec ∈ specs, .start spec.name .started ∈ ss → ∀ stream,
      l.log.filter (fun line => line.process == spec.name && line.stream == stream) =
        (Text.lines (produced spec.name stream)).map fun text => ⟨spec.name, stream, text⟩) ∧
    ∀ line ∈ l.log, line.process ∈ specs.map (·.name) ∧ .start line.process .started ∈ ss := by
  obtain ⟨prepared, es, hc⟩ := h.course hn
  obtain ⟨hf, -⟩ := Tally.summary?_eq_some_iff.1 hs
  obtain rfl := hc.eq_all (hc.unprepared_of_finished hf)
  have hnames := map_name_preparations mode files specs
  constructor
  · intro spec hspec hstart stream
    rw [← map_spec_preparations mode files specs] at hspec
    obtain ⟨x, hx, rfl⟩ := List.mem_map.1 hspec
    obtain ⟨t, -, hrun⟩ := hc.tasks x hx
    -- the mark has fired, so the end of the stream was seen, and what came before it was logged
    have hdrained := hc.drained_of_finished hf hx htimeout hstart stream
    have hidle : t.drains.get stream = .idle :=
      (hrun.idle_iff stream).2 fun _ => (mem_ownSteps_of_process? rfl).2 hdrained
    have hfailed : .readFailure x.spec.name stream ∉ ownSteps x.spec.name ss := by
      rw [mem_ownSteps_of_process? rfl]
      exact hread _ _
    have hend : .streamEnd x.spec.name stream ∈ ss := by
      have hstart' := (mem_ownSteps_of_process? rfl).2 hstart
      refine (mem_ownSteps_of_process? rfl).1
        ((hrun.ended_of_started hstart' fun line => ?_).resolve_right hfailed)
      rw [hidle]
      nofun
    have hlogged := hrun.logged hfailed
    rw [hidle, octetsRead_ownSteps, hproduced _ _ hend] at hlogged
    have hlines : Text.lines (produced x.spec.name stream) =
        streamLines stream (l.log.filter (·.process == x.spec.name)) := hlogged
    rw [hlines, filter_log]
  · intro line hline
    have hp := hc.log line hline
    refine ⟨hnames ▸ hp, ?_⟩
    obtain ⟨x, hx, hname⟩ := List.mem_map.1 hp
    obtain ⟨t, -, hrun⟩ := hc.tasks x hx
    by_contra hstart
    have hnone : .start x.spec.name .started ∉ ownSteps x.spec.name ss := by
      rw [mem_ownSteps, hname]
      exact fun hm => hstart hm.1
    have hmem : line ∈ l.log.filter (·.process == x.spec.name) := by
      rw [List.mem_filter, beq_iff_eq]
      exact ⟨hline, hname.symm⟩
    rw [hrun.lines_eq_nil hnone] at hmem
    cases hmem

/-- A report that overtakes the output, a line in two pieces, and a last line without its end. -/
theorem output_complete_of_pieces :
    let specs : List PlannedProcess := [⟨"A", "bin/a", {}, {}⟩, ⟨"B", "bin/b", {}, {}⟩]
    let files : FileTree := ⟨[], []⟩
    let ss : List LaunchStep := [.prepare, .prepare, .start "B" .started, .start "A" .started,
      .output "A" .stdout [49, 13, 10, 50], .exit "A" (.ofCode 0), .tally, .output "B" .stderr [33],
      .streamEnd "A" .stderr, .output "A" .stdout [51], .drained "A" .stderr, .exit "B" (.ofCode 1),
      .output "B" .stderr [10], .streamEnd "A" .stdout, .drained "A" .stdout, .tally, .tally,
      .streamEnd "B" .stdout, .streamEnd "B" .stderr, .drained "B" .stderr, .drained "B" .stdout,
      .tally, .tally]
    let produced (p : String) : OutputStream → Bytes
      | .stdout => if p = "A" then [49, 13, 10, 50, 51] else []
      | .stderr => if p = "B" then [33, 10] else []
    ∃ ns l s, Run (ofSpecs files 0o770 specs) ss ns l ∧ l.summary? = some s ∧
      (∀ p, .timeout p ∉ ss) ∧ (∀ p stream, .readFailure p stream ∉ ss) ∧
      (∀ p stream, .streamEnd p stream ∈ ss → octetsRead p stream ss = produced p stream) ∧
      l.log.filter (fun line => line.process == "A" && line.stream == .stdout) =
        [⟨"A", .stdout, "1"⟩, ⟨"A", .stdout, "23"⟩] ∧
      l.log.filter (fun line => line.process == "B" && line.stream == .stderr) =
        [⟨"B", .stderr, "!"⟩] := by
  intro specs files ss produced
  have hrest : ((ss.foldlM step? (ofSpecs files 0o770 specs)).bind summary?).isSome = true := by
    decide +kernel
  obtain ⟨s, hs⟩ := Option.isSome_iff_exists.1 hrest
  obtain ⟨l, hl, hs⟩ := Option.bind_eq_some_iff.1 hs
  obtain ⟨ns, hrun⟩ := run_of_foldlM ss hl
  have htimeout : ∀ p, .timeout p ∉ ss := by simp [ss]
  have hread : ∀ p stream, .readFailure p stream ∉ ss := by simp [ss]
  have hends : ∀ s ∈ ss, (match s with
      | .streamEnd p stream => octetsRead p stream ss == produced p stream
      | _ => true) = true := by decide +kernel
  have hproduced : ∀ p stream, .streamEnd p stream ∈ ss →
      octetsRead p stream ss = produced p stream := fun p stream hm => eq_of_beq (hends _ hm)
  obtain ⟨hlog, -⟩ := output_complete (by decide) hrun htimeout hread hproduced hs
  have hA := hlog specs[0] (by simp [specs]) (by simp [specs, ss]) .stdout
  have hB := hlog specs[1] (by simp [specs]) (by simp [specs, ss]) .stderr
  refine ⟨ns, l, s, hrun, hs, htimeout, hread, hproduced, hA.trans ?_, hB.trans ?_⟩
  · decide +kernel
  · decide +kernel

end Launch

end Pipework
