import DocExamples.Console.Window

namespace DocExamples.Console

variable {console : Console} {sink : Sink}

/-- A sink that is there: the outside, or a window that was added. -/
def Sink.IsIn (console : Console) : Sink → Prop
  | .outside => True
  | .window number => number < console.windows.length

theorem Sink.IsIn.update {other : Sink} (h : sink.IsIn console) (change : Streams → Streams) :
    sink.IsIn (console.update other change) := by
  cases sink with
  | outside => exact trivial
  | window number =>
    cases other with
    | outside => exact h
    | window => simpa [IsIn, Console.update] using h

theorem sinks_update (console : Console) (sink : Sink) (change : Streams → Streams) :
    (console.update sink change).sinks = console.sinks := by
  cases sink <;> rfl

theorem locked_update (console : Console) (sink : Sink) (change : Streams → Streams) :
    (console.update sink change).locked = console.locked := by
  cases sink <;> rfl

theorem active_update (console : Console) (sink : Sink) (change : Streams → Streams) :
    (console.update sink change).active = console.active := by
  cases sink <;> rfl

theorem streamsAt_update (h : sink.IsIn console) (change : Streams → Streams) :
    (console.update sink change).streamsAt sink = change (console.streamsAt sink) := by
  cases sink with
  | outside => rfl
  | window number =>
    have there : number < console.windows.length := h
    simp [update, streamsAt, there]

theorem streamsAt_update_of_ne {other : Sink} (h : other ≠ sink) (change : Streams → Streams) :
    (console.update other change).streamsAt sink = console.streamsAt sink := by
  cases sink with
  | outside =>
    cases other with
    | outside => exact absurd rfl h
    | window => rfl
  | window number =>
    cases other with
    | outside => rfl
    | window other =>
      have different : other ≠ number := by simpa using h
      simp [update, streamsAt, different]

theorem update_update (console : Console) (sink : Sink) (first second : Streams → Streams) :
    (console.update sink first).update sink second = console.update sink (second ∘ first) := by
  cases sink with
  | outside => rfl
  | window number => simp [update, List.modify_modify_eq, Function.comp_def]

theorem update_comm {other : Sink} (h : other ≠ sink) (first second : Streams → Streams) :
    (console.update sink first).update other second =
      (console.update other second).update sink first := by
  cases sink with
  | outside =>
    cases other with
    | outside => exact absurd rfl h
    | window => rfl
  | window number =>
    cases other with
    | outside => rfl
    | window other =>
      have different : number ≠ other := by simpa using h.symm
      simp [update, List.modify_modify_ne _ _ _ different]

theorem update_id (console : Console) {change : Streams → Streams}
    (h : change (console.streamsAt sink) = console.streamsAt sink) :
    console.update sink change = console := by
  cases sink with
  | outside =>
    have same : change console.outside = console.outside := h
    simp [update, same]
  | window number =>
    rw [update]
    congr
    apply List.ext_getElem?
    intro other
    by_cases here : number = other
    · subst here
      cases there : console.windows[number]? with
      | none => simp [there]
      | some window =>
        have same : change window.streams = window.streams := by simpa [streamsAt, there] using h
        simp [there, same]
    · simp [here]

/-- Both streams lead to sinks that are there. -/
def Leads (console : Console) : Prop :=
  ∃ out err, console.sinks = ⟨some out, some err⟩ ∧ out.IsIn console ∧ err.IsIn console

theorem Leads.exists_streams? (h : console.Leads) : ∃ streams, console.streams? = some streams := by
  obtain ⟨out, err, sinks, -, -⟩ := h
  exact ⟨_, by rw [streams?, sinks]⟩

theorem sinks_putStreams (console : Console) (streams : Streams) :
    (console.putStreams streams).sinks = console.sinks := by
  rw [putStreams]
  split
  · rw [sinks_update, sinks_update]
  · rfl

theorem locked_putStreams (console : Console) (streams : Streams) :
    (console.putStreams streams).locked = console.locked := by
  rw [putStreams]
  split
  · rw [locked_update, locked_update]
  · rfl

theorem active_putStreams (console : Console) (streams : Streams) :
    (console.putStreams streams).active = console.active := by
  rw [putStreams]
  split
  · rw [active_update, active_update]
  · rfl

/-- The streams as they stand where the sinks are `out` and `err`. -/
theorem putStreams_of_sinks {out err : Sink} (sinks : console.sinks = ⟨some out, some err⟩)
    (streams : Streams) :
    console.putStreams streams =
      (console.update out (·.set .out streams.out)).update err (·.set .err streams.err) := by
  rw [putStreams, sinks]

theorem Leads.putStreams (h : console.Leads) (streams : Streams) :
    (console.putStreams streams).Leads := by
  obtain ⟨out, err, sinks, hasOut, hasErr⟩ := h
  refine ⟨out, err, (sinks_putStreams console streams).trans sinks, ?_, ?_⟩
  · rw [putStreams_of_sinks sinks]
    exact (hasOut.update _).update _
  · rw [putStreams_of_sinks sinks]
    exact (hasErr.update _).update _

/-- Streams that are put where they lead are found there. -/
theorem streams?_putStreams (h : console.Leads) (streams : Streams) :
    (console.putStreams streams).streams? = some streams := by
  obtain ⟨out, err, sinks, hasOut, hasErr⟩ := h
  rw [streams?, sinks_putStreams, sinks]
  dsimp only
  rw [putStreams_of_sinks sinks]
  by_cases same : err = out
  · subst same
    rw [streamsAt_update (hasErr.update _), streamsAt_update hasErr]
    rfl
  · rw [streamsAt_update (hasErr.update _), streamsAt_update_of_ne same, streamsAt_update hasOut]
    rfl

/-- Of streams that are put where they lead in turn, the last ones count. -/
theorem putStreams_putStreams (console : Console) (first second : Streams) :
    (console.putStreams first).putStreams second = console.putStreams second := by
  rcases sinks : console.sinks with ⟨_ | out, _ | err⟩
  · simp [putStreams, sinks]
  · simp [putStreams, sinks]
  · simp [putStreams, sinks]
  · have later := (sinks_putStreams console first).trans sinks
    rw [putStreams_of_sinks later, putStreams_of_sinks sinks, putStreams_of_sinks sinks]
    by_cases same : out = err
    · subst same
      rw [update_update, update_update, update_update, update_update]
      rfl
    · rw [update_comm same, update_update, update_update]
      rfl

/-- Streams that are put back where they were found change nothing. -/
theorem putStreams_of_streams? {streams : Streams} (h : console.streams? = some streams) :
    console.putStreams streams = console := by
  rcases sinks : console.sinks with ⟨_ | out, _ | err⟩
  · simp [putStreams, sinks]
  · simp [putStreams, sinks]
  · simp [putStreams, sinks]
  · have found : streams = ⟨(console.streamsAt out).out, (console.streamsAt err).err⟩ := by
      rw [streams?, sinks] at h
      exact (Option.some.inj h).symm
    rw [putStreams_of_sinks sinks, found, update_id console rfl, update_id console rfl]

end DocExamples.Console
