import DocExamples.Proofs.Context.Run
import DocExamples.Proofs.Script.Output.Programs
import DocExamples.Proofs.Script.Remarks
import DocExamples.Script.Language

namespace DocExamples

open Text Script Console

/-- States that are the same but for what standard error holds, if it holds anything. -/
structure State.Near {Space : Type} (first second : State Space) : Prop where
  space : first.space = second.space
  out : first.streams.out = second.streams.out
  closed : first.streams.err.closed = second.streams.err.closed
  silent : first.streams.err.text = [] ↔ second.streams.err.text = []

namespace State.Near

variable {Space : Type} {first second : State Space}

theorem refl (state : State Space) : state.Near state := ⟨rfl, rfl, rfl, .rfl⟩

/-- Such states differ in what was written before. -/
theorem exists_after (near : first.Near second) :
    ∃ (base : State Space) (err err' : Text), first = base.after ⟨[], err⟩ ∧
      second = base.after ⟨[], err'⟩ ∧ (err = [] ↔ err' = []) := by
  obtain ⟨space, ⟨out, ⟨err, closed⟩⟩⟩ := first
  obtain ⟨space', ⟨out', ⟨err', closed'⟩⟩⟩ := second
  obtain ⟨rfl, rfl, rfl, silent⟩ := near
  refine ⟨⟨space, ⟨out, ⟨[], closed⟩⟩⟩, err, err', ?_, ?_, silent⟩
  · simp [after]
  · simp [after]

theorem of_after (base : State Space) {err err' : Text} (silent : err = [] ↔ err' = []) :
    (base.after ⟨[], err⟩).Near (base.after ⟨[], err'⟩) :=
  ⟨rfl, rfl, rfl, by simp [after, silent]⟩

theorem areOpen (near : first.Near second) : first.streams.areOpen = second.streams.areOpen := by
  rw [Streams.areOpen, Streams.areOpen, near.out, near.closed]

end State.Near

/-- An error that is told of the run that it ends. -/
def Thrown.IsTold (thrown : Thrown) : Prop := ∃ cause, Ending.of (some thrown) = .failed cause

theorem Thrown.IsTold.of_refusal (file : Text) (refusal : Refusal) :
    (ofCause (.ofRefusal file refusal)).IsTold := ⟨_, Ending.of_refusal file refusal⟩

/-- Runs that end alike in near states, or with errors that are told; then the same streams are open after them. -/
inductive RunsNear {Space : Type} : (first second : Option Thrown × State Space) → Prop
  | ended {first second : State Space} (thrown : Option Thrown) (near : first.Near second) :
    RunsNear (thrown, first) (thrown, second)
  | told {first second : State Space} {thrown thrown' : Thrown} (told : thrown.IsTold)
    (told' : thrown'.IsTold) (areOpen : first.streams.areOpen = second.streams.areOpen) :
    RunsNear (some thrown, first) (some thrown', second)

theorem RunsNear.refl {Space : Type} (run : Option Thrown × State Space) : RunsNear run run :=
  .ended run.1 (.refl run.2)

namespace Script

namespace Warning

variable {first second : State Space}

theorem text_ne_nil (warning : Warning) (file : Text) : warning.text file ≠ [] := by simp [text]

theorem write_near (warning other : Warning) (file : Text) (near : first.Near second) :
    RunsNear (warning.write file first) (other.write file second) := by
  unfold write
  rw [near.closed]
  split
  · exact .ended _ near
  · refine .ended _ ⟨near.space, near.out, near.closed, ?_⟩
    simp [Streams.write, Streams.set, Streams.of, text_ne_nil]

theorem give_near {warning other : Warning} (same : warning.message = other.message) (file : Text)
    (near : first.Near second) : RunsNear (warning.give file first) (other.give file second) := by
  unfold give
  rw [near.space, same]
  split
  · exact write_near _ _ file near
  · exact .ended _ near
  · exact .told (.of_refusal _ _) (.of_refusal _ _) near.areOpen
  · split
    · exact .ended _ near
    · exact write_near _ _ file ⟨rfl, near.out, near.closed, near.silent⟩

/-- Whether warnings end the compiling, and whether any of them is written, does not depend on their lines. -/
theorem giveAll_near {warnings others : List Warning}
    (same : warnings.map (·.message) = others.map (·.message)) (file : Text) (near : first.Near second) :
    RunsNear (giveAll file warnings first) (giveAll file others second) := by
  induction warnings generalizing others first second with
  | nil =>
    obtain rfl : others = [] := List.map_eq_nil_iff.mp same.symm
    exact .ended _ near
  | cons warning warnings ih =>
    obtain ⟨other, others, rfl, message, rest⟩ := List.map_eq_cons_iff.mp same.symm
    have given := give_near message.symm file near
    rw [giveAll, giveAll]
    generalize warning.give file first = one, other.give file second = two at given
    cases given with
    | ended thrown between =>
      cases thrown with
      | none => exact ih rest.symm between
      | some thrown => exact .ended _ between
    | told told told' areOpen => exact .told told told' areOpen

/-- What giving warnings comes to: no stream is closed by it, and an error that it ends with is told. -/
structure IsMild (before : State Space) (given : Option Thrown × State Space) : Prop where
  areOpen : given.2.streams.areOpen = before.streams.areOpen
  told : ∀ thrown, given.1 = some thrown → thrown.IsTold

theorem IsMild.idle (state : State Space) : IsMild state (none, state) := ⟨rfl, by simp⟩

theorem IsMild.ended {thrown : Thrown} (told : thrown.IsTold) (state : State Space) :
    IsMild state (some thrown, state) := ⟨rfl, by simpa using told⟩

theorem write_isMild (warning : Warning) (file : Text) (state : State Space) :
    IsMild state (warning.write file state) := by
  unfold write
  split
  · exact .ended ⟨_, rfl⟩ state
  · exact ⟨rfl, by simp⟩

theorem give_isMild (warning : Warning) (file : Text) (state : State Space) :
    IsMild state (warning.give file state) := by
  unfold give
  split
  · exact write_isMild _ _ _
  · exact .idle state
  · exact .ended (.of_refusal _ _) state
  · split
    · exact .idle state
    · obtain ⟨areOpen, told⟩ := write_isMild warning file
        { state with space := { state.space with filter := .shownOnce (warning.message :: _) } }
      exact ⟨areOpen, told⟩

theorem giveAll_isMild (warnings : List Warning) (file : Text) (state : State Space) :
    IsMild state (giveAll file warnings state) := by
  induction warnings generalizing state with
  | nil => exact .idle state
  | cons warning warnings ih =>
    have first := warning.give_isMild file state
    rw [giveAll]
    split
    · next between given =>
      rw [given] at first
      obtain ⟨areOpen, told⟩ := ih between
      exact ⟨areOpen.trans first.areOpen, told⟩
    · exact first

/-- A warning that is given and not written does nothing. -/
theorem eq_of_give_silent {warning : Warning} {file : Text} {state after : State Space}
    (given : warning.give file state = (none, after)) (silent : after.streams.err.text = []) :
    after = state := by
  have written {state : State Space} (given : warning.write file state = (none, after)) : False := by
    unfold write at given
    split at given
    · cases given
    · cases given
      simp [Streams.write, Streams.set, Streams.of, text_ne_nil] at silent
  unfold give at given
  split at given
  · exact (written given).elim
  · cases given
    rfl
  · cases given
  · split at given
    · cases given
      rfl
    · exact (written given).elim

/-- Warnings that are given and not written do nothing. -/
theorem eq_of_giveAll_silent {warnings : List Warning} {file : Text} {state after : State Space}
    (given : giveAll file warnings state = (none, after)) (silent : after.streams.err.text = []) :
    after = state := by
  induction warnings generalizing state with
  | nil =>
    cases given
    rfl
  | cons warning warnings ih =>
    rw [giveAll] at given
    split at given
    · next between first =>
      obtain rfl := ih given
      exact eq_of_give_silent first silent
    · next ended => exact absurd given (ended after)

end Warning

/-- A program comes to the same in near states. -/
theorem Program.run_near (program : Program) {first second : State Space} (near : first.Near second) :
    RunsNear (program.run first) (program.run second) := by
  obtain ⟨base, err, err', rfl, rfl, silent⟩ := near.exists_after
  rw [program.run_after, program.run_after]
  exact .ended _ (.of_after _ silent)

/-- What was on standard error before a program is there after it. -/
theorem Program.silent_of_run {program : Program} {state after : State Space} {thrown : Option Thrown}
    (ran : program.run state = (thrown, after)) (silent : after.streams.err.text = []) :
    state.streams.err.text = [] := by
  obtain ⟨space, ⟨out, ⟨err, closed⟩⟩⟩ := state
  have further := program.run_after ⟨[], err⟩ ⟨space, ⟨out, ⟨[], closed⟩⟩⟩
  simp only [State.after, List.nil_append, List.append_nil] at further
  rw [ran] at further
  obtain ⟨-, rfl⟩ := Prod.mk.inj further
  exact (List.append_eq_nil_iff.mp silent).1

end Script

end DocExamples
