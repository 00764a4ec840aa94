import DocExamples.DocTest
import DocExamples.Proofs.Console.Capture
import DocExamples.Proofs.Context.Run

namespace DocExamples

open Text Script Console Effects

/-- Whether a capture contains what comes of an error. -/
def Thrown.isContained (thrown : Thrown) : Bool :=
  thrown.type.isContained && match thrown.text with
    | .ok _ => true
    | .error other => other.type.isContained

namespace Ending

theorem of_told {thrown : Thrown} {text : Text} (contained : thrown.type.isContained = true)
    (told : thrown.text = .ok text) : of (some thrown) = .failed ⟨thrown.type, text⟩ := by
  rw [of, if_pos contained, told]

theorem of_untold {thrown : Thrown} {other : Cause} (contained : thrown.type.isContained = true)
    (untold : thrown.text = .error other) : of (some thrown) = .escaped other := by
  rw [of, if_pos contained, untold]

/-- What an ending is for the one who runs the chain. -/
def result : Ending → Except Problem Unit
  | completed => .ok ()
  | failed cause => .error (.failed cause)
  | escaped cause => .error (.raised cause)

theorem containedResult_result {thrown : Thrown} (contained : thrown.isContained = true) :
    Act.containedResult (of (some thrown)).result = .ok (of (some thrown)).result := by
  rw [Thrown.isContained, Bool.and_eq_true] at contained
  cases told : thrown.text with
  | ok text => simp [of_told contained.1 told, result, Act.containedResult, Problem.isContained]
  | error other =>
    simp only [told] at contained
    simp [of_untold contained.1 told, result, Act.containedResult, Problem.isContained, contained.2]

end Ending

namespace DocTest

variable [Language]

theorem run_execute (test : DocTest) {console : Console} {number : Nat}
    (h : IsInside console number .empty) :
    test.execute.run console =
      ((test.context.run .fresh).1.result, console.refill number (test.context.run .fresh).2.streams) := by
  rw [DocTest.execute, run_bind, Context.act, Act.run_onStreams, h.streams?_eq]
  dsimp only
  rw [h.putStreams]
  change (match (test.context.run .fresh).1 with
    | .completed => _
    | .failed cause => _
    | .escaped cause => _ : Act Unit).run _ = _
  cases (test.context.run .fresh).1 <;> rfl

/-- What running a doctest comes to, or the problem that comes out of the run. -/
def comesTo (test : DocTest) : Except Problem (Except DocTestFailure Unit) :=
  (Act.captureResult (test.context.run .fresh).2.streams (test.context.run .fresh).1.result).map test.judge

variable {test : DocTest} {console : Console}

/-- A doctest leaves the console as it was. -/
theorem run_run (inactive : console.active = none) (test : DocTest) :
    test.run.run console = (if console.locked then .error .waiting else test.comesTo, console) := by
  rw [DocTest.run, run_bind, Act.run_capture inactive _ _ _ fun inner h => test.run_execute h, comesTo]
  cases console.locked with
  | true => rfl
  | false =>
    rw [if_neg Bool.false_ne_true, if_neg Bool.false_ne_true]
    cases Act.captureResult (test.context.run .fresh).2.streams (test.context.run .fresh).1.result <;> rfl

theorem run_outcome_comesTo (inactive : console.active = none) (test : DocTest) :
    test.outcome.run console =
      (if console.locked then .error .waiting else test.comesTo.map (Outcome.of test.name), console) := by
  rw [outcome, run_bind, run_run inactive]
  cases console.locked with
  | true => rfl
  | false => cases test.comesTo <;> rfl

/-- The code of a doctest leaves both streams open. -/
def LeavesOpen (test : DocTest) : Prop := (test.context.run .fresh).2.streams.areOpen = true

variable {after : World} {thrown : Thrown}

theorem leavesOpen_iff_of_allComplete (h : Snippet.AllComplete test.context.chain .fresh after) :
    test.LeavesOpen ↔ after.streams.areOpen = true := by
  rw [LeavesOpen, Context.run_of_allComplete h]

theorem comesTo_of_allComplete (h : Snippet.AllComplete test.context.chain .fresh after)
    (opened : test.LeavesOpen) :
    test.comesTo =
      .ok ((verify test.expected after.written.out after.written.err).mapError .verification) := by
  rw [leavesOpen_iff_of_allComplete h] at opened
  rw [comesTo, Context.run_of_allComplete h, Act.captureResult]
  simp only [Ending.result, Act.containedResult, opened, if_true]
  rfl

/-- What was written to a stream that is closed cannot be read. -/
theorem comesTo_of_not_leavesOpen (closed : ¬ test.LeavesOpen)
    (contained : ∀ after thrown, Snippet.FirstFails test.context.chain .fresh after thrown →
      thrown.isContained = true) : test.comesTo = .error streamClosed := by
  rw [LeavesOpen, Bool.not_eq_true] at closed
  rw [comesTo, Act.captureResult]
  rcases Snippet.allComplete_or_firstFails test.context.chain .fresh with
    ⟨after, completes⟩ | ⟨after, thrown, fails⟩
  · rw [Context.run_of_allComplete completes] at closed ⊢
    simp only [Ending.result, Act.containedResult, closed, Bool.false_eq_true, if_false]
    rfl
  · rw [Context.run_of_firstFails fails] at closed ⊢
    simp only [Ending.containedResult_result (contained _ _ fails), closed, Bool.false_eq_true, if_false]
    rfl

end DocTest

end DocExamples
