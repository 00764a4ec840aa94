import DocExamples.Console.Action
import DocExamples.Proofs.Effects

namespace DocExamples.Console.Act

open Effects

variable {α : Type}

@[simp] theorem run_outcome (act : Act α) (console : Console) :
    (outcome act).run console = (.ok (act.run console).1, (act.run console).2) := rfl

theorem run_enter (number : Nat) (console : Console) :
    (enter number).run console =
      match console.enter number with
      | .ok next => (.ok (), next)
      | .error problem => (.error problem, console) := by
  rw [enter, run_bind, run_get]
  dsimp only
  cases console.enter number <;> rfl

theorem run_exit (number : Nat) (console : Console) :
    (exit number).run console =
      match console.exit number with
      | (none, next) => (.ok (), next)
      | (some problem, next) => (.error problem, next) := by
  rw [exit, run_bind, run_get]
  dsimp only
  rcases console.exit number with ⟨_ | _, _⟩ <;> rfl

theorem run_write (stream : Stream) (text : Text) (console : Console) :
    (write stream text).run console =
      match console.write stream text with
      | .ok next => (.ok (), next)
      | .error problem => (.error problem, console) := by
  rw [write, run_bind, run_get]
  dsimp only
  cases console.write stream text <;> rfl

theorem run_print (text : Text) (console : Console) :
    (print text).run console =
      match console.print text with
      | .ok next => (.ok (), next)
      | .error problem => (.error problem, console) := by
  rw [print, run_bind, run_get]
  dsimp only
  cases console.print text <;> rfl

theorem run_onStreams (change : Streams → α × Streams) (console : Console) :
    (onStreams change).run console =
      match console.streams? with
      | some streams => (.ok (change streams).1, console.putStreams (change streams).2)
      | none => (.error streamMissing, console) := by
  rw [onStreams, run_bind, run_get]
  dsimp only
  cases console.streams? <;> rfl

/-- What an act comes to for a capture: problems that are not contained pass through. -/
def containedResult : Except Problem α → Except Problem (Except Problem α)
  | .ok value => .ok (.ok value)
  | .error problem => if problem.isContained then .ok (.error problem) else .error problem

theorem run_contained (act : Act α) (console : Console) :
    (contained act).run console = (containedResult (act.run console).1, (act.run console).2) := by
  rw [contained, run_bind, run_outcome]
  rcases act.run console with ⟨problem | _, _⟩
  · simp only [containedResult]
    cases problem.isContained <;> rfl
  · rfl

/-- A window that cannot be entered is not left either. -/
theorem run_inside_of_refused {number : Nat} {console : Console} {problem : Problem}
    (h : console.enter number = .error problem) (act : Act α) :
    (inside number act).run console = (.error problem, console) := by
  rw [inside, run_bind, run_enter, h]

/-- A window that is entered is left whatever the act comes to. -/
theorem run_inside_of_entered {number : Nat} {console entered after : Console}
    {result : Except Problem α} (henter : console.enter number = .ok entered) (act : Act α)
    (hact : act.run entered = (result, after)) (hexit : (after.exit number).1 = none) :
    (inside number act).run console = (result, (after.exit number).2) := by
  rw [inside, run_bind, run_enter, henter]
  dsimp only
  rw [run_bind, run_outcome, hact]
  dsimp only
  have left : after.exit number = (none, (after.exit number).2) := Prod.ext hexit rfl
  rw [run_bind, run_exit, left]
  cases result <;> rfl

end DocExamples.Console.Act
