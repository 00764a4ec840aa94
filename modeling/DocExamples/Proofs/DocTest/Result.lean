import DocExamples.CommandLine.Execution
import DocExamples.Proofs.DocTest.Sequence

namespace DocExamples

open Text Script Console Effects

namespace DocTest

variable [Language] {console : Console} {test : DocTest} {tests : List DocTest}

end DocTest

/-- A result and an outcome of one kind: nothing to report, lines that differ, an output on standard error,
or an error of the code. -/
structure Outcome.Agrees (outcome : Outcome) (result : Except DocTestFailure Unit) : Prop where
  passed : result = .ok () ↔ outcome.status = .passed
  differentLines : ∀ expected actual,
    result = .error (.verification (.differentLines expected actual)) ↔
      outcome.status = .failed ∧ outcome.difference = some (expected, actual)
  writtenToStderr : (∃ text, result = .error (.verification (.writtenToStderr text))) ↔
    outcome.status = .failed ∧ outcome.difference = none
  execution : (∃ description written, result = .error (.execution description written)) ↔
    outcome.status = .error

end DocExamples
