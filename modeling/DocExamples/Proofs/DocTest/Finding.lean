import DocExamples.CommandLine.Report
import DocExamples.Proofs.DocTest.Run
import DocExamples.Proofs.Text.Lines
import DocExamples.Script.Language
import Mathlib.Control.Monad.Basic

namespace DocExamples

open Text Script Console Effects

/-- What is found of a doctest. -/
inductive Finding
  | failure (cause : Cause)
  | stderr (text : Text)
  | difference (expected actual : List Text)
  | success
  deriving DecidableEq, Repr

namespace Finding

/-- The outcome that stands for a finding. -/
def outcome (name : Text) : Finding → Outcome
  | failure cause => ⟨name, .error, cause.type.name.toList ++ ": ".toList ++ cause.text, none⟩
  | stderr text => ⟨name, .failed, (Mismatch.writtenToStderr text).message, none⟩
  | difference expected actual =>
    ⟨name, .failed, (Mismatch.differentLines expected actual).message, some (expected, actual)⟩
  | success => ⟨name, .passed, [], none⟩

/-- What is reported of a finding: a message unless there is nothing to find, and the lines if they
differ. -/
def report (name : Text) : Finding → List (Text × Json)
  | failure cause =>
    [("name".toList, .str name), ("status".toList, .str "error".toList),
      ("message".toList, .str (cause.type.name.toList ++ ": ".toList ++ cause.text))]
  | stderr text =>
    [("name".toList, .str name), ("status".toList, .str "failed".toList),
      ("message".toList, .str (Mismatch.writtenToStderr text).message)]
  | difference expected actual =>
    [("name".toList, .str name), ("status".toList, .str "failed".toList),
      ("message".toList, .str (Mismatch.differentLines expected actual).message),
      ("expected".toList, .arr (expected.map .str)), ("actual".toList, .arr (actual.map .str))]
  | success => [("name".toList, .str name), ("status".toList, .str "passed".toList)]

variable [Language]

/-- What is to be found of a chain of snippets and the lines expected of it. -/
inductive Of (chain : List Snippet) (expected : List Text) : Finding → Prop
  | failure {after : World} {thrown : Thrown} {text : Text} :
      Snippet.FirstFails chain .fresh after thrown → thrown.text = .ok text →
      Of chain expected (.failure ⟨thrown.type, text⟩)
  | stderr {after : World} : Snippet.AllComplete chain .fresh after → after.written.err ≠ [] →
      Of chain expected (.stderr after.written.err)
  | difference {after : World} : Snippet.AllComplete chain .fresh after → after.written.err = [] →
      comparableLines (splitLines after.written.out) ≠ comparableLines expected →
      Of chain expected
        (.difference (comparableLines expected) (comparableLines (splitLines after.written.out)))
  | success {after : World} : Snippet.AllComplete chain .fresh after → after.written.err = [] →
      comparableLines (splitLines after.written.out) = comparableLines expected →
      Of chain expected .success

/-- A failure of a chain, if there is one, has a text. -/
def IsTold (chain : List Snippet) : Prop :=
  ∀ after thrown, Snippet.FirstFails chain .fresh after thrown → ∃ text, thrown.text = .ok text

variable {chain : List Snippet} {expected : List Text} {finding other : Finding}

/-- No more than one thing is to be found. -/
theorem Of.unique (h : Of chain expected finding) (h' : Of chain expected other) :
    other = finding := by
  cases h with
  | failure fails told =>
    cases h' with
    | failure fails' told' =>
      obtain ⟨-, rfl⟩ := fails.unique fails'
      rw [told'] at told
      cases told
      rfl
    | stderr completes | difference completes | success completes =>
      exact absurd fails (completes.not_firstFails _)
  | stderr completes written | difference completes silent differs | success completes silent same =>
    cases h' with
    | failure fails => exact absurd fails (completes.not_firstFails _)
    | stderr completes' | difference completes' | success completes' =>
      obtain rfl := completes.unique completes'
      simp_all

end Finding

namespace DocTest

section

variable [Language] {test : DocTest} {console : Console}

end

/-- A doctest that closes standard output, where nothing was written. -/
def closing : DocTest :=
  make "Closing".toList "import sys\nsys.stdout.close()\n".toList (.preamble []) Expectation.defaultComment

end DocTest

end DocExamples
