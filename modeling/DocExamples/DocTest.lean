import DocExamples.Context
import DocExamples.Example.Expectation
import DocExamples.Example.Extraction
import DocExamples.Example.Verdict

namespace DocExamples

open Text Script Console

structure DocTest where
  name : Text
  code : Text
  comment : Text
  context : Context
  deriving DecidableEq, Repr

inductive DocTestFailure
  | execution (description : Text) (written : Written)
  | verification (mismatch : Mismatch)
  deriving DecidableEq, Repr

inductive Status
  | passed
  | failed
  | error
  deriving DecidableEq, Repr

def Status.name : Status → String
  | passed => "passed"
  | failed => "failed"
  | error => "error"

/-- The outcome of a doctest: its message unless it passed, and the lines that differ, if some do. -/
structure Outcome where
  name : Text
  status : Status
  message : Text
  difference : Option (List Text × List Text)
  deriving DecidableEq, Repr

namespace Outcome

def passed (outcome : Outcome) : Bool := outcome.status == .passed

def of (name : Text) : Except DocTestFailure Unit → Outcome
  | .ok () => { name, status := .passed, message := [], difference := none }
  | .error (.execution description _) =>
    { name, status := .error, message := description, difference := none }
  | .error (.verification mismatch) =>
    { name
      status := .failed
      message := mismatch.message
      difference := match mismatch with
        | .differentLines expected actual => some (expected, actual)
        | .writtenToStderr _ => none }

end Outcome

namespace DocTest

def make (name code : Text) (preamble : Context) (comment : Text) : DocTest :=
  { name
    code
    comment
    context := preamble.extend ⟨code, "<doctest ".toList ++ name ++ ['>']⟩ }

def incompleteMessage : String := "DocTest requires a name, code and a preamble."

/-- A doctest of a name, code and preamble, all of which it needs. -/
def make? (name code : Option Text) (preamble : Option Context) (comment : Text) : Option DocTest := do
  return make (← name) (← code) (← preamble) comment

def repr (test : DocTest) : Text := "DocTest(".toList ++ quote test.name ++ [')']

def expected (test : DocTest) : List Text := (Expectation.read test.comment test.code).lines

variable [Language]

def execute (test : DocTest) : Act Unit := do
  match (← test.context.act Language.fresh).1 with
  | .completed => return
  | .failed cause => throw (.failed cause)
  | .escaped cause => throw (.raised cause)

def loops (test : DocTest) : Nat := Snippet.countWaiting test.context.chain .fresh

def description : Problem → Text
  | .failed cause => cause.description
  | problem => problem.message

/-- What comes of a doctest whose code was captured. -/
def judge (test : DocTest) (captured : Captured Unit) : Except DocTestFailure Unit :=
  match captured.result with
  | .error problem => .error (.execution (description problem) captured.written)
  | .ok () =>
    (verify test.expected captured.written.out captured.written.err).mapError .verification

def run (test : DocTest) : Act (Except DocTestFailure Unit) :=
  return test.judge (← Act.capture test.execute)

def outcome (test : DocTest) : Act Outcome := return .of test.name (← test.run)

/-- The doctests of the records' examples. Without a preamble an empty one is used. -/
def ofRecords (records : List Documentation.Record) (preamble : Option Context) (comment : Text) :
    List DocTest :=
  (Example.ofRecords records).map fun e =>
    make e.name e.code (preamble.getD (Context.preamble [])) comment

def outcomes : List DocTest → Act (List Outcome)
  | [] => return []
  | test :: tests => do
    let first ← test.outcome
    return first :: (← outcomes tests)

end DocTest

end DocExamples
