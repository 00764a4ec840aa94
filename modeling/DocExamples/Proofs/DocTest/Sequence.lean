import DocExamples.Proofs.DocTest.Finding
import Mathlib.Data.List.Perm.Basic

namespace DocExamples

open Text Script Console Effects

namespace DocTest

section

variable [Language]

variable {test : DocTest} {after : World}

variable {console : Console}

/-- What running a contained doctest comes to: what is found of what it wrote and of how its code ended. -/
def result (test : DocTest) : Except DocTestFailure Unit :=
  test.judge ⟨(test.context.run .fresh).2.written, (test.context.run .fresh).1.result⟩

end

end DocTest

end DocExamples
