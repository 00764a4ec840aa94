import DocExamples.Text.Lines
import DocExamples.Text.Quoted

namespace DocExamples

open Text

inductive Mismatch
  | writtenToStderr (stderr : Text)
  | differentLines (expected actual : List Text)
  deriving DecidableEq, Repr

namespace Mismatch

def message : Mismatch → Text
  | writtenToStderr stderr => "Expected no output on stderr, got ".toList ++ quote stderr ++ ['.']
  | differentLines expected actual =>
    "Expected output ".toList ++ quoteList expected ++ ", got ".toList ++ quoteList actual ++ ['.']

end Mismatch

/-- Standard error has to be empty, and the lines of standard output have to be the expected ones,
up to a single empty last line on either side. -/
def verify (expected : List Text) (stdout stderr : Text) : Except Mismatch Unit :=
  let expected := comparableLines expected
  let actual := comparableLines (splitLines stdout)
  if stderr ≠ [] then .error (.writtenToStderr stderr)
  else if actual ≠ expected then .error (.differentLines expected actual)
  else .ok ()

end DocExamples
