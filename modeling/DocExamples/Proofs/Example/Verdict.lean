import DocExamples.Proofs.Example.Acceptance
import DocExamples.Proofs.Text.Splitting

namespace DocExamples

open Text

/-- Output without anything on stderr is accepted as the lines of a text exactly when, with LF for each CRLF, it
is that text, or one of the two is the other with a LF that ends its last line. Else the lines that
were compared are reported, and they differ. Anything on stderr is reported before that. -/
theorem verify_splitLines_iff (text stdout : Text) :
    (verify (splitLines text) stdout [] = .ok () ↔
      toLf stdout = toLf text ∨ EndsLast (toLf text) (toLf stdout) ∨ EndsLast (toLf stdout) (toLf text)) ∧
    (∀ mismatch, verify (splitLines text) stdout [] = .error mismatch →
      ∃ expected actual, mismatch = .differentLines expected actual ∧ expected ≠ actual ∧
        expected = comparableLines (splitLines text) ∧ actual = comparableLines (splitLines stdout)) ∧
    ∀ stderr : Text, stderr ≠ [] → verify (splitLines text) stdout stderr = .error (.writtenToStderr stderr) := by
  refine ⟨?_, ?_, ?_⟩
  · rw [verify_eq_ok_iff, comparableLines_splitLines_iff]
  · intro mismatch found
    rw [verify, if_neg (by simp)] at found
    split at found
    · next apart =>
      cases found
      exact ⟨_, _, rfl, apart.symm, rfl, rfl⟩
    · cases found
  · intro stderr written
    rw [verify, if_pos written]

/-- A CR before a CRLF stays in its line, and an empty text has no last line to end. -/
theorem doubledReturn_verify :
    verify (splitLines "a\r\r\nb".toList) "a\r\r\nb\r\n".toList [] = .ok () ∧
    (∃ expected actual, verify (splitLines []) "\n".toList [] = .error (.differentLines expected actual) ∧
      expected ≠ actual) ∧
    verify (splitLines []) [] ['w'] = .error (.writtenToStderr ['w']) := by
  refine ⟨(verify_splitLines_iff _ _).1.mpr (.inr (.inl ?_)), ?_, ?_⟩
  · exact ⟨by decide, by decide, by decide⟩
  · have refused : verify (splitLines []) "\n".toList [] = .error (.differentLines [] [[]]) := by decide
    obtain ⟨expected, actual, same, apart, -⟩ := (verify_splitLines_iff [] "\n".toList).2.1 _ refused
    rw [same] at refused
    exact ⟨expected, actual, refused, apart⟩
  · exact (verify_splitLines_iff [] []).2.2 ['w'] (by decide)

end DocExamples
