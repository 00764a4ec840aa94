import DocExamples.Proofs.DocTest.Indentation
import DocExamples.Proofs.Example.LineEnds
import DocExamples.Proofs.Script.FinalLine
import DocExamples.Proofs.Script.Snippets
import DocExamples.Proofs.Text.Dedenting

namespace DocExamples

open Text Script

/-- Code with CRLF that is run alike with unified line ends. -/
structure IsPortable (code : Text) : Prop where
  /-- Blank lines that CRLF ends do not reduce the margin. -/
  margin : KeepsMargin (indentedPart code)
  /-- A CRLF at the end of the code counts as two line ends, which an error or a warning may tell. -/
  sound : ['\r', '\n'] <:+ dedentCode code →
    ∃ warnings, (Program.ofText (unifyNewlines (dedentCode code))).map Program.warnings = .ok warnings ∧
      (Program.ofText (dedentCode code)).map Program.warnings = .ok warnings

variable {code : Text}

namespace Snippet

theorem run_unifyNewlines (file : Text) (paired : isPaired code = true) (portable : IsPortable code) :
    Snippet.run ⟨unifyNewlines code, file⟩ = Snippet.run ⟨code, file⟩ := by
  have margin := dedentCode_unifyNewlines paired portable.margin
  have nul : '\x00' ∈ unifyNewlines (dedentCode code) ↔ '\x00' ∈ dedentCode code :=
    ((softens_unifyNewlines _).mem_iff rfl).symm
  rw [← margin] at nul
  by_cases ends : ['\r', '\n'] <:+ dedentCode code
  · obtain ⟨warnings, unified, whole⟩ := portable.sound ends
    obtain ⟨program, read, rfl⟩ := Effects.exists_of_map_eq_ok unified
    obtain ⟨other, read', like⟩ := ofText_of_unifyNewlines ends read
    rw [read'] at whole
    rw [← margin] at read
    exact run_of_like_warned file nul read read' like.symm (Except.ok.inj whole).symm
  · refine run_of_parse_eq file nul ?_
    rw [margin]
    exact (parse_unifyNewlines ends).symm

end Snippet

namespace DocTest

/-- Line ends do not decide the outcome of a doctest of portable code. -/
theorem outcome_unifyNewlines {comment : Text} (paired : isPaired code = true)
    (portable : IsPortable code) (inLine : '\n' ∉ comment) (name : Text) (preamble : Context) :
    (make name (unifyNewlines code) preamble comment).outcome =
      (make name code preamble comment).outcome := by
  refine outcome_congr rfl ?_ (Expectation.lines_read_unifyNewlines inLine paired)
  funext world
  simp only [make, Context.run_extend, Snippet.run_unifyNewlines _ paired portable]

end DocTest

end DocExamples
