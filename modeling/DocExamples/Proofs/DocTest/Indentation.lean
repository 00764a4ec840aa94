import DocExamples.DocTest
import DocExamples.Proofs.Context.Run
import DocExamples.Proofs.Example.MarkerLine
import DocExamples.Script.Language

namespace DocExamples

open Text Console

namespace DocTest

section

variable [Language]

/-- The outcome of a doctest depends on its name, on how its context runs and on the lines expected. -/
theorem outcome_congr {first second : DocTest} (name : first.name = second.name)
    (context : first.context.run = second.context.run) (lines : first.expected = second.expected) :
    first.outcome = second.outcome := by
  have act : first.context.act = second.context.act := by
    funext space
    rw [Context.act, Context.act, context]
  have execute : first.execute = second.execute := by rw [DocTest.execute, DocTest.execute, act]
  have judge : first.judge = second.judge := by
    funext captured
    rw [DocTest.judge, DocTest.judge, lines]
  have run : first.run = second.run := by rw [DocTest.run, DocTest.run, execute, judge]
  rw [outcome, outcome, name, run]

variable {lead block comment : Text}

/-- A block below its opening tag may be indented as far as one likes: its code without the margin, the
lines expected of it and the outcome of its doctest stay the same. -/
theorem outcome_indentBy (name : Text) (preamble : Context) (indent : lead.all isIndent = true)
    (below : block.head? = some '\n') (inLine : '\n' ∉ comment)
    (start : comment.head?.any isIndent = false) :
    dedentCode (indentBy lead block) = dedentCode block ∧
    (Expectation.read comment (indentBy lead block)).lines = (Expectation.read comment block).lines ∧
    (make name (indentBy lead block) preamble comment).outcome =
      (make name block preamble comment).outcome := by
  have code := dedentCode_indentBy indent below
  have lines := Expectation.lines_read_indentBy indent start inLine block
  refine ⟨code, lines, outcome_congr rfl ?_ lines⟩
  funext world
  have same : Snippet.run ⟨indentBy lead block, "<doctest ".toList ++ name ++ ['>']⟩ =
      Snippet.run ⟨block, "<doctest ".toList ++ name ++ ['>']⟩ := Snippet.run_congr rfl code
  simp only [make, Context.run_extend, same]

end

/-- A block with an empty line, a line of white space and one that stands further to the left. -/
def slantedBlock : Text := "\n\t  print(1)\n \n\tif 1: pass\r\n\n\t// Output: \n\t //  1\n\t".toList

theorem slantedBlock_outcome :
    (" \t".toList.all isIndent = true ∧ slantedBlock.head? = some '\n' ∧ '\n' ∉ "//".toList ∧
      "//".toList.head?.any isIndent = false) ∧
    dedentCode (indentBy " \t".toList slantedBlock) = dedentCode slantedBlock ∧
    (Expectation.read "//".toList (indentBy " \t".toList slantedBlock)).lines =
      (Expectation.read "//".toList slantedBlock).lines ∧
    (make "slanted".toList (indentBy " \t".toList slantedBlock) (.preamble []) "//".toList).outcome =
      (make "slanted".toList slantedBlock (.preamble []) "//".toList).outcome := by
  have hypotheses : " \t".toList.all isIndent = true ∧ slantedBlock.head? = some '\n' ∧
      '\n' ∉ "//".toList ∧ "//".toList.head?.any isIndent = false := by decide
  obtain ⟨indent, below, inLine, start⟩ := hypotheses
  exact ⟨⟨indent, below, inLine, start⟩,
    outcome_indentBy "slanted".toList (.preamble []) indent below inLine start⟩

end DocTest

end DocExamples
