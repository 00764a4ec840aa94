import DocExamples.Collector
import DocExamples.Proofs.Script.Literal

namespace DocExamples.Collector

open Text Script

/-- What stands in front of each quoted line of a report. -/
def lead : Text := times 4 [' ']

/-- A line as a report shows it. -/
def shownLine (line : Text) : Text := lead ++ quote line

/-- The text that a string literal stands for, where there is nothing else. -/
def literal? (literal : Text) : Option Text :=
  match Lexing.innerStep ⟨1, [⟨0, 0⟩], [], Lexing.noLead⟩ literal with
  | .goes [⟨.str text, _, _⟩] _ _ [] => some text
  | _ => none

/-- The line that a line of a report shows. -/
def readLine? (shown : Text) : Option Text := after? lead shown >>= literal?

/-- The last section of a report, below its title, and what stands above. Lines are taken from the last one on. -/
def cutSection? (title : Text) (lines : List Text) : Option (List Text × List Text) :=
  match lines.dropWhile lead.isPrefixOf with
  | first :: above => if first = title then some ((lines.takeWhile lead.isPrefixOf).reverse, above) else none
  | [] => none

/-- The lines in the two sections of a report. -/
def sections? (report : Text) : Option (List Text × List Text) := do
  let (actual, above) ← cutSection? "Actual:".toList (pieces '\n' report).reverse
  let (expected, _) ← cutSection? "Expected:".toList above
  return (expected, actual)

/-- The expected lines and the actual ones that a report shows. -/
def readReport? (report : Text) : Option (List Text × List Text) := do
  let (expected, actual) ← sections? report
  return (← expected.mapM readLine?, ← actual.mapM readLine?)

theorem literal?_quote (t : Text) : literal? (quote t) = some t := by
  have read : Lexing.innerStep ⟨1, [⟨0, 0⟩], [], Lexing.noLead⟩ (quote t ++ []) =
      .goes [⟨.str t, 1, 0⟩] false ⟨1, [⟨0, 0⟩], [], Lexing.noLead⟩ [] :=
    Lexing.innerStep_quote _ t rfl
  rw [List.append_nil] at read
  rw [literal?, read]

theorem readLine?_shownLine (line : Text) : readLine? (shownLine line) = some line := by
  rw [readLine?, shownLine, after?_append]
  exact literal?_quote line

theorem shownLine_inj {line line' : Text} (same : shownLine line = shownLine line') : line = line' := by
  have read := readLine?_shownLine line
  rw [same, readLine?_shownLine] at read
  exact (Option.some.inj read).symm

theorem mapM_readLine? (lines : List Text) : (lines.map shownLine).mapM readLine? = some lines := by
  induction lines with
  | nil => rfl
  | cons line lines ih =>
    rw [List.map_cons, List.mapM_cons, readLine?_shownLine, ih]
    rfl

theorem inLine_shownLine (line : Text) : InLine (shownLine line) :=
  InLine.append (by decide) (Lexing.quote_inLine line)

theorem newline_not_mem_shownLine (line : Text) : '\n' ∉ shownLine line :=
  fun mem => Lexing.ne_of_inLine (inLine_shownLine line _ mem) rfl

/-- A section is cut off below its title, which does not start as a quoted line does. -/
theorem cutSection?_append {title : Text} (untitled : lead.isPrefixOf title = false) (lines above : List Text) :
    cutSection? title ((lines.map shownLine).reverse ++ title :: above) = some (lines.map shownLine, above) := by
  have quoted : ∀ line ∈ (lines.map shownLine).reverse, lead.isPrefixOf line = true := by
    intro line mem
    obtain ⟨shown, -, rfl⟩ := List.mem_map.mp (List.mem_reverse.mp mem)
    exact List.isPrefixOf_iff_prefix.mpr (List.prefix_append lead _)
  have stops : ¬ lead.isPrefixOf title = true := by simp [untitled]
  rw [cutSection?, List.dropWhile_append_of_pos quoted, List.takeWhile_append_of_pos quoted,
    List.dropWhile_cons_of_neg stops, List.takeWhile_cons_of_neg stops]
  simp

section Report

variable (name : Text) (expected actual : List Text)

/-- The lines of a report: those of the sentence that names the doctest, and the two sections. -/
theorem pieces_explain : pieces '\n' (explain name (.verification (.differentLines expected actual))) =
    pieces '\n' ("Output of ".toList ++ name ++ " does not match.".toList) ++
      ("Expected:".toList :: expected.map shownLine ++ "Actual:".toList :: actual.map shownLine) := by
  have lines : ∀ line ∈ "Expected:".toList :: expected.map shownLine ++ "Actual:".toList :: actual.map shownLine,
      '\n' ∉ line := by
    intro line mem
    simp only [List.mem_append, List.mem_cons, List.mem_map] at mem
    rcases mem with (rfl | ⟨shown, -, rfl⟩) | rfl | ⟨shown, -, rfl⟩
    · decide
    · exact newline_not_mem_shownLine shown
    · decide
    · exact newline_not_mem_shownLine shown
  have whole : explain name (.verification (.differentLines expected actual)) =
      joinWith ['\n'] (("Output of ".toList ++ name ++ " does not match.".toList) ::
        ("Expected:".toList :: expected.map shownLine ++ "Actual:".toList :: actual.map shownLine)) := by
    change joinWith ['\n'] (["Output of ".toList ++ name ++ " does not match.".toList, "Expected:".toList] ++
      expected.map shownLine ++ ["Actual:".toList] ++ actual.map shownLine) = _
    simp only [List.append_assoc, List.cons_append, List.nil_append]
  rw [whole, joinWith_cons (by simp), pieces_append_mark, pieces_joinWith lines (by simp)]

theorem sections?_explain : sections? (explain name (.verification (.differentLines expected actual))) =
    some (expected.map shownLine, actual.map shownLine) := by
  have fromEnd : (pieces '\n' (explain name (.verification (.differentLines expected actual)))).reverse =
      (actual.map shownLine).reverse ++ "Actual:".toList :: ((expected.map shownLine).reverse ++
        "Expected:".toList ::
          (pieces '\n' ("Output of ".toList ++ name ++ " does not match.".toList)).reverse) := by
    rw [pieces_explain]
    simp
  rw [sections?, fromEnd, cutSection?_append (by decide)]
  change (cutSection? "Expected:".toList _).bind _ = _
  rw [cutSection?_append (by decide)]
  rfl

theorem readReport?_explain : readReport? (explain name (.verification (.differentLines expected actual))) =
    some (expected, actual) := by
  rw [readReport?, sections?_explain]
  change ((expected.map shownLine).mapM readLine?).bind _ = _
  rw [mapM_readLine?]
  change ((actual.map shownLine).mapM readLine?).bind _ = _
  rw [mapM_readLine?]
  rfl

end Report

/-- Lines that are reported differ. -/
theorem ne_of_verify {wanted expected actual : List Text} {stdout stderr : Text}
    (mismatch : verify wanted stdout stderr = .error (.differentLines expected actual)) : expected ≠ actual := by
  rw [verify] at mismatch
  split at mismatch
  · cases mismatch
  · split at mismatch
    · next apart =>
      cases mismatch
      exact apart.symm
    · cases mismatch

/-- The report on two lists of lines is read back as these lists, one line of the report for each of their
lines. Its sections differ if verifying output found the lists, and no other lists have the same report. -/
theorem explain_tells_lines (name : Text) (expected actual : List Text) :
    readReport? (explain name (.verification (.differentLines expected actual))) = some (expected, actual) ∧
    sections? (explain name (.verification (.differentLines expected actual))) =
      some (expected.map shownLine, actual.map shownLine) ∧
    (∀ line, InLine (shownLine line)) ∧
    (∀ wanted stdout stderr, verify wanted stdout stderr = .error (.differentLines expected actual) →
      expected.map shownLine ≠ actual.map shownLine) ∧
    ∀ name' expected' actual', explain name' (.verification (.differentLines expected' actual')) =
      explain name (.verification (.differentLines expected actual)) → expected' = expected ∧ actual' = actual := by
  refine ⟨readReport?_explain name expected actual, sections?_explain name expected actual, inLine_shownLine,
    ?_, ?_⟩
  · intro wanted stdout stderr mismatch same
    exact ne_of_verify mismatch ((List.map_inj_right fun _ _ => shownLine_inj).mp same)
  · intro name' expected' actual' same
    have read := readReport?_explain name' expected' actual'
    rw [same, readReport?_explain, Option.some.injEq, Prod.mk.injEq] at read
    exact ⟨read.1.symm, read.2.symm⟩

/-- A name that looks like a report itself. -/
def lookalike : Text := "doc\nExpected:\n    'b'\nActual:".toList

/-- The look of the name does not mislead, and a blank at the end of a line is told from a tab. -/
theorem lookalike_tells_lines :
    verify ["a ".toList] "a\t\n".toList [] = .error (.differentLines ["a ".toList] ["a\t".toList]) ∧
    readReport? (explain lookalike (.verification (.differentLines ["a ".toList] ["a\t".toList]))) =
      some (["a ".toList], ["a\t".toList]) ∧
    ["a ".toList].map shownLine ≠ ["a\t".toList].map shownLine ∧
    ∀ expected actual, explain lookalike (.verification (.differentLines expected actual)) =
      explain lookalike (.verification (.differentLines ["a ".toList] ["a\t".toList])) →
      expected = ["a ".toList] ∧ actual = ["a\t".toList] := by
  have mismatch :
      verify ["a ".toList] "a\t\n".toList [] = .error (.differentLines ["a ".toList] ["a\t".toList]) := by
    decide
  obtain ⟨read, -, -, sections, determined⟩ := explain_tells_lines lookalike ["a ".toList] ["a\t".toList]
  exact ⟨mismatch, read, sections _ _ _ mismatch, determined lookalike⟩

end DocExamples.Collector
