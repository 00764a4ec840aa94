import DocExamples.Proofs.DocTest.LineEnds
import DocExamples.Proofs.DocTest.Run
import DocExamples.Proofs.Text.Crlf

namespace DocExamples

open Text Script Console Effects

/-- A further snippet that is run alike makes chains that are. -/
theorem Context.runAll_extend_near [Language] {first second : Snippet}
    (near : ∀ world, RunsNear (first.run world) (second.run world)) (parent : Context) (world : World) :
    RunsNear (Snippet.runAll (parent.extend first).chain world)
      (Snippet.runAll (parent.extend second).chain world) := by
  rw [chain, chain, Snippet.runAll_append, Snippet.runAll_append]
  simp only [Snippet.runAll_singleton]
  split
  · exact near _
  · exact .refl _

namespace DocTest

/-- The status found of what was captured does not depend on what standard error holds, if it holds anything. -/
theorem status_judge_congr {first second : DocTest} (lines : first.expected = second.expected)
    {written written' : Written} (out : written.out = written'.out)
    (silent : written.err = [] ↔ written'.err = []) (result : Except Problem Unit) (name : Text) :
    (Outcome.of name (first.judge ⟨written, result⟩)).status =
      (Outcome.of name (second.judge ⟨written', result⟩)).status := by
  cases result with
  | error problem => rfl
  | ok value =>
    simp only [judge, verify, lines, out]
    by_cases err : written.err = []
    · simp only [err, silent.mp err, ne_eq, not_true, if_false]
    · simp only [err, mt silent.mpr err, ne_eq, not_false_iff, if_true]
      rfl

section

variable [Language]

/-- The status that running a doctest comes to depends on the lines expected and on how the chain runs, but for
what is said of its failure and what it writes to standard error. -/
theorem comesTo_status_congr {first second : DocTest} (name : first.name = second.name)
    (lines : first.expected = second.expected)
    (near : RunsNear (Snippet.runAll first.context.chain .fresh)
      (Snippet.runAll second.context.chain .fresh)) :
    (first.comesTo.map (Outcome.of first.name)).map Outcome.status =
      (second.comesTo.map (Outcome.of second.name)).map Outcome.status := by
  rw [comesTo, comesTo, Context.run, Context.run, name]
  generalize Snippet.runAll first.context.chain .fresh = ran at near ⊢
  generalize Snippet.runAll second.context.chain .fresh = ran' at near ⊢
  cases near with
  | @ended left left' thrown near =>
    simp only [Act.captureResult, near.areOpen]
    cases Act.containedResult (Ending.of thrown).result with
    | error problem => rfl
    | ok contained =>
      dsimp only
      split
      · exact congrArg Except.ok (status_judge_congr lines (congrArg Buffer.text near.out) near.silent _ _)
      · rfl
  | told told told' areOpen =>
    obtain ⟨cause, told⟩ := told
    obtain ⟨cause', told'⟩ := told'
    simp only [told, told', Ending.result, Act.captureResult, Act.containedResult, Problem.isContained,
      if_true, areOpen]
    split <;> rfl

/-- Where chains run alike, the outcomes have the same status. -/
theorem status_congr {first second : DocTest} (name : first.name = second.name)
    (lines : first.expected = second.expected)
    (near : RunsNear (Snippet.runAll first.context.chain .fresh)
      (Snippet.runAll second.context.chain .fresh)) :
    Outcome.status <$> first.outcome = Outcome.status <$> second.outcome := by
  funext console
  change (Outcome.status <$> first.outcome).run console = (Outcome.status <$> second.outcome).run console
  cases active : console.active with
  | some number =>
    have refused (test : DocTest) : (Act.capture test.execute).run console = (.error .windowActive, console) :=
      Act.run_capture_of_active (by rw [active]; rfl) test.execute
    simp only [run_map, outcome, run_bind, DocTest.run, refused]
  | none =>
    have same := comesTo_status_congr name lines near
    rw [run_map, run_map, run_outcome_comesTo active, run_outcome_comesTo active]
    cases console.locked with
    | true => rfl
    | false => exact congrArg (·, console) same

end

/-- Code whose line ends do not decide how it is run. -/
structure RunsWithCrlf (code : Text) : Prop where
  /-- Blank lines hold the margin of the part that is indented. -/
  margin : KeepsBlanks (pieces '\n' (indentedPart code))
  /-- A CRLF at the end of the code counts as two line ends, of which a backslash may take one. -/
  alone : StandsAlone (dedentCode code)

theorem run_toCrlf {code : Text} (file : Text) (noReturn : '\r' ∉ code) (runs : RunsWithCrlf code)
    (world : World) :
    RunsNear (Snippet.run ⟨toCrlf code, file⟩ world) (Snippet.run ⟨code, file⟩ world) := by
  have margin := (dedentCode_toCrlf_iff noReturn).mpr runs.margin
  have unified := (unifyNewlines_toCrlf (not_mem_dedentCode noReturn (by decide))).2
  have nul : '\x00' ∈ toCrlf (dedentCode code) ↔ '\x00' ∈ dedentCode code := by
    have soft := (softens_unifyNewlines (toCrlf (dedentCode code))).mem_iff (c := '\x00') rfl
    rwa [unified] at soft
  rw [← margin] at nul
  by_cases ends : ['\r', '\n'] <:+ toCrlf (dedentCode code)
  · by_cases sound : Compiles (dedentCode code)
    · obtain ⟨program, read⟩ := sound
      rw [← unified] at read
      obtain ⟨other, read', like⟩ := ofText_of_unifyNewlines ends read
      rw [unified] at read
      rw [← margin] at read'
      exact Snippet.runsNear_of_like file nul read' read like world
    · have alone := runs.alone
      rw [← unified] at alone sound
      have unsound := not_compiles_of_unifyNewlines ends alone sound
      rw [← margin] at unsound
      rw [unified] at sound
      exact Snippet.runsNear_of_refused file unsound sound world
  · have same := parse_unifyNewlines ends
    rw [unified, ← margin] at same
    rw [Snippet.run_of_parse_eq file nul same]
    exact .refl _

/-- With CRLF for LF code loses its margin as before exactly when its blank lines hold it, the lines expected
are the same, and the outcome has the same status for code that runs with CRLF. -/
theorem status_toCrlf {code comment : Text} (noReturn : '\r' ∉ code) (inLine : '\n' ∉ comment) :
    (dedentCode (toCrlf code) = toCrlf (dedentCode code) ↔ KeepsBlanks (pieces '\n' (indentedPart code))) ∧
    (Expectation.read comment (toCrlf code)).lines = (Expectation.read comment code).lines ∧
    (RunsWithCrlf code → ∀ name preamble,
      Outcome.status <$> (make name (toCrlf code) preamble comment).outcome =
        Outcome.status <$> (make name code preamble comment).outcome) := by
  obtain ⟨paired, unified⟩ := unifyNewlines_toCrlf noReturn
  have lines := Expectation.lines_read_unifyNewlines inLine paired
  rw [unified] at lines
  refine ⟨dedentCode_toCrlf_iff noReturn, lines.symm, fun runs name preamble => ?_⟩
  refine status_congr rfl lines.symm ?_
  exact preamble.runAll_extend_near (run_toCrlf _ noReturn runs) .fresh

/-- A block with a margin, which its blank line holds. -/
def marginBlock : Text := "  print(1)\n  \n  # Output:\n  # 1\n".toList

theorem marginBlock_toCrlf :
    ('\r' ∉ marginBlock ∧ '\n' ∉ ['#'] ∧ RunsWithCrlf marginBlock) ∧
    dedentCode (toCrlf marginBlock) = toCrlf (dedentCode marginBlock) ∧
    (Expectation.read ['#'] (toCrlf marginBlock)).lines = (Expectation.read ['#'] marginBlock).lines ∧
    Outcome.status <$> (make ['C'] (toCrlf marginBlock) (.preamble []) ['#']).outcome =
      Outcome.status <$> (make ['C'] marginBlock (.preamble []) ['#']).outcome := by
  have noReturn : '\r' ∉ marginBlock := by decide
  have inLine : '\n' ∉ ['#'] := by decide
  have runs : RunsWithCrlf marginBlock := ⟨by decide, fun ends => absurd ends (by decide)⟩
  obtain ⟨margin, lines, status⟩ := status_toCrlf noReturn inLine
  exact ⟨⟨noReturn, inLine, runs⟩, margin.mpr runs.margin, lines, status runs ['C'] (.preamble [])⟩

/-- A block below its tag, with an empty line before the margin. -/
def loweredBlock : Text := "\n  pass\n".toList

/-- A block that ends in a backslash. -/
def joinedBlock : Text := "x = 1 \\\n".toList

/-- The status of a doctest of a block. -/
def blockStatus (block : Text) : Except Problem Status :=
  ((Outcome.status <$> (make ['C'] block (.preamble []) ['#']).outcome).run .initial).1

/-- With CRLF the empty line keeps the margin from being removed, so that the code is refused. A backslash at
the end of the code takes the first of the two line ends for which the last CRLF counts. -/
theorem blocks_toCrlf_apart :
    dedentCode (toCrlf loweredBlock) ≠ toCrlf (dedentCode loweredBlock) ∧
    blockStatus (toCrlf loweredBlock) = .ok .error ∧ blockStatus loweredBlock = .ok .passed ∧
    dedentCode (toCrlf joinedBlock) = toCrlf (dedentCode joinedBlock) ∧
    blockStatus (toCrlf joinedBlock) = .ok .passed ∧ blockStatus joinedBlock = .ok .error := by
  decide +kernel

end DocTest

end DocExamples
