import DocExamples.Proofs.DocTest.Run
import DocExamples.Proofs.Example.Acceptance
import DocExamples.Proofs.Script.Comments
import DocExamples.Proofs.Script.Snippets
import DocExamples.Proofs.Text.Margin

namespace DocExamples

open Text Script Script.Lexing Console Effects

/-- A marker line, and the lines of an output below it, each as a comment. -/
def outputLines (comment : Text) (lines : List Text) : List Text :=
  (comment ++ ' ' :: Expectation.markerWord) :: lines.map fun line => comment ++ ' ' :: line

/-- A program with an expected output below it. -/
def annotated (comment program : Text) (lines : List Text) : Text :=
  program ++ printed (outputLines comment lines)

variable {comment program : Text} {lines : List Text}

/-- A program of whole lines is read back with the output below it. -/
theorem Expectation.read_annotated (token : IsCommentToken comment)
    (whole : program = [] ∨ program.getLast? = some '\n')
    (unmarked : splitAtMarker? comment program = none) (areLines : ∀ line ∈ lines, IsLine line) :
    read comment (annotated comment program lines) =
      { exercised := program, lines := lines ++ [[]] } := by
  let place : Placement := ⟨[], .lf, rfl⟩
  let block : Block comment :=
    { program
      marker := place
      lines := lines.map (place, ·)
      tail := []
      whole
      unmarked
      areLines := by
        intro line hl
        obtain ⟨text, ht, rfl⟩ := List.mem_map.mp hl
        exact areLines text ht
      isTail := rfl }
  have text : block.text = annotated comment program lines := by
    simp [block, place, Block.text, Block.remainder, annotated, outputLines, printed, commentLine,
      LineEnd.text, List.flatMap_map]
  have output : block.output = lines := by simp [block, Block.output, Function.comp_def]
  rw [← text, read_block token block, output]

section

variable [Language]

/-- A context whose snippets complete and leave both streams open, with some lines on standard output and nothing
on standard error. -/
def Context.Prints (context : Context) (lines : List Text) : Prop :=
  ∃ after, Snippet.AllComplete context.chain .fresh after ∧ after.streams.areOpen = true ∧
    after.written.err = [] ∧ comparableLines (splitLines after.written.out) = lines

theorem Context.prints_iff {context : Context} :
    context.Prints lines ↔
      (Snippet.runAll context.chain .fresh).1 = none ∧ (context.run .fresh).2.streams.areOpen = true ∧
        (context.run .fresh).2.written.err = [] ∧
        comparableLines (splitLines (context.run .fresh).2.written.out) = lines := by
  rw [Prints, run]
  simp only [← Snippet.runAll_eq_completed_iff]
  rcases Snippet.runAll context.chain .fresh with ⟨thrown, after⟩
  simp

instance (context : Context) (lines : List Text) : Decidable (context.Prints lines) :=
  decidable_of_iff _ Context.prints_iff.symm

namespace DocTest

/-- A doctest that is run at a console, and passes. -/
def Passes (test : DocTest) (console : Console) : Prop :=
  ∃ outcome : Outcome, test.outcome.run console = (.ok outcome, console) ∧ outcome.passed = true

variable {test : DocTest} {console : Console}

/-- Code that fails passes no verification. -/
theorem comesTo_ne_ok_of_firstFails {after : World} {thrown : Thrown}
    (h : Snippet.FirstFails test.context.chain .fresh after thrown) : test.comesTo ≠ .ok (.ok ()) := by
  have problem : ∃ problem, (Ending.of (some thrown)).result = .error problem := by
    obtain ⟨cause, failed | escaped⟩ := Ending.exists_of_thrown thrown
    · exact ⟨_, by rw [failed, Ending.result]⟩
    · exact ⟨_, by rw [escaped, Ending.result]⟩
  obtain ⟨problem, ended⟩ := problem
  rw [comesTo, Context.run_of_firstFails h, ended]
  intro passes
  obtain ⟨captured, returned, passed⟩ := exists_of_map_eq_ok passes
  rw [judge, Act.result_of_captureResult returned] at passed
  cases passed

theorem comesTo_eq_ok_iff :
    test.comesTo = .ok (.ok ()) ↔ test.context.Prints (comparableLines test.expected) := by
  constructor
  · intro passes
    rcases Snippet.allComplete_or_firstFails test.context.chain .fresh with
      ⟨after, completes⟩ | ⟨after, thrown, fails⟩
    · have opened : test.LeavesOpen := by
        by_contra closed
        rw [comesTo_of_not_leavesOpen closed fun _ _ fails => absurd fails (completes.not_firstFails _)]
          at passes
        cases passes
      rw [comesTo_of_allComplete completes opened] at passes
      have verified := eq_ok_of_mapError (Except.ok.inj passes)
      rw [verify] at verified
      split at verified
      · cases verified
      · next silent =>
        split at verified
        · cases verified
        · next same =>
          exact ⟨after, completes, (leavesOpen_iff_of_allComplete completes).mp opened,
            not_not.mp silent, not_not.mp same⟩
    · exact absurd passes (comesTo_ne_ok_of_firstFails fails)
  · rintro ⟨after, completes, opened, silent, same⟩
    rw [comesTo_of_allComplete completes ((leavesOpen_iff_of_allComplete completes).mpr opened), verify,
      if_neg (not_not_intro silent), if_neg (not_not_intro same)]
    rfl

/-- A doctest passes exactly when its context prints the lines expected of it. -/
theorem passes_iff (test : DocTest) (inactive : console.active = none) (unlocked : console.locked = false) :
    test.Passes console ↔ test.context.Prints (comparableLines test.expected) := by
  rw [← comesTo_eq_ok_iff, Passes, run_outcome_comesTo inactive, unlocked, if_neg Bool.false_ne_true]
  constructor
  · rintro ⟨outcome, ran, passed⟩
    obtain ⟨result, came, rfl⟩ := exists_of_map_eq_ok (Prod.mk.inj ran).1
    rcases result with ⟨_ | _⟩ | _
    · cases passed
    · cases passed
    · exact came
  · intro came
    rw [came]
    exact ⟨_, rfl, rfl⟩

end DocTest

end

/-- A program that the lines below it have no part in: they are comments of its language, and neither its
margin nor its last line reaches into them. -/
structure StandsApart (comment program : Text) (lines : List Text) : Prop where
  mark : comment.head? = some '#'
  noReturn : '\r' ∉ printed (outputLines comment lines)
  noNul : '\x00' ∉ printed (outputLines comment lines)
  margin : dedentCode (annotated comment program lines) =
    dedentCode program ++ printed (outputLines comment lines)
  sound : Compiles (dedentCode (annotated comment program lines)) → Compiles (dedentCode program)

theorem StandsApart.areComments (apart : StandsApart comment program lines)
    (token : IsCommentToken comment) (areLines : ∀ line ∈ lines, IsLine line) :
    AreComments (outputLines comment lines) := by
  have comments (text : Text) (h : '\n' ∉ text) : IsComment (comment ++ ' ' :: text) := by
    obtain ⟨rest, rfl⟩ := List.head?_eq_some_iff.mp apart.mark
    exact ⟨rfl, by simpa using ⟨fun newline => token.noNewline (by simp [newline]), h⟩⟩
  refine ⟨fun line hl => ?_, apart.noReturn⟩
  rcases List.mem_cons.mp hl with rfl | hl
  · exact comments _ (by decide)
  · obtain ⟨text, ht, rfl⟩ := List.mem_map.mp hl
    exact comments text (areLines text ht).noNewline

theorem whole_dedentCode (whole : program = [] ∨ program.getLast? = some '\n') :
    dedentCode program = [] ∨ (dedentCode program).getLast? = some '\n' := by
  rcases whole with rfl | last
  · exact .inl rfl
  · exact .inr (getLast?_dedentCode last)

/-- A program that stands apart is, but for lines, the same with the lines below it. -/
theorem StandsApart.exists_like (apart : StandsApart comment program lines)
    (token : IsCommentToken comment) (whole : program = [] ∨ program.getLast? = some '\n')
    (areLines : ∀ line ∈ lines, IsLine line) {first : Program}
    (read : Program.ofText (dedentCode program) = .ok first) :
    ∃ second, Program.ofText (dedentCode (annotated comment program lines)) = .ok second ∧
      unlinedBlock second = unlinedBlock first := by
  rw [apart.margin]
  exact ofText_before_comments read (whole_dedentCode whole) (apart.areComments token areLines)

/-- A program that stands apart and has nothing on standard error does the same with the lines below it. -/
theorem StandsApart.completes_iff (apart : StandsApart comment program lines)
    (token : IsCommentToken comment) (whole : program = [] ∨ program.getLast? = some '\n')
    (areLines : ∀ line ∈ lines, IsLine line) {file : Text} {world after : World}
    (silent : after.written.err = []) :
    Snippet.Completes ⟨annotated comment program lines, file⟩ world after ↔
      Snippet.Completes ⟨program, file⟩ world after := by
  have nul : '\x00' ∈ dedentCode (annotated comment program lines) ↔ '\x00' ∈ dedentCode program := by
    rw [apart.margin, List.mem_append, or_iff_left apart.noNul]
  rw [← Snippet.run_eq_completed_iff, ← Snippet.run_eq_completed_iff]
  constructor
  · intro ran
    obtain ⟨_, second, _, compiled, _⟩ := Snippet.run_eq_completed_iff.mp ran
    have read := (compile_eq_ok_iff.mp compiled).2.2
    obtain ⟨first, read'⟩ := apart.sound ⟨second, read⟩
    obtain ⟨other, same, like⟩ := apart.exists_like token whole areLines read'
    exact Snippet.run_of_like_silent file nul same read' like ran silent
  · intro ran
    obtain ⟨_, first, _, compiled, _⟩ := Snippet.run_eq_completed_iff.mp ran
    have read := (compile_eq_ok_iff.mp compiled).2.2
    obtain ⟨second, read', like⟩ := apart.exists_like token whole areLines read
    exact Snippet.run_of_like_silent file nul.symm read read' like.symm ran silent

namespace DocTest

/-- The doctest of a program with its expected output below it runs all of that code: it passes exactly
when the whole of it prints those lines. The program alone decides where it stands apart. -/
theorem annotated_passes_iff {console : Console} (name : Text) (preamble : Context)
    (token : IsCommentToken comment) (whole : program = [] ∨ program.getLast? = some '\n')
    (unmarked : Expectation.splitAtMarker? comment program = none)
    (areLines : ∀ line ∈ lines, IsLine line) (inactive : console.active = none)
    (unlocked : console.locked = false) :
    ((make name (annotated comment program lines) preamble comment).Passes console ↔
      (make name (annotated comment program lines) preamble comment).context.Prints lines) ∧
    (StandsApart comment program lines →
      ((make name (annotated comment program lines) preamble comment).Passes console ↔
        (make name program preamble comment).context.Prints lines)) := by
  let test := make name (annotated comment program lines) preamble comment
  have expected : comparableLines test.expected = lines := by
    have read : test.expected = lines ++ [[]] :=
      congrArg Expectation.lines (Expectation.read_annotated token whole unmarked areLines)
    rw [read, comparableLines_append_nil]
  have all : test.Passes console ↔ test.context.Prints lines := by
    rw [passes_iff test inactive unlocked, expected]
  refine ⟨all, fun apart => all.trans ?_⟩
  have chain (code : Text) : (make name code preamble comment).context.chain =
      preamble.chain ++ [⟨code, "<doctest ".toList ++ name ++ ['>']⟩] := rfl
  refine exists_congr fun after => and_congr_left fun ⟨_, silent, _⟩ => ?_
  rw [chain, chain, Snippet.allComplete_concat_iff, Snippet.allComplete_concat_iff]
  exact exists_congr fun between => and_congr_right fun _ =>
    apart.completes_iff token whole areLines silent

/-- A program that prints one line. -/
def printing : Text := "print(1)\n".toList

theorem isLine_one : ∀ line ∈ [['1']], IsLine line := by
  intro line h
  obtain rfl : line = ['1'] := by simpa using h
  exact ⟨by decide, by decide⟩

theorem printing_annotated_passes :
    (IsCommentToken ['#'] ∧ (printing = [] ∨ printing.getLast? = some '\n') ∧
      Expectation.splitAtMarker? ['#'] printing = none ∧ (∀ line ∈ [['1']], IsLine line) ∧
      Console.initial.active = none ∧ Console.initial.locked = false ∧
      StandsApart ['#'] printing [['1']]) ∧
    (make "C".toList (annotated ['#'] printing [['1']]) (.preamble []) ['#']).Passes .initial := by
  have token : IsCommentToken ['#'] := ⟨by decide, by decide⟩
  have whole : printing = [] ∨ printing.getLast? = some '\n' := by decide
  have unmarked : Expectation.splitAtMarker? ['#'] printing = none := by decide
  have inactive : Console.initial.active = none := rfl
  have unlocked : Console.initial.locked = false := rfl
  have apart : StandsApart ['#'] printing [['1']] :=
    ⟨rfl, by decide, by decide, by decide, by decide +kernel⟩
  obtain ⟨-, alone⟩ := annotated_passes_iff "C".toList (.preamble []) token whole unmarked isLine_one
    inactive unlocked
  refine ⟨⟨token, whole, unmarked, isLine_one, inactive, unlocked, apart⟩, (alone apart).mpr ?_⟩
  decide +kernel

/-- Below slashes the lines are no comments of the program's language: it prints them, and its doctest
does not pass. -/
theorem printing_slashed_not_passes :
    (IsCommentToken "//".toList ∧ (printing = [] ∨ printing.getLast? = some '\n') ∧
      Expectation.splitAtMarker? "//".toList printing = none ∧ (∀ line ∈ [['1']], IsLine line) ∧
      Console.initial.active = none ∧ Console.initial.locked = false) ∧
    (make "C".toList printing (.preamble []) "//".toList).context.Prints [['1']] ∧
    ¬ (make "C".toList (annotated "//".toList printing [['1']]) (.preamble []) "//".toList).Passes
      .initial := by
  refine ⟨⟨⟨by decide, by decide⟩, by decide, by decide, isLine_one, rfl, rfl⟩, ?_, ?_⟩
  · decide +kernel
  · rw [passes_iff _ rfl rfl]
    decide +kernel

end DocTest

end DocExamples
