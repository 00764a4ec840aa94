import DocExamples.Proofs.Script.Borders
import DocExamples.Proofs.Text.Lines

namespace DocExamples.Script

open Text

namespace Lexing

variable {above line below white : Text} {lines : List Text}

/-- A line that is a comment from its start on. -/
structure IsComment (line : Text) : Prop where
  mark : line.head? = some '#'
  noNewline : '\n' ∉ line

theorem IsComment.exists_cons (h : IsComment line) : ∃ rest, line = '#' :: rest ∧ '\n' ∉ rest := by
  obtain ⟨rest, rfl⟩ := List.head?_eq_some_iff.mp h.mark
  exact ⟨rest, rfl, fun newline => h.noNewline (List.mem_cons_of_mem _ newline)⟩

theorem dropWhile_line (h : '\n' ∉ line) (below : Text) :
    (line ++ '\n' :: below).dropWhile (· != '\n') = '\n' :: below := by
  have inside : ∀ c ∈ line, (c != '\n') = true := by
    intro c hc
    simpa using ne_of_mem_of_not_mem hc h
  rw [List.dropWhile_append_of_pos inside]
  rfl

theorem IsReadOver.of_comment (hl : IsComment line) (hb : IsReadOver below) :
    IsReadOver (line ++ '\n' :: below) := by
  intro here
  obtain ⟨rest, rfl, hn⟩ := hl.exists_cons
  have start : ('#' :: rest ++ '\n' :: below).dropWhile isLineBlank =
      '#' :: (rest ++ '\n' :: below) := rfl
  have stop := dropWhile_line hl.noNewline below
  rw [List.cons_append] at stop
  rw [reads_of_goes (freshStep_of_skipped start (.inl rfl)), stop]
  exact ⟨_, rfl, hb { here with line := here.line + 1, lead := noLead }⟩

theorem EndsLine.of_comment (hl : IsComment line) (hb : IsReadOver below) :
    EndsLine (line ++ '\n' :: below) := by
  intro here outside
  obtain ⟨rest, rfl, hn⟩ := hl.exists_cons
  rw [List.cons_append, reads_of_goes step_comment, dropWhile_line hn]
  exact ⟨_, rfl, EndsLine.of_newline hb here outside⟩

/-- Comment lines are read over. -/
theorem IsReadOver.of_comments (h : ∀ line ∈ lines, IsComment line) : IsReadOver (printed lines) := by
  induction lines with
  | nil => exact .of_spacing rfl
  | cons line lines ih =>
    rw [printed_cons]
    exact .of_comment (h line (by simp)) (ih fun other ho => h other (by simp [ho]))

/-- Empty lines are read over. -/
theorem IsReadOver.of_lines {above : Text} (spaced : above.all isSpacing = true)
    (ends : above = [] ∨ above.getLast? = some '\n') (hb : IsReadOver below) :
    IsReadOver (above ++ below) := by
  rcases ends with rfl | last
  · exact hb
  · have newline := List.mem_of_getLast? last
    obtain ⟨line, spaced⟩ := (all_isSpacing_iff newline).mp spaced
    have shorter : (belowLine above).length < above.length := by
      conv_rhs => rw [← inLine_append_belowLine newline]
      simp
      omega
    rw [← inLine_append_belowLine newline, List.append_assoc, List.cons_append]
    exact .of_line line (IsReadOver.of_lines spaced (wholeLines_belowLine last) hb)
termination_by above.length

theorem EndsLine.of_lines (spaced : above.all isSpacing = true)
    (ends : above = [] ∨ above.getLast? = some '\n') (hb : IsReadOver below) (he : EndsLine below) :
    EndsLine (above ++ below) := by
  rcases ends with rfl | last
  · exact he
  · have newline := List.mem_of_getLast? last
    obtain ⟨line, spaced⟩ := (all_isSpacing_iff newline).mp spaced
    rw [← inLine_append_belowLine newline, List.append_assoc, List.cons_append]
    exact .of_line line (.of_lines spaced (wholeLines_belowLine last) hb)

/-- White space of whole lines may stand, with a text below it that is read over, in the place of the
white space and any rest of it. -/
theorem Replaces.of_lines (hb : white.all Text.isBlank = true) (last : white.getLast? = some '\n')
    (spaced : (belowLine white).all isSpacing = true) (passed : IsReadOver below)
    (ends : EndsLine below) (text rest : Text) :
    Replaces text (white ++ rest) (white ++ below) := by
  have newline := List.mem_of_getLast? last
  have whole := wholeLines_belowLine last
  obtain ⟨line, lower⟩ := inLine_append newline below
  obtain ⟨line', -⟩ := inLine_append newline rest
  constructor
  · rw [line, List.all_eq_true]
    exact fun c hc => List.all_eq_true.mp hb c ((List.takeWhile_prefix _).subset hc)
  · exact List.mem_append_left _ newline
  · rw [lower]
    exact .of_lines spaced whole passed
  · rw [line, line']
    exact id
  · intro _ further start _
    have empty : inLine white = [] := by
      rw [← line', start]
      rfl
    rw [line, lower]
    exact ⟨empty, .of_lines spaced whole passed ends⟩

end Lexing

open Lexing

variable {script tail : Text} {tokens : List Token} {lines : List Text}

/-- A text ends in a visible character but for white space. -/
theorem exists_visible (script : Text) :
    ∃ text tail, script = text ++ tail ∧ (text = [] ∨ EndsVisible text) ∧ tail.all isBlank = true := by
  induction script using List.reverseRecOn with
  | nil => exact ⟨[], [], rfl, .inl rfl, rfl⟩
  | append_singleton script c ih =>
    cases blank : isBlank c with
    | false => exact ⟨script ++ [c], [], by simp, .inr ⟨c, by simp, blank⟩, rfl⟩
    | true =>
      obtain ⟨text, tail, rfl, ends, hb⟩ := ih
      exact ⟨text, tail ++ [c], by simp, ends, by simp [hb, blank]⟩

theorem getLast?_of_lines {text : Text} (ends : text = [] ∨ EndsVisible text)
    (last : (text ++ tail).getLast? = some '\n') : tail.getLast? = some '\n' := by
  rw [List.getLast?_append] at last
  cases ht : tail.getLast? with
  | some c => simpa [ht] using last
  | none =>
    rw [ht, Option.none_or] at last
    rcases ends with rfl | visible
    · simp at last
    · exact absurd last (visible.getLast?_ne (by decide))

/-- Comment lines that hold no CR. -/
structure AreComments (lines : List Text) : Prop where
  comments : ∀ line ∈ lines, IsComment line
  noReturn : '\r' ∉ printed lines

theorem AreComments.endsLine (hl : AreComments lines) (filled : lines ≠ []) : EndsLine (printed lines) := by
  obtain ⟨line, others, rfl⟩ := List.exists_cons_of_ne_nil filled
  obtain ⟨comment, comments⟩ := List.forall_mem_cons.mp hl.comments
  rw [printed_cons]
  exact .of_comment comment (.of_comments comments)

/-- Comment lines are kept when the line ends of the lines before them are unified. -/
theorem AreComments.unified_append (hl : AreComments lines) (filled : lines ≠ [])
    (whole : tail = [] ∨ tail.getLast? = some '\n') :
    unified (tail ++ printed lines) = unifyNewlines tail ++ printed lines := by
  rcases whole with rfl | newline
  · exact unified_of_lines hl.noReturn (getLast?_printed filled)
  · obtain ⟨line, others, rfl⟩ := List.exists_cons_of_ne_nil filled
    obtain ⟨comment, -⟩ := List.forall_mem_cons.mp hl.comments
    obtain ⟨rest, rfl, -⟩ := comment.exists_cons
    have noReturn : '\r' ∉ printed (rest :: others) := by
      intro carriage
      refine hl.noReturn ?_
      rw [printed_cons, List.cons_append, ← printed_cons]
      exact List.mem_cons_of_mem _ carriage
    have last := getLast?_printed (List.cons_ne_nil rest others)
    rw [printed_cons, List.cons_append, ← printed_cons]
    exact unified_append_lines newline (by decide) noReturn last

/-- A script of whole lines is read alike with comment lines after it. -/
theorem Lexing.Reads.before_comments (h : Reads true start (unified script) tokens)
    (whole : script = [] ∨ script.getLast? = some '\n') (hl : AreComments lines) :
    Reads true start (unified (script ++ printed lines)) tokens := by
  by_cases none : lines = []
  · subst none
    simpa [printed] using h
  have passed := IsReadOver.of_comments hl.comments
  rcases whole with rfl | newline
  · have nothing : tokens = endTokens start.levels := ((reads_blank_fresh (by decide)).mp h).2
    rw [hl.unified_append none (.inl rfl), nothing]
    exact passed start
  · obtain ⟨text, tail, rfl, visible, blank⟩ := exists_visible script
    have newline := getLast?_of_lines visible newline
    have last : (unifyNewlines tail).getLast? = some '\n' := by
      rw [getLast?_unifyNewlines, newline]
      rfl
    have white : (unifyNewlines tail).all isBlank = true := by rwa [all_isBlank_unifyNewlines]
    obtain ⟨below, again⟩ := h.replace visible blank
    obtain ⟨more, whole⟩ := exists_unified_of_lines tail
    rw [whole, (inLine_append (List.mem_of_getLast? last) more).2, List.all_append,
      Bool.and_eq_true] at below
    rw [List.append_assoc]
    refine again _ ?_
    rw [whole, hl.unified_append none (.inr newline)]
    exact .of_lines white last below.1 passed (hl.endsLine none) _ more

/-- A sound script of whole lines is the same program, but for lines, with comment lines after it. -/
theorem ofText_before_comments {program : Program} (compiled : Program.ofText script = .ok program)
    (whole : script = [] ∨ script.getLast? = some '\n') (hl : AreComments lines) :
    ∃ other, Program.ofText (script ++ printed lines) = .ok other ∧
      unlinedBlock other = unlinedBlock program := by
  obtain ⟨tokens, reads, -⟩ := (compiles_iff script).mp ⟨program, compiled⟩
  exact ofText_of_tokens reads (reads.before_comments whole hl) compiled

end DocExamples.Script
