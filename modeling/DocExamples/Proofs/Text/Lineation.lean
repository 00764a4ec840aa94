import DocExamples.Proofs.Text.Indentation
import DocExamples.Proofs.Text.Splitting

namespace DocExamples.Text

/-- A line with the end after it. A CR at the end of a line would join a LF alone. -/
structure EndedLine where
  line : Text
  ending : LineEnd
  noNewline : '\n' ∉ line
  noReturn : ending = .lf → line.getLast? ≠ some '\r'

def EndedLine.text (first : EndedLine) : Text := first.line ++ first.ending.text

/-- The lines of a text: those with an end after them, and the last one. -/
structure Lineation where
  ended : List EndedLine
  last : Text
  noNewline : '\n' ∉ last

namespace Lineation

/-- The text that the lines and their ends make up. -/
def text (lineation : Lineation) : Text := lineation.ended.flatMap EndedLine.text ++ lineation.last

def lines (lineation : Lineation) : List Text := lineation.ended.map (·.line) ++ [lineation.last]

end Lineation

variable {t rest rest' last last' : Text}

theorem EndedLine.splitLines_text (first : EndedLine) (rest : Text) :
    splitLines (first.text ++ rest) = first.line :: splitLines rest :=
  splitLines_before first.noNewline first.noReturn rest

/-- A text starts with only one line and its end. -/
theorem EndedLine.text_append_inj {first first' : EndedLine}
    (same : first.text ++ rest = first'.text ++ rest') : first = first' ∧ rest = rest' := by
  have split := congrArg splitLines same
  rw [splitLines_text, splitLines_text, List.cons.injEq] at split
  obtain ⟨line, ending, _, _⟩ := first
  obtain ⟨line', ending', _, _⟩ := first'
  obtain rfl : line = line' := split.1
  simp only [text, List.append_assoc, List.append_cancel_left_eq] at same
  cases ending <;> cases ending' <;> simp_all [LineEnd.text]

/-- A last line is not one with an end after it. -/
theorem EndedLine.text_append_ne (first : EndedLine) (noNewline : '\n' ∉ last) : first.text ++ rest ≠ last := by
  intro same
  have split := congrArg splitLines same
  rw [splitLines_text, splitLines_of_not_mem noNewline, List.cons.injEq] at split
  exact splitLines_ne_nil rest split.2

theorem splitLines_flatMap (ended : List EndedLine) (noNewline : '\n' ∉ last) :
    splitLines (ended.flatMap EndedLine.text ++ last) = ended.map (·.line) ++ [last] := by
  induction ended with
  | nil => exact splitLines_of_not_mem noNewline
  | cons first ended ih =>
    rw [List.flatMap_cons, List.append_assoc, first.splitLines_text, ih]
    rfl

theorem flatMap_text_inj {ended ended' : List EndedLine} (noNewline : '\n' ∉ last) (noNewline' : '\n' ∉ last')
    (same : ended.flatMap EndedLine.text ++ last = ended'.flatMap EndedLine.text ++ last') :
    ended = ended' ∧ last = last' := by
  induction ended generalizing ended' with
  | nil =>
    cases ended' with
    | nil => exact ⟨rfl, same⟩
    | cons first' ended' =>
      rw [List.flatMap_cons, List.append_assoc] at same
      exact absurd same.symm (first'.text_append_ne noNewline)
  | cons first ended ih =>
    cases ended' with
    | nil =>
      rw [List.flatMap_cons, List.append_assoc] at same
      exact absurd same (first.text_append_ne noNewline')
    | cons first' ended' =>
      rw [List.flatMap_cons, List.flatMap_cons, List.append_assoc, List.append_assoc] at same
      obtain ⟨rfl, below⟩ := EndedLine.text_append_inj same
      obtain ⟨rfl, rfl⟩ := ih below
      exact ⟨rfl, rfl⟩

theorem Lineation.text_inj {first second : Lineation} (same : first.text = second.text) : first = second := by
  obtain ⟨ended, last, noNewline⟩ := first
  obtain ⟨ended', last', noNewline'⟩ := second
  obtain ⟨rfl, rfl⟩ := flatMap_text_inj noNewline noNewline' same
  rfl

/-- A line before a LF is one with an end: a CR at its end belongs to that end. -/
theorem exists_endedLine {line : Text} (noNewline : '\n' ∉ line) :
    ∃ first : EndedLine, first.text = line ++ ['\n'] := by
  by_cases carriage : line.getLast? = some '\r'
  · obtain ⟨front, rfl⟩ := List.getLast?_eq_some_iff.mp carriage
    have inFront : '\n' ∉ front := fun mem => noNewline (List.mem_append_left _ mem)
    exact ⟨⟨front, .crlf, inFront, by simp⟩, by simp [EndedLine.text, LineEnd.text]⟩
  · exact ⟨⟨line, .lf, noNewline, fun _ => carriage⟩, rfl⟩

theorem exists_lineation (t : Text) : ∃ lineation : Lineation, lineation.text = t := by
  induction t using lines_induction with
  | last line noNewline => exact ⟨⟨[], line, noNewline⟩, rfl⟩
  | more line rest noNewline ih =>
    obtain ⟨first, same⟩ := exists_endedLine noNewline
    obtain ⟨below, rfl⟩ := ih
    refine ⟨⟨first :: below.ended, below.last, below.noNewline⟩, ?_⟩
    rw [Lineation.text, List.flatMap_cons, List.append_assoc, same, List.append_assoc]
    rfl

/-- Lines with LF or CRLF between them are found again by splitting. Each text is made of lines and ends in
one way, so that its lines are those of the text with LF for each CRLF, and tell that text. -/
theorem splitLines_decodes :
    (∀ lineation : Lineation, splitLines lineation.text = lineation.lines) ∧
    (∀ t, ∃! lineation : Lineation, lineation.text = t) ∧
    (∀ t, joinWith ['\n'] (splitLines t) = toLf t) ∧
    ∀ t s, splitLines t = splitLines s ↔ toLf t = toLf s := by
  refine ⟨fun lineation => splitLines_flatMap lineation.ended lineation.noNewline, fun t => ?_, fun t => ?_,
    fun t s => ?_⟩
  · obtain ⟨lineation, rfl⟩ := exists_lineation t
    exact ⟨lineation, rfl, fun other same => Lineation.text_inj same⟩
  · rw [splitLines_eq_pieces, joinWith_pieces]
  · rw [splitLines_eq_pieces, splitLines_eq_pieces, pieces_inj]

example : splitLines "\r\r\n\nb\r".toList = ["\r".toList, [], "b\r".toList] := by decide

end DocExamples.Text
