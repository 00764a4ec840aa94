import DocExamples.Text.Lines

namespace DocExamples.Text

theorem isBlank_of_isIndent {c : Char} (h : isIndent c = true) : isBlank c = true := by
  simp only [isIndent, Bool.or_eq_true, beq_iff_eq] at h
  rcases h with rfl | rfl <;> decide

/-- A character that belongs to no line end stands in front of the first line. -/
theorem splitLines_cons {c : Char} {t line : Text} {rest : List Text} (hc : c ≠ '\n')
    (hr : c = '\r' → t.head? ≠ some '\n') (h : splitLines t = line :: rest) :
    splitLines (c :: t) = (c :: line) :: rest := by
  rw [splitLines]
  · simp [hc, h]
  · rintro rest' rfl rfl
    exact hr rfl rfl

theorem splitLines_of_not_mem {t : Text} (h : '\n' ∉ t) : splitLines t = [t] := by
  induction t with
  | nil => rfl
  | cons c t ih =>
    simp only [List.mem_cons, not_or] at h
    refine splitLines_cons (Ne.symm h.1) (fun _ ht => ?_) (ih h.2)
    exact h.2 (List.mem_of_mem_head? ht)

/-- How a written line ends. -/
inductive LineEnd
  | lf
  | crlf
  deriving DecidableEq, Repr

def LineEnd.text : LineEnd → Text
  | lf => ['\n']
  | crlf => ['\r', '\n']

/-- A line is found again before its end: it holds no LF, and before a LF alone it does not end in a CR. -/
theorem splitLines_before {line : Text} {ending : LineEnd} (noNewline : '\n' ∉ line)
    (apart : ending = .lf → line.getLast? ≠ some '\r') (rest : Text) :
    splitLines (line ++ ending.text ++ rest) = line :: splitLines rest := by
  induction line with
  | nil => cases ending <;> simp [LineEnd.text, splitLines]
  | cons c line ih =>
    rw [List.mem_cons, not_or] at noNewline
    cases line with
    | nil =>
      refine splitLines_cons (Ne.symm noNewline.1) (fun carriage => ?_) (ih noNewline.2 (by simp))
      cases ending with
      | lf => exact absurd (congrArg some carriage) (apart rfl)
      | crlf => simp [LineEnd.text]
    | cons d line =>
      refine splitLines_cons (Ne.symm noNewline.1) (fun _ next => ?_) (ih noNewline.2 (by simpa using apart))
      have hd : d = '\n' := by simpa using next
      exact noNewline.2 (by simp [hd])

/-- A line as it can be told from its end: it holds no LF, and no CR that would join a LF after it. -/
structure IsLine (line : Text) : Prop where
  noNewline : '\n' ∉ line
  noReturn : line.getLast? ≠ some '\r'

theorem splitLines_ended {line : Text} (h : IsLine line) (ending : LineEnd) (rest : Text) :
    splitLines (line ++ ending.text ++ rest) = line :: splitLines rest :=
  splitLines_before h.noNewline (fun _ => h.noReturn) rest

theorem comparableLines_append_nil (lines : List Text) :
    comparableLines (lines ++ [[]]) = lines := by
  simp [comparableLines]

/-- What a program writes that prints some lines. -/
def printed (lines : List Text) : Text := lines.flatMap (· ++ ['\n'])

theorem printed_cons (line : Text) (lines : List Text) :
    printed (line :: lines) = line ++ '\n' :: printed lines := by
  simp [printed]

theorem getLast?_printed {lines : List Text} (h : lines ≠ []) :
    (printed lines).getLast? = some '\n' := by
  obtain ⟨before, last, rfl⟩ := List.eq_nil_or_concat lines |>.resolve_left h
  simp [printed]

theorem splitLines_printed {lines : List Text} (h : ∀ line ∈ lines, IsLine line) :
    splitLines (printed lines) = lines ++ [[]] := by
  induction lines with
  | nil => rfl
  | cons line lines ih =>
    have first := splitLines_ended (h line (by simp)) .lf (printed lines)
    rw [ih (fun l hl => h l (by simp [hl]))] at first
    simpa [printed, LineEnd.text] using first

theorem comparableLines_printed {lines : List Text} (h : ∀ line ∈ lines, IsLine line) :
    comparableLines (splitLines (printed lines)) = lines := by
  rw [splitLines_printed h, comparableLines_append_nil]

end DocExamples.Text
