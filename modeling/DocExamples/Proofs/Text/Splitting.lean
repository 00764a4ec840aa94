import DocExamples.Proofs.Text.Margin

namespace DocExamples.Text

variable {t s : Text} {lines lines' : List Text}

/-- The text with LF for each CRLF. A lone CR stays. -/
def toLf : Text → Text
  | [] => []
  | '\r' :: '\n' :: t => '\n' :: toLf t
  | c :: t => c :: toLf t

theorem splitLines_eq_pieces (t : Text) : splitLines t = pieces '\n' (toLf t) := by
  fun_induction toLf t with
  | case1 => rfl
  | case2 t ih => simp [splitLines, pieces, ih]
  | case3 c t apart ih =>
    rw [splitLines]
    · rw [ih]
      rfl
    · exact apart

theorem pieces_inj {mark : Char} : pieces mark t = pieces mark s ↔ t = s := by
  constructor
  · intro same
    rw [← joinWith_pieces mark t, same, joinWith_pieces]
  · exact congrArg _

theorem pieces_eq_concat_nil_iff {mark : Char} : pieces mark s = pieces mark t ++ [[]] ↔ s = t ++ [mark] := by
  have ended : pieces mark (t ++ [mark]) = pieces mark t ++ [[]] := pieces_append_mark mark t []
  rw [← ended, pieces_inj]

/-- The last piece of a text is empty when the text is, or ends in the mark. -/
theorem getLast?_pieces_eq_nil_iff {mark : Char} :
    (pieces mark t).getLast? = some [] ↔ t = [] ∨ t.getLast? = some mark := by
  constructor
  · intro last
    obtain ⟨before, whole⟩ := List.getLast?_eq_some_iff.mp last
    rw [← joinWith_pieces mark t, whole]
    by_cases single : before = []
    · rw [single]
      exact .inl rfl
    · exact .inr (getLast?_joinWith single)
  · rintro (rfl | last)
    · rfl
    · obtain ⟨front, rfl⟩ := List.getLast?_eq_some_iff.mp last
      rw [pieces_append_mark]
      exact List.getLast?_concat

theorem comparableLines_of_ne (h : lines.getLast? ≠ some []) : comparableLines lines = lines := if_neg h

/-- The same lines are compared when the lines are the same, but for an empty one that follows one that is not. -/
theorem comparableLines_eq_iff : comparableLines lines = comparableLines lines' ↔
    lines = lines' ∨ (lines = lines' ++ [[]] ∧ lines'.getLast? ≠ some []) ∨
      (lines' = lines ++ [[]] ∧ lines.getLast? ≠ some []) := by
  by_cases last : lines.getLast? = some [] <;> by_cases last' : lines'.getLast? = some []
  · obtain ⟨front, rfl⟩ := List.getLast?_eq_some_iff.mp last
    obtain ⟨front', rfl⟩ := List.getLast?_eq_some_iff.mp last'
    simp [comparableLines_append_nil]
  · obtain ⟨front, rfl⟩ := List.getLast?_eq_some_iff.mp last
    have apart : front ++ [[]] ≠ lines' := fun same => last' (same ▸ last)
    simp [comparableLines_append_nil, comparableLines_of_ne last', last', apart]
  · obtain ⟨front', rfl⟩ := List.getLast?_eq_some_iff.mp last'
    have apart : lines ≠ front' ++ [[]] := fun same => last (same ▸ last')
    simp [comparableLines_append_nil, comparableLines_of_ne last, last, apart, eq_comm]
  · have apart : lines ≠ lines' ++ [[]] := fun same => last (by rw [same, List.getLast?_concat])
    have apart' : lines' ≠ lines ++ [[]] := fun same => last' (by rw [same, List.getLast?_concat])
    simp [comparableLines_of_ne last, comparableLines_of_ne last', apart, apart']

/-- The second text is the first one with a LF that ends its last line, which is not empty. -/
structure EndsLast (t s : Text) : Prop where
  whole : s = t ++ ['\n']
  filled : t ≠ []
  unended : t.getLast? ≠ some '\n'

theorem endsLast_iff : EndsLast t s ↔
    pieces '\n' s = pieces '\n' t ++ [[]] ∧ (pieces '\n' t).getLast? ≠ some [] := by
  rw [pieces_eq_concat_nil_iff, Ne, getLast?_pieces_eq_nil_iff, not_or]
  exact ⟨fun ⟨whole, filled, unended⟩ => ⟨whole, filled, unended⟩,
    fun ⟨whole, filled, unended⟩ => ⟨whole, filled, unended⟩⟩

theorem comparableLines_splitLines_iff : comparableLines (splitLines s) = comparableLines (splitLines t) ↔
    toLf s = toLf t ∨ EndsLast (toLf t) (toLf s) ∨ EndsLast (toLf s) (toLf t) := by
  rw [comparableLines_eq_iff, splitLines_eq_pieces, splitLines_eq_pieces, pieces_inj, endsLast_iff,
    endsLast_iff]

end DocExamples.Text
