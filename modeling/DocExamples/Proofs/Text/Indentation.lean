import DocExamples.Proofs.Text.Margin

namespace DocExamples.Text

variable {lead : Text}

def indentLine (lead line : Text) : Text := if isHollow line then line else lead ++ line

/-- A text with `lead` in front of every line that is not hollow. -/
def indentBy (lead t : Text) : Text := joinWith ['\n'] ((pieces '\n' t).map (indentLine lead))

/-- A text is one line, or a line before a LF and a text. -/
theorem lines_induction {motive : Text → Prop} (last : ∀ line, '\n' ∉ line → motive line)
    (more : ∀ line rest, '\n' ∉ line → motive rest → motive (line ++ '\n' :: rest)) (t : Text) :
    motive t := by
  induction hn : t.length using Nat.strong_induction_on generalizing t with
  | _ n ih =>
    subst hn
    cases hcut : cutAt? '\n' t with
    | none =>
      apply last
      intro mem
      obtain ⟨first, rest, rfl, notMem⟩ := List.eq_append_cons_of_mem mem
      have found : cutAt? '\n' (first ++ '\n' :: rest) = some (first, rest) :=
        cutAt?_eq_some_iff.mpr ⟨rfl, notMem⟩
      cases found.symm.trans hcut
    | some parts =>
      obtain ⟨first, rest⟩ := parts
      obtain ⟨rfl, notMem⟩ := cutAt?_eq_some_iff.mp hcut
      have shorter : rest.length < (first ++ '\n' :: rest).length := by
        simp only [List.length_append, List.length_cons]
        omega
      exact more first rest notMem (ih rest.length shorter rest rfl)

theorem newline_not_mem_indent (h : lead.all isIndent = true) : '\n' ∉ lead := by
  intro mem
  have := List.all_eq_true.mp h '\n' mem
  simp [isIndent] at this

theorem newline_not_mem_indentLine (h : lead.all isIndent = true) {line : Text} (hl : '\n' ∉ line) :
    '\n' ∉ indentLine lead line := by
  rw [indentLine]
  split
  · exact hl
  · rw [List.mem_append, not_or]
    exact ⟨newline_not_mem_indent h, hl⟩

theorem joinWith_cons {mark : Char} {t : Text} {ts : List Text} (h : ts ≠ []) :
    joinWith [mark] (t :: ts) = t ++ mark :: joinWith [mark] ts := by
  obtain ⟨u, us, rfl⟩ := List.exists_cons_of_ne_nil h
  simp [joinWith]

theorem indentBy_line {line : Text} (hl : '\n' ∉ line) : indentBy lead line = indentLine lead line := by
  rw [indentBy, pieces_of_not_mem hl]
  rfl

theorem indentBy_more {line : Text} (hl : '\n' ∉ line) (rest : Text) :
    indentBy lead (line ++ '\n' :: rest) = indentLine lead line ++ '\n' :: indentBy lead rest := by
  have others : (pieces '\n' rest).map (indentLine lead) ≠ [] := by simp [pieces_ne_nil]
  rw [indentBy, pieces_append_mark, pieces_of_not_mem hl, List.singleton_append, List.map_cons,
    joinWith_cons others, indentBy]

theorem pieces_indentBy (h : lead.all isIndent = true) (t : Text) :
    pieces '\n' (indentBy lead t) = (pieces '\n' t).map (indentLine lead) := by
  apply pieces_joinWith
  · intro line hl
    obtain ⟨piece, hp, rfl⟩ := List.mem_map.mp hl
    exact newline_not_mem_indentLine h (not_mem_of_mem_pieces hp)
  · simp [pieces_ne_nil]

theorem isHollow_indentLine (line : Text) : isHollow (indentLine lead line) = isHollow line := by
  rw [indentLine]
  split
  · rfl
  · next visible =>
    have visible : isHollow line = false := by simpa using visible
    simp [isHollow_append, visible]

theorem commonStart_append_left (lead a b : Text) :
    commonStart (lead ++ a) (lead ++ b) = lead ++ commonStart a b := by
  induction lead with
  | nil => rfl
  | cons c lead ih => simp [commonStart, ih]

theorem foldl_commonStart_append_left (lead first : Text) (others : List Text) :
    (others.map (lead ++ ·)).foldl commonStart (lead ++ first) =
      lead ++ others.foldl commonStart first := by
  induction others generalizing first with
  | nil => rfl
  | cons other others ih =>
    rw [List.map_cons, List.foldl_cons, commonStart_append_left, ih, List.foldl_cons]

/-- The indentations of lines, hollow ones left out, of which the margin is the common start. -/
theorem indents_map_indentLine (h : lead.all isIndent = true) (lines : List Text) :
    ((lines.map (indentLine lead)).filter fun line => !isHollow line).map (·.takeWhile isIndent) =
      ((lines.filter fun line => !isHollow line).map (·.takeWhile isIndent)).map (lead ++ ·) := by
  induction lines with
  | nil => rfl
  | cons line lines ih =>
    have hollow : isHollow (indentLine lead line) = isHollow line := isHollow_indentLine line
    cases visible : isHollow line with
    | true => simpa [hollow, visible] using ih
    | false =>
      have start : (indentLine lead line).takeWhile isIndent = lead ++ line.takeWhile isIndent := by
        rw [indentLine, visible, if_neg (by simp)]
        exact List.takeWhile_append_of_pos (List.all_eq_true.mp h)
      simpa [hollow, visible, start] using ih

/-- What every line is indented by belongs to the margin. -/
theorem margin_map_indentLine (h : lead.all isIndent = true) {lines : List Text}
    (visible : ∃ line ∈ lines, isHollow line = false) :
    margin (lines.map (indentLine lead)) = lead ++ margin lines := by
  rw [margin, margin, indents_map_indentLine h]
  cases indents : (lines.filter fun line => !isHollow line).map (·.takeWhile isIndent) with
  | nil =>
    obtain ⟨line, hl, hv⟩ := visible
    have mem : line ∈ lines.filter fun line => !isHollow line := List.mem_filter.mpr ⟨hl, by simp [hv]⟩
    rw [List.map_eq_nil_iff.mp indents] at mem
    cases mem
  | cons first others => exact foldl_commonStart_append_left lead first others

theorem dropMargin_indentLine {m line : Text} (visible : isHollow line = false) :
    dropMargin (lead ++ m) (indentLine lead line) = dropMargin m line := by
  rw [dropMargin, dropMargin, isHollow_indentLine, visible, indentLine, visible]
  simp [List.drop_append]

theorem dropMargin_of_isHollow {m line : Text} (hollow : isHollow line = true) :
    dropMargin m line = [] := by
  rw [dropMargin, if_pos hollow]

theorem dedentLines_map_indentLine (h : lead.all isIndent = true) (lines : List Text) :
    dedentLines (lines.map (indentLine lead)) = dedentLines lines := by
  rw [dedentLines, dedentLines, List.map_map]
  apply List.map_congr_left
  intro line hl
  rw [Function.comp_apply]
  cases visible : isHollow line with
  | true =>
    rw [dropMargin_of_isHollow visible, dropMargin_of_isHollow]
    rw [isHollow_indentLine, visible]
  | false => rw [margin_map_indentLine h ⟨line, hl, visible⟩, dropMargin_indentLine visible]

theorem dedent_indentBy (h : lead.all isIndent = true) (t : Text) :
    dedent (indentBy lead t) = dedent t := by
  rw [dedent, dedent, pieces_indentBy h, dedentLines_map_indentLine h]

/-- Code whose first line is empty has no line in its opening tag. -/
theorem dedentCode_newline (t : Text) : dedentCode ('\n' :: t) = dedent ('\n' :: t) := by
  simp [dedentCode, cutAt?, startsInTag]

theorem dedentCode_indentBy (h : lead.all isIndent = true) {code : Text}
    (below : code.head? = some '\n') : dedentCode (indentBy lead code) = dedentCode code := by
  obtain ⟨rest, rfl⟩ := List.head?_eq_some_iff.mp below
  have start : indentBy lead ('\n' :: rest) = '\n' :: indentBy lead rest :=
    indentBy_more List.not_mem_nil rest
  have same := dedent_indentBy h ('\n' :: rest)
  rw [start] at same ⊢
  rw [dedentCode_newline, dedentCode_newline, same]

end DocExamples.Text
