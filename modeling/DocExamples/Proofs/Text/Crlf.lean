import DocExamples.Proofs.Text.Dedenting
import DocExamples.Proofs.Text.Splitting

namespace DocExamples.Text

/-- A text with CRLF in the place of each LF. -/
def toCrlf (t : Text) : Text := t.flatMap fun c => if c = '\n' then ['\r', '\n'] else [c]

/-- Lines with a CR at the end of all but the last. -/
def withReturns : List Text → List Text
  | [] => []
  | [line] => [line]
  | line :: next :: lines => (line ++ ['\r']) :: withReturns (next :: lines)

/-- What a blank line has to hold for a CR after it to make no difference: the margin, or what the first line
holds where all are blank. -/
def blankMargin (lines : List Text) : Text :=
  if lines.all isHollow then lines.headD [] else margin lines

/-- Whether each blank line before the last line holds the margin and nothing else. -/
def KeepsBlanks (lines : List Text) : Prop :=
  ∀ line ∈ lines.dropLast, isHollow line = true → line = blankMargin lines

instance (lines : List Text) : Decidable (KeepsBlanks lines) :=
  inferInstanceAs (Decidable (∀ line ∈ lines.dropLast, isHollow line = true → line = blankMargin lines))

variable {t m n line : Text} {lines : List Text}

theorem toCrlf_append (t s : Text) : toCrlf (t ++ s) = toCrlf t ++ toCrlf s := List.flatMap_append

theorem toCrlf_newline (t : Text) : toCrlf ('\n' :: t) = '\r' :: '\n' :: toCrlf t := rfl

theorem toCrlf_cons_of_ne {c : Char} (h : c ≠ '\n') (t : Text) : toCrlf (c :: t) = c :: toCrlf t := by
  rw [toCrlf, List.flatMap_cons, if_neg h]
  rfl

theorem toCrlf_of_not_mem (h : '\n' ∉ t) : toCrlf t = t := by
  induction t with
  | nil => rfl
  | cons c t ih =>
    rw [List.mem_cons, not_or] at h
    rw [toCrlf_cons_of_ne (Ne.symm h.1), ih h.2]

theorem softens_toCrlf (t : Text) : Softens False (toCrlf t) t := by
  induction t with
  | nil => exact .nil
  | cons c t ih =>
    by_cases newline : c = '\n'
    · rw [newline, toCrlf_newline]
      exact .pair ih
    · rw [toCrlf_cons_of_ne newline]
      exact .same c ih

/-- Unifying the line ends of a text undoes it. -/
theorem unifyNewlines_toCrlf (noReturn : '\r' ∉ t) :
    isPaired (toCrlf t) = true ∧ unifyNewlines (toCrlf t) = t := by
  obtain ⟨paired, same⟩ := (softens_toCrlf t).eq_unifyNewlines noReturn
  exact ⟨paired, same.symm⟩

theorem withReturns_cons (line : Text) (filled : lines ≠ []) :
    withReturns (line :: lines) = (line ++ ['\r']) :: withReturns lines := by
  obtain ⟨next, lines, rfl⟩ := List.exists_cons_of_ne_nil filled
  rfl

theorem softLines_withReturns (filled : lines ≠ []) : SoftLines (withReturns lines) lines := by
  fun_induction withReturns lines with
  | case1 => exact absurd rfl filled
  | case2 line => exact .last line
  | case3 line next lines ih => exact .ended line (ih (List.cons_ne_nil next lines))

/-- The lines of a text with CRLF, cut at the LFs only. -/
theorem pieces_toCrlf (t : Text) : pieces '\n' (toCrlf t) = withReturns (pieces '\n' t) := by
  induction t with
  | nil => rfl
  | cons c t ih =>
    have filled := pieces_ne_nil '\n' t
    by_cases newline : c = '\n'
    · subst newline
      rw [toCrlf_newline, pieces, if_neg (by decide), pieces, if_pos rfl, pieces, if_pos rfl, ih,
        withReturns_cons [] filled]
      rfl
    · rw [toCrlf_cons_of_ne newline, pieces, if_neg newline, pieces, if_neg newline, ih]
      obtain ⟨first, rest, whole⟩ := List.exists_cons_of_ne_nil filled
      rw [whole]
      cases rest <;> rfl

theorem cutAt?_toCrlf (t : Text) :
    cutAt? '\n' (toCrlf t) = (cutAt? '\n' t).map fun parts => (parts.1 ++ ['\r'], toCrlf parts.2) := by
  induction t with
  | nil => rfl
  | cons c t ih =>
    by_cases newline : c = '\n'
    · rw [newline, toCrlf_newline]
      rfl
    · rw [toCrlf_cons_of_ne newline, cutAt?, if_neg newline, cutAt?, if_neg newline, ih, Option.map_map,
        Option.map_map]
      rfl

theorem return_mem_withReturns_iff (noReturn : ∀ line ∈ lines, '\r' ∉ line) :
    line ++ ['\r'] ∈ withReturns lines ↔ line ∈ lines.dropLast := by
  fun_induction withReturns lines with
  | case1 => simp
  | case2 last =>
    have other : line ++ ['\r'] ≠ last := by
      rintro rfl
      exact noReturn _ List.mem_cons_self (List.mem_append_right line List.mem_cons_self)
    simp [other]
  | case3 first next lines ih =>
    have below := ih fun line inside => noReturn line (List.mem_cons_of_mem first inside)
    rw [List.dropLast_cons_of_ne_nil (List.cons_ne_nil next lines), List.mem_cons, List.mem_cons, below,
      List.append_left_inj]

section Margin

/-- A blank line before a CR loses a margin and nothing else when it is that margin. -/
theorem dropMargin_return_of_hollow (hollow : isHollow line = true) (starts : n <+: line) :
    dropMargin n (line ++ ['\r']) = dropMargin m line ++ ['\r'] ↔ n = line := by
  obtain ⟨rest, rfl⟩ := starts
  rw [dropMargin, dropMargin, isHollow_return, if_neg Bool.false_ne_true, if_pos hollow,
    List.append_assoc, List.drop_left, List.append_left_inj]
  exact List.self_eq_append_right.symm

theorem dropMargin_return_of_visible (visible : isHollow line = false) (starts : n <+: line) :
    dropMargin n (line ++ ['\r']) = dropMargin n line ++ ['\r'] := by
  rw [dropMargin, dropMargin, isHollow_return, visible, if_neg Bool.false_ne_true,
    if_neg Bool.false_ne_true, List.drop_append_of_le_length starts.length_le]

/-- Two starts of a line that leave the same of it are the same. -/
theorem dropMargin_eq_iff (visible : isHollow line = false) (hn : n <+: line) (hm : m <+: line) :
    dropMargin n line = dropMargin m line ↔ n = m := by
  obtain ⟨rest, rfl⟩ := hm
  constructor
  · intro same
    rw [dropMargin, dropMargin, visible, if_neg Bool.false_ne_true, if_neg Bool.false_ne_true,
      List.drop_left] at same
    obtain ⟨rest', whole⟩ := hn
    rw [← whole, List.drop_left] at same
    rw [same] at whole
    exact List.append_cancel_right whole
  · rintro rfl
    rfl

/-- One margin is taken from lines before CRs as another one from the lines themselves when it is the same,
where lines have more than white space, and when every blank line before a CR is it. -/
theorem map_dropMargin_withReturns_iff (hn : ∀ line ∈ lines, isHollow line = false → n <+: line)
    (hm : ∀ line ∈ lines, isHollow line = false → m <+: line)
    (blank : ∀ line ∈ lines.dropLast, isHollow line = true → n <+: line) :
    (withReturns lines).map (dropMargin n) = withReturns (lines.map (dropMargin m)) ↔
      (∀ line ∈ lines, isHollow line = false → n = m) ∧
        ∀ line ∈ lines.dropLast, isHollow line = true → n = line := by
  fun_induction withReturns lines with
  | case1 => simp [withReturns]
  | case2 line =>
    cases hollow : isHollow line with
    | true => simp [withReturns, dropMargin, hollow]
    | false =>
      have starts := hn line List.mem_cons_self hollow
      have starts' := hm line List.mem_cons_self hollow
      simp [withReturns, dropMargin_eq_iff hollow starts starts', hollow]
  | case3 first next lines ih =>
    have others : (next :: lines).map (dropMargin m) ≠ [] := List.cons_ne_nil _ _
    rw [List.dropLast_cons_of_ne_nil (List.cons_ne_nil next lines)] at blank ⊢
    rw [List.forall_mem_cons] at hn hm blank
    have below := ih hn.2 hm.2 blank.2
    rw [List.map_cons, List.map_cons, withReturns_cons (dropMargin m first) others, List.cons.injEq, below,
      List.forall_mem_cons (l := next :: lines), List.forall_mem_cons (l := (next :: lines).dropLast)]
    cases hollow : isHollow first with
    | true =>
      rw [dropMargin_return_of_hollow hollow (blank.1 hollow)]
      simp only [Bool.true_eq_false, false_implies, true_implies, true_and]
      exact and_left_comm
    | false =>
      rw [dropMargin_return_of_visible hollow (hn.1 hollow), List.append_left_inj,
        dropMargin_eq_iff hollow (hn.1 hollow) (hm.1 hollow)]
      simp only [Bool.false_eq_true, false_implies, true_implies, true_and]
      exact and_assoc.symm

theorem margin_prefix_of_return (inside : line ++ ['\r'] ∈ lines) : margin lines <+: line := by
  have starts := isPrefix_margin inside (isHollow_return line)
  rw [takeWhile_isIndent_return] at starts
  exact starts.trans (List.takeWhile_prefix isIndent)

theorem margin_withReturns_prefix (inside : line ∈ lines) (visible : isHollow line = false) :
    margin (withReturns lines) <+: line := by
  rcases (softLines_withReturns (List.ne_nil_of_mem inside)).mem_left inside with there | there
  · exact (isPrefix_margin there visible).trans (List.takeWhile_prefix isIndent)
  · exact margin_prefix_of_return there

variable (noReturn : ∀ line ∈ lines, '\r' ∉ line)

include noReturn

/-- Where only blank lines stand before CRs, and all are the same, they are the margin. -/
theorem margin_withReturns_of_hollow (hollow : lines.all isHollow = true) (kept : KeepsBlanks lines)
    (inside : line ∈ lines.dropLast) : margin (withReturns lines) = line := by
  have filled : lines ≠ [] := by
    rintro rfl
    cases inside
  have blank : ∀ other ∈ lines, isHollow other = true := List.all_eq_true.mp hollow
  have above : ∀ other ∈ lines.dropLast, isHollow other = true :=
    fun other there => blank other (List.dropLast_subset lines there)
  have same : ∀ other ∈ lines.dropLast, other = line := fun other there =>
    (kept other there (above other there)).trans (kept line inside (above line inside)).symm
  have ended := (return_mem_withReturns_iff noReturn).mpr inside
  have indent : line.takeWhile isIndent = line :=
    List.takeWhile_eq_self_iff.mpr (List.all_eq_true.mp (above line inside))
  have starts : ∀ other ∈ withReturns lines, isHollow other = false → line <+: other.takeWhile isIndent := by
    intro other there visible
    rcases (softLines_withReturns filled).mem_right there with inLines | ⟨front, -, rfl⟩
    · rw [blank other inLines] at visible
      cases visible
    · obtain rfl := same front ((return_mem_withReturns_iff noReturn).mp there)
      simp only [takeWhile_isIndent_return, indent, List.prefix_rfl]
  have all := prefix_margin ended (isHollow_return line) starts
  exact (margin_prefix_of_return ended).eq_of_length_le all.length_le

/-- The margin with CRs is the one without them, where a line is more than blank, and each blank line before a
CR, exactly when the blank lines are as they have to be. -/
theorem margin_withReturns_iff :
    ((∀ line ∈ lines, isHollow line = false → margin (withReturns lines) = margin lines) ∧
        ∀ line ∈ lines.dropLast, isHollow line = true → margin (withReturns lines) = line) ↔
      KeepsBlanks lines := by
  constructor
  · rintro ⟨text, blank⟩ line inside hollow
    rw [← blank line inside hollow, blankMargin]
    split
    · next all =>
      obtain _ | ⟨first, _ | ⟨next, rest⟩⟩ := lines
      · cases inside
      · cases inside
      · exact blank first List.mem_cons_self (List.all_eq_true.mp all first List.mem_cons_self)
    · next some =>
      simp only [Bool.not_eq_true, List.all_eq_false] at some
      obtain ⟨other, there, visible⟩ := some
      exact text other there visible
  · intro kept
    by_cases all : lines.all isHollow = true
    · constructor
      · intro line inside visible
        rw [List.all_eq_true.mp all line inside] at visible
        cases visible
      · intro line inside _
        exact margin_withReturns_of_hollow noReturn all kept inside
    · have whole : blankMargin lines = margin lines := if_neg all
      have filled : lines ≠ [] := by
        rintro rfl
        exact all rfl
      have same : margin (withReturns lines) = margin lines := by
        refine (softLines_withReturns filled).margin_eq fun indent hollow inside => ?_
        rw [kept indent ((return_mem_withReturns_iff noReturn).mp inside) hollow, whole]
      refine ⟨fun _ _ _ => same, fun line inside hollow => ?_⟩
      rw [same, kept line inside hollow, whole]

end Margin

/-- A margin is removed from a text with CRLF as from the one with LF exactly when the blank lines before CRs
hold it and nothing else. -/
theorem dedent_toCrlf_iff (noReturn : '\r' ∉ t) :
    dedent (toCrlf t) = toCrlf (dedent t) ↔ KeepsBlanks (pieces '\n' t) := by
  have inLines : ∀ line ∈ pieces '\n' t, '\r' ∉ line := by
    intro line inside carriage
    obtain ⟨before, after, rfl, -, -⟩ := exists_of_mem_pieces inside
    exact noReturn (List.mem_append_left after (List.mem_append_right before carriage))
  have starts : ∀ line ∈ pieces '\n' t, isHollow line = false → margin (pieces '\n' t) <+: line :=
    fun line inside visible => (isPrefix_margin inside visible).trans (List.takeWhile_prefix isIndent)
  have blank : ∀ line ∈ (pieces '\n' t).dropLast, isHollow line = true →
      margin (withReturns (pieces '\n' t)) <+: line := by
    intro line inside _
    exact margin_prefix_of_return ((return_mem_withReturns_iff inLines).mpr inside)
  rw [← pieces_inj, pieces_toCrlf, pieces_dedent, pieces_dedent, pieces_toCrlf, dedentLines, dedentLines,
    map_dropMargin_withReturns_iff (fun _ => margin_withReturns_prefix) starts blank]
  exact margin_withReturns_iff inLines

/-- So is the margin of a block of code, where only the lines below a first line in its tag count. -/
theorem dedentCode_toCrlf_iff (noReturn : '\r' ∉ t) :
    dedentCode (toCrlf t) = toCrlf (dedentCode t) ↔ KeepsBlanks (pieces '\n' (indentedPart t)) := by
  rw [dedentCode, dedentCode, indentedPart, cutAt?_toCrlf]
  cases cut : cutAt? '\n' t with
  | none => exact dedent_toCrlf_iff noReturn
  | some parts =>
    obtain ⟨first, rest⟩ := parts
    obtain ⟨rfl, inLine⟩ := cutAt?_eq_some_iff.mp cut
    simp only [Option.map_some]
    rw [startsInTag_eq (.inr rfl) (softens_toCrlf rest)]
    split
    · have below : '\r' ∉ rest :=
        fun inside => noReturn (List.mem_append_right first (List.mem_cons_of_mem _ inside))
      rw [toCrlf_append, toCrlf_newline, toCrlf_of_not_mem inLine, List.append_assoc,
        List.append_right_inj, List.singleton_append, List.cons_inj_right, List.cons_inj_right]
      exact dedent_toCrlf_iff below
    · exact dedent_toCrlf_iff noReturn

end DocExamples.Text
