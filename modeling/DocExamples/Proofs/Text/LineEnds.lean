import DocExamples.Proofs.Text.Lines
import DocExamples.Proofs.Text.Softening

namespace DocExamples.Text

variable {t rest : Text}

theorem isPaired_of_suffix (h : isPaired t = true) (suffix : rest <:+ t) : isPaired rest = true := by
  induction t, h using paired_induction with
  | nil =>
    obtain rfl := List.suffix_nil.mp suffix
    rfl
  | pair t h ih =>
    rcases List.suffix_cons_iff.mp suffix with rfl | suffix
    · exact h
    · rcases List.suffix_cons_iff.mp suffix with rfl | suffix
      · simpa [isPaired] using h
      · exact ih suffix
  | other c t hc h whole ih =>
    rcases List.suffix_cons_iff.mp suffix with rfl | suffix
    · exact whole
    · exact ih suffix

theorem head?_of_isPaired (h : isPaired ('\r' :: t) = true) : t.head? = some '\n' := by
  cases t with
  | nil => cases h
  | cons c t =>
    by_cases newline : c = '\n'
    · rw [newline]
      rfl
    · rw [isPaired] at h
      · cases h
      · intro _ _ same
        exact newline (List.cons.inj same).1

theorem carriage_not_mem_unifyNewlines (t : Text) : '\r' ∉ unifyNewlines t := by
  fun_induction unifyNewlines t with
  | case1 => simp
  | case2 t ih => simpa using ih
  | case3 c t _ ih =>
    rw [List.mem_cons, not_or]
    refine ⟨?_, ih⟩
    split
    · decide
    · next other => exact Ne.symm other

theorem unifyNewlines_of_not_mem (h : '\r' ∉ t) : unifyNewlines t = t :=
  ((softens_unifyNewlines t).eq_of_not_mem h).symm

theorem splitLines_unifyNewlines (h : isPaired t = true) : splitLines (unifyNewlines t) = splitLines t := by
  induction t, h using paired_induction with
  | nil => rfl
  | pair t _ ih => exact congrArg ([] :: ·) ih
  | other c t hc _ _ ih =>
    obtain ⟨line, lines, split⟩ := List.exists_cons_of_ne_nil (splitLines_ne_nil t)
    rw [unifyNewlines_cons_of_ne hc]
    by_cases newline : c = '\n'
    · subst newline
      exact congrArg ([] :: ·) ih
    · have same := splitLines_cons newline (fun carriage => absurd carriage hc) split
      rw [← ih] at split
      rw [same, splitLines_cons newline (fun carriage => absurd carriage hc) split]

theorem dropWhile_unifyNewlines {p : Char → Bool} (hr : p '\r' = false) (hn : p '\n' = false)
    (h : isPaired t = true) : (unifyNewlines t).dropWhile p = unifyNewlines (t.dropWhile p) := by
  induction t, h using paired_induction with
  | nil => rfl
  | pair t _ _ => rw [unifyNewlines, List.dropWhile_cons_of_neg (by simp [hn]),
      List.dropWhile_cons_of_neg (by simp [hr]), unifyNewlines]
  | other c t hc _ _ ih =>
    rw [unifyNewlines_cons_of_ne hc, List.dropWhile_cons, List.dropWhile_cons, ih]
    split
    · rfl
    · rw [unifyNewlines_cons_of_ne hc]

theorem after?_unifyNewlines {word : Text} (hr : '\r' ∉ word) (hn : '\n' ∉ word) (h : isPaired t = true) :
    after? word (unifyNewlines t) = (after? word t).map unifyNewlines := by
  induction word generalizing t with
  | nil => rfl
  | cons w word ih =>
    rw [List.mem_cons, not_or] at hr hn
    induction t, h using paired_induction with
    | nil => rfl
    | pair t _ _ =>
      rw [unifyNewlines, after?, if_neg (Ne.symm hn.1), after?, if_neg (Ne.symm hr.1), Option.map_none]
    | other c t hc h _ _ =>
      rw [unifyNewlines_cons_of_ne hc, after?, after?, ih hr.2 hn.2 h]
      split <;> rfl

end DocExamples.Text
