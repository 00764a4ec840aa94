import DocExamples.Proofs.Script.Blanks
import DocExamples.Proofs.Text.Indentation
import DocExamples.Proofs.Text.Lines

namespace DocExamples.Text

theorem isBlank_of_isLineBoundary {c : Char} (h : isLineBoundary c = true) : isBlank c = true := by
  simp only [isLineBoundary, isBlank, Bool.or_eq_true, Bool.and_eq_true, decide_eq_true_eq,
    beq_iff_eq] at h ⊢
  rcases h with (((tabs | separators) | next) | line) | paragraph
  · exact .inl (.inl (.inr (by omega)))
  · exact .inl (.inr (by omega))
  · exact .inr (by rw [next]; decide)
  · exact .inr (by rw [line]; decide)
  · exact .inr (by rw [paragraph]; decide)

/-- No character is of a class at which a listing is cut if none of white space is. -/
theorem isLineBoundary_eq_false {p : Char → Bool} {c : Char} (h : p c = true)
    (all : Script.Lexing.blanks.all (fun c => !(isLineBoundary c && p c)) = true) :
    isLineBoundary c = false := by
  cases boundary : isLineBoundary c with
  | false => rfl
  | true =>
    have neither := Script.Lexing.eq_false_of_isBlank (isBlank_of_isLineBoundary boundary) all
    simp [boundary, h] at neither

/-- A text within a line of a listing. -/
def InLine (t : Text) : Prop := ∀ c ∈ t, isLineBoundary c = false

instance (t : Text) : Decidable (InLine t) :=
  decidable_of_iff (t.all (!isLineBoundary ·)) (by simp [InLine])

theorem InLine.append {t u : Text} (ht : InLine t) (hu : InLine u) : InLine (t ++ u) := by
  intro c hc
  exact (List.mem_append.mp hc).elim (ht c) (hu c)

theorem InLine.of_all {p : Char → Bool} {t : Text} (h : t.all p = true)
    (all : Script.Lexing.blanks.all (fun c => !(isLineBoundary c && p c)) = true) : InLine t := by
  intro c hc
  exact isLineBoundary_eq_false (List.all_eq_true.mp h c hc) all

/-- A listing is its lines one after another. -/
theorem flatten_wholeLines (listing : Text) : (wholeLines listing).flatten = listing := by
  fun_induction wholeLines listing with
  | case1 => rfl
  | case2 text ih => simp [ih]
  | case3 c text _ boundary ih => simp [ih]
  | case4 c text _ inside none ih => simp_all
  | case5 c text _ inside line rest some ih => simp_all

theorem wholeLines_more {line : Text} (h : InLine line) (rest : Text) :
    wholeLines (line ++ '\n' :: rest) = (line ++ ['\n']) :: wholeLines rest := by
  induction line with
  | nil =>
    rw [List.nil_append, wholeLines]
    · rfl
    · simp
  | cons c line ih =>
    have inside : isLineBoundary c = false := h c (by simp)
    have others : InLine line := fun d hd => h d (by simp [hd])
    rw [List.cons_append, wholeLines]
    · rw [if_neg (by simp [inside]), ih others]
      rfl
    · rintro - rfl -
      exact absurd inside (by decide)

theorem wholeLines_line {line : Text} (h : InLine line) (ne : line ≠ []) :
    wholeLines line = [line] := by
  induction line with
  | nil => exact absurd rfl ne
  | cons c line ih =>
    have inside : isLineBoundary c = false := h c (by simp)
    have others : InLine line := fun d hd => h d (by simp [hd])
    rw [wholeLines]
    · rw [if_neg (by simp [inside])]
      cases line with
      | nil => rfl
      | cons d line => rw [ih others (by simp)]
    · rintro - rfl -
      exact absurd inside (by decide)

/-- A line of an indented listing. -/
def leadLine (lead line : Text) : Text := if line.all isBlank then line else lead ++ line

theorem leadLine_of_mem {lead line : Text} {c : Char} (mem : c ∈ line) (h : isBlank c = false) :
    leadLine lead line = lead ++ line := by
  have visible : line.all isBlank = false := by
    rw [List.all_eq_false]
    exact ⟨c, mem, by simp [h]⟩
  rw [leadLine, visible, if_neg (by simp)]

theorem indentLines_more {lead line : Text} (h : InLine line) (rest : Text) :
    indentLines lead (line ++ '\n' :: rest) = leadLine lead line ++ '\n' :: indentLines lead rest := by
  have ended : (line ++ ['\n']).all isBlank = line.all isBlank := by
    have newline : isBlank '\n' = true := rfl
    simp [newline]
  rw [indentLines, wholeLines_more h, List.flatMap_cons, ended, leadLine]
  split <;> simp [indentLines]

theorem indentLines_line {lead line : Text} (h : InLine line) :
    indentLines lead line = leadLine lead line := by
  cases line with
  | nil => rfl
  | cons c line => rw [indentLines, wholeLines_line h (by simp), List.flatMap_singleton, leadLine]

/-- Indenting a listing is indenting its lines. -/
theorem indentLines_joinWith (lead : Text) {lines : List Text} (h : ∀ line ∈ lines, InLine line) :
    indentLines lead (joinWith ['\n'] lines) = joinWith ['\n'] (lines.map (leadLine lead)) := by
  induction lines with
  | nil => rfl
  | cons line lines ih =>
    have first := h line (by simp)
    have others := ih fun l hl => h l (by simp [hl])
    cases lines with
    | nil => exact indentLines_line first
    | cons next lines =>
      rw [joinWith_cons (List.cons_ne_nil next lines), indentLines_more first, others]
      exact (joinWith_cons (by simp)).symm

theorem printed_append (lines others : List Text) :
    printed (lines ++ others) = printed lines ++ printed others := by
  rw [printed, List.flatMap_append]
  rfl

/-- Lines that are joined, with a last end of line, are printed one after another. -/
theorem joinWith_newline {lines : List Text} (h : lines ≠ []) :
    joinWith ['\n'] lines ++ ['\n'] = printed lines := by
  induction lines with
  | nil => exact absurd rfl h
  | cons line lines ih =>
    cases lines with
    | nil => simp [joinWith, printed]
    | cons next lines =>
      rw [joinWith_cons (by simp), List.append_assoc, List.cons_append, ih (by simp)]
      simp [printed]

end DocExamples.Text
