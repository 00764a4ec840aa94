import DocExamples.Proofs.Text.Margin
import DocExamples.Proofs.Text.Trim
import DocExamples.Script.Language
import DocExamples.TestModule.Generation

namespace DocExamples

open Text Script

namespace Text

/-- What stands between the blanks around a tidy text is tidy: its lines are whole lines of the text,
but for the first and the last, which a visible character keeps from being hollow. -/
theorem isTidy_trim {t : Text} (h : IsTidy t) : IsTidy (trim isBlank t) := by
  intro line hl hollow
  have trimmed := isTrimmed_trim isBlank t
  have noNewline := not_mem_of_mem_pieces hl
  have split := takeWhile_trim_trailing isBlank t
  obtain ⟨before, after, hw, hb, ha⟩ := exists_of_mem_pieces hl
  by_contra hne
  have blank : ∀ c ∈ line, isBlank c = true := fun c hc =>
    isBlank_of_isIndent (List.all_eq_true.mp hollow c hc)
  rcases hb with rfl | hb
  · obtain ⟨c, rest, rfl⟩ := List.exists_cons_of_ne_nil hne
    have visible := trimmed.first c (by rw [hw]; rfl)
    simp [blank c (by simp)] at visible
  rcases ha with rfl | ha
  · have last := List.getLast?_eq_some_getLast hne
    have visible := trimmed.last (line.getLast hne) (by
      rw [hw, List.append_nil, List.getLast?_append, last]
      rfl)
    simp [blank _ (List.getLast_mem hne)] at visible
  · have inner : line ∈ pieces '\n' t := by
      rw [← split, hw]
      have starts : (t.takeWhile isBlank ++ before).getLast? = some '\n' := by
        rw [List.getLast?_append, hb]
        rfl
      have ends : (after ++ trailing isBlank t).head? = some '\n' := by
        rw [List.head?_append, ha]
        rfl
      simpa using mem_pieces_of_eq noNewline (.inr starts) (.inr ends)
    exact hne (h line inner hollow)

/-- Later lines of a text have a margin of their own, and its first line does not reach into them. -/
def Hangs (t : Text) : Prop :=
  ∃ first rest, cutAt? '\n' t = some (first, rest) ∧
    (trimEnd isBlank first).getLast?.any opensNext = false ∧ margin (pieces '\n' rest) ≠ []

theorem margin_eq_nil_of_mem {lines : List Text} {line : Text} (h : line ∈ lines)
    (visible : isHollow line = false) (start : line.takeWhile isIndent = []) :
    margin lines = [] := by
  have := isPrefix_margin h visible
  rwa [start, List.prefix_nil] at this

theorem takeWhile_isIndent_of_isTrimmed {t : Text} (trimmed : IsTrimmed isBlank t) {first rest : Text}
    (ht : t = first ++ rest) : first.takeWhile isIndent = [] := by
  cases first with
  | nil => rfl
  | cons c first =>
    have visible := isIndent_eq_false (trimmed.first c (by simp [ht]))
    simp [visible]

/-- Tidy text between visible characters has no margin as a whole. -/
theorem dedent_eq_self {t : Text} (trimmed : IsTrimmed isBlank t) (tidy : IsTidy t) :
    dedent t = t := by
  rw [dedent_eq_self_iff tidy]
  cases hp : pieces '\n' t with
  | nil => exact absurd hp (pieces_ne_nil '\n' t)
  | cons line lines =>
    have whole := joinWith_pieces '\n' t
    have start : ∃ rest, t = line ++ rest := by
      rw [hp] at whole
      cases lines with
      | nil => exact ⟨[], by rw [← whole]; simp [joinWith]⟩
      | cons next lines => exact ⟨_, by rw [← whole, joinWith, List.append_assoc]⟩
    obtain ⟨rest, hr⟩ := start
    have none := takeWhile_isIndent_of_isTrimmed trimmed hr
    cases visible : isHollow line with
    | false => exact margin_eq_nil_of_mem (by simp) visible none
    | true =>
      -- An empty first line leaves the text empty, since it would start with a line end otherwise.
      obtain rfl : line = [] := tidy line (by simp [hp]) visible
      cases lines with
      | nil => rfl
      | cons next lines =>
        rw [hp] at whole
        have newline := trimmed.first '\n' (by rw [← whole]; rfl)
        simp [isBlank] at newline

theorem startsInTag_of_isTrimmed {t first rest : Text} (trimmed : IsTrimmed isBlank t)
    (hcut : cutAt? '\n' t = some (first, rest)) :
    startsInTag first rest = !(trimEnd isBlank first).getLast?.any opensNext := by
  obtain ⟨rfl, -⟩ := cutAt?_eq_some_iff.mp hcut
  have newline : isBlank '\n' = true := by decide
  have head : first.head?.any (fun c => !isBlank c) = true := by
    cases first with
    | nil => exact absurd (trimmed.first '\n' rfl) (by simp [newline])
    | cons c first => simpa using trimmed.first c rfl
  have visible : rest.all isBlank = false := by
    cases hl : rest.getLast? with
    | none =>
      have hr : rest = [] := by simpa using hl
      exact absurd (trimmed.last '\n' (by simp [hr])) (by simp [newline])
    | some c =>
      have hc := trimmed.last c (by simp [List.getLast?_append, List.getLast?_cons, hl])
      rw [List.all_eq_false]
      exact ⟨c, List.mem_of_getLast? hl, by simp [hc]⟩
  simp [startsInTag, head, visible]

theorem isTidy_rest {t first rest : Text} (tidy : IsTidy t)
    (hcut : cutAt? '\n' t = some (first, rest)) : IsTidy rest := by
  obtain ⟨rfl, -⟩ := cutAt?_eq_some_iff.mp hcut
  intro line hl
  exact tidy line (by rw [pieces_append_mark]; exact List.mem_append_right _ hl)

/-- Removing the margin of tidy code between visible characters changes nothing unless it hangs. -/
theorem dedentCode_eq_self_iff {t : Text} (trimmed : IsTrimmed isBlank t) (tidy : IsTidy t) :
    dedentCode t = t ↔ ¬ Hangs t := by
  rw [dedentCode, Hangs]
  cases hcut : cutAt? '\n' t with
  | none => simp [dedent_eq_self trimmed tidy]
  | some parts =>
    obtain ⟨first, rest⟩ := parts
    have whole := (cutAt?_eq_some_iff.mp hcut).1
    simp only [startsInTag_of_isTrimmed trimmed hcut]
    cases opens : (trimEnd isBlank first).getLast?.any opensNext with
    | true => simp [dedent_eq_self trimmed tidy, opens]
    | false =>
      have same := dedent_eq_self_iff (isTidy_rest tidy hcut)
      constructor
      · rintro h ⟨first', rest', heq, -, hm⟩
        obtain ⟨rfl, rfl⟩ : first = first' ∧ rest = rest' := by simpa using heq
        refine hm (same.mp ?_)
        rw [if_pos (by simp)] at h
        simpa using h.trans whole
      · intro h
        have noMargin : margin (pieces '\n' rest) = [] := by
          by_contra hm
          exact h ⟨first, rest, rfl, opens, hm⟩
        rw [if_pos (by simp), same.mpr noMargin, ← whole]

end Text

namespace TestModule

/-- A test compiles its code as it was checked exactly when that code does not hang. -/
theorem dedentCode_testedCode_iff (e : Example) :
    dedentCode (testedCode e) = testedCode e ↔ ¬ Hangs (testedCode e) :=
  dedentCode_eq_self_iff (isTrimmed_trim isBlank _) (isTidy_trim (isTidy_dedentCode e.code))

/-- A block whose first line holds a comment after the colon. -/
def commentedBlock : Example :=
  { name := "loop".toList
    code := "\nif True:  # always\n    print(1)\n".toList
    record := "loop".toList }

/-- The code of a commented block is sound as it is checked, gets a test, and is refused by it. -/
theorem commentedBlock_recompiled :
    (sift [commentedBlock]).toOption = some ([commentedBlock], []) ∧
    dedentCode (testedCode commentedBlock) ≠ testedCode commentedBlock ∧
    (compile "<doctest>".toList (dedentCode (testedCode commentedBlock))).toOption.isNone = true := by
  refine ⟨by decide +kernel, by decide +kernel, by decide +kernel⟩

end TestModule

end DocExamples
