import DocExamples.Proofs.Script.Compilation
import DocExamples.Proofs.Script.Passage
import DocExamples.Proofs.Text.LineEnds

namespace DocExamples.Script

open Text Lexing

theorem unifyNewlines_cons {c : Char} {t : Text} (h : c = '\r' → t.head? ≠ some '\n') :
    unifyNewlines (c :: t) = (if c = '\r' then '\n' else c) :: unifyNewlines t := by
  rw [unifyNewlines.eq_def]
  split <;> simp_all

/-- A CR and an LF are unified apart from each other unless they make one line end. -/
theorem unifyNewlines_append {a b : Text} (h : a.getLast? = some '\r' → b.head? ≠ some '\n') :
    unifyNewlines (a ++ b) = unifyNewlines a ++ unifyNewlines b := by
  have further {c : Char} {a : Text} (h : (c :: a).getLast? = some '\r' → b.head? ≠ some '\n') :
      a.getLast? = some '\r' → b.head? ≠ some '\n' := by
    intro last
    refine h ?_
    rw [List.getLast?_cons, last]
    rfl
  fun_induction unifyNewlines a with
  | case1 => rfl
  | case2 a ih => simp [unifyNewlines, ih (further (further h))]
  | case3 c a notPair ih =>
    rw [List.cons_append, unifyNewlines_cons, ih (further h), List.cons_append]
    rintro rfl
    cases a with
    | nil => exact h rfl
    | cons d a =>
      intro newline
      cases newline
      exact notPair a rfl rfl

theorem all_unifyNewlines {p q : Char → Bool} (hp : p '\n' = true) (hq : q '\n' = true)
    (hr : q '\r' = true) (same : ∀ c, c ≠ '\r' → p c = q c) (t : Text) :
    (unifyNewlines t).all p = t.all q := by
  fun_induction unifyNewlines t with
  | case1 => rfl
  | case2 t ih => simp [hp, hq, hr, ih]
  | case3 c t notPair ih =>
    by_cases hc : c = '\r'
    · simp [hc, hp, hr, ih]
    · simp [hc, same c hc, ih]

theorem getLast?_unifyNewlines (t : Text) :
    (unifyNewlines t).getLast? = t.getLast?.map fun c => if c = '\r' then '\n' else c := by
  fun_induction unifyNewlines t with
  | case1 => rfl
  | case2 t ih => cases hl : t.getLast? <;> simp [List.getLast?_cons, ih, hl]
  | case3 c t notPair ih => cases hl : t.getLast? <;> simp [List.getLast?_cons, ih, hl]

theorem endsVisible_unifyNewlines {t : Text} (h : EndsVisible t) : EndsVisible (unifyNewlines t) := by
  obtain ⟨c, last, visible⟩ := h
  have kept : c ≠ '\r' := ne_of_isBlank visible (by decide)
  exact ⟨c, by simp [getLast?_unifyNewlines, last, kept], visible⟩

/-- White space that may stand between the lines of a script. -/
def isLayout (c : Char) : Bool := isSpacing c || c == '\r'

/-- A first visible character stays when line ends are unified. -/
theorem unifyNewlines_visible {c : Char} (hc : isBlank c = false) (rest : Text) :
    unifyNewlines (c :: rest) = c :: unifyNewlines rest := by
  have kept : c ≠ '\r' := ne_of_isBlank hc (by decide)
  rw [unifyNewlines_cons fun carriage => absurd carriage kept, if_neg kept]

theorem unifyNewlines_lead {c : Char} (hc : isBlank c = false) (lead rest : Text) :
    unifyNewlines (lead ++ c :: rest) = unifyNewlines lead ++ c :: unifyNewlines rest := by
  have apart : lead.getLast? = some '\r' → (c :: rest).head? ≠ some '\n' := by
    have kept : c ≠ '\n' := ne_of_isBlank hc (by decide)
    simp [kept]
  rw [unifyNewlines_append apart, unifyNewlines_visible hc]

theorem isIndent_getLast?_unifyNewlines (t : Text) :
    (unifyNewlines t).getLast?.any isIndent = t.getLast?.any isIndent := by
  rw [getLast?_unifyNewlines]
  cases t.getLast? with
  | none => rfl
  | some c => by_cases carriage : c = '\r' <;> simp [carriage, isIndent]

theorem all_isBlank_unifyNewlines (t : Text) :
    (unifyNewlines t).all isBlank = t.all isBlank :=
  all_unifyNewlines rfl rfl rfl (fun _ _ => rfl) t

theorem all_isSpacing_unifyNewlines (t : Text) :
    (unifyNewlines t).all isSpacing = t.all isLayout :=
  all_unifyNewlines rfl rfl rfl (fun c hc => by simp [isLayout, hc]) t

/-- Unifying the line ends of a script leaves its other characters in their classes. -/
theorem all_unified {p q : Char → Bool} (hp : p '\n' = true) (hq : q '\n' = true) (hr : q '\r' = true)
    (same : ∀ c, c ≠ '\r' → p c = q c) (t : Text) : (unified t).all p = t.all q := by
  have lines : (unifyLines t).all p = t.all q := by
    unfold unifyLines
    dsimp only
    split
    · simp [hp, all_unifyNewlines hp hq hr same]
    · exact all_unifyNewlines hp hq hr same t
  unfold unified ended
  split
  · exact lines
  · simp [lines, hp]

theorem all_isSpacing_unified (t : Text) : (unified t).all isSpacing = t.all isLayout :=
  all_unified rfl rfl rfl (fun c hc => by simp [isLayout, hc]) t

theorem all_isBlank_unified (t : Text) : (unified t).all isBlank = t.all isBlank :=
  all_unified rfl rfl rfl (fun _ _ => rfl) t

theorem getLast?_unified (t : Text) : (unified t).getLast? = some '\n' := by
  unfold unified ended
  split
  · assumption
  · simp

/-- CR LF at the end of what follows a visible character is all in what follows it. -/
theorem isSuffixOf_append {a b : Text} (h : EndsVisible a) :
    ['\r', '\n'].isSuffixOf (a ++ b) = ['\r', '\n'].isSuffixOf b := by
  obtain ⟨c, last, visible⟩ := h
  rw [Bool.eq_iff_iff, List.isSuffixOf_iff_suffix, List.isSuffixOf_iff_suffix]
  constructor
  · rintro ⟨before, whole⟩
    rcases List.append_eq_append_iff.mp whole with ⟨inside, rfl, ends⟩ | ⟨rest, -, rfl⟩
    · cases hd : inside.getLast? with
      | none =>
        obtain rfl : inside = [] := by simpa using hd
        exact ⟨[], ends⟩
      | some d =>
        -- A visible character cannot be a part of the line end.
        rw [List.getLast?_append, hd] at last
        obtain rfl : d = c := by simpa using last
        have part : d ∈ ['\r', '\n'] := ends ▸ List.mem_append_left b (List.mem_of_getLast? hd)
        rcases List.mem_pair.mp part with rfl | rfl
        · cases visible
        · cases visible
    · exact ⟨rest, rfl⟩
  · exact fun ends => ends.trans (List.suffix_append a b)

theorem ended_append {a b : Text} (h : a.getLast? ≠ some '\n') : ended (a ++ b) = a ++ ended b := by
  have last : (a ++ b).getLast? = some '\n' ↔ b.getLast? = some '\n' := by
    cases hb : b.getLast? <;> simp [List.getLast?_append, hb, h]
  unfold ended
  by_cases hb : b.getLast? = some '\n'
  · rw [if_pos (last.mpr hb), if_pos hb]
  · rw [if_neg (hb ∘ last.mp), if_neg hb, List.append_assoc]

/-- The line ends of a script are unified apart from those before a visible character. -/
theorem unified_append {a : Text} (h : EndsVisible a) (b : Text) :
    unified (a ++ b) = unifyNewlines a ++ unified b := by
  have lines : unifyLines (a ++ b) = unifyNewlines a ++ unifyLines b := by
    have apart : unifyNewlines (a ++ b) = unifyNewlines a ++ unifyNewlines b :=
      unifyNewlines_append fun carriage => absurd carriage (h.getLast?_ne (by decide))
    unfold unifyLines
    dsimp only
    rw [isSuffixOf_append h, apart]
    split <;> simp
  rw [unified, lines, ended_append ((endsVisible_unifyNewlines h).getLast?_ne (by decide)), unified]

/-- The line ends before a visible character are unified apart from it. -/
theorem unified_lead {c : Char} {rest : Text} (hc : isBlank c = false) (h : EndsVisible (c :: rest))
    (lead tail : Text) : unified (lead ++ (c :: rest ++ tail)) =
      unifyNewlines lead ++ (c :: unifyNewlines rest ++ unified tail) := by
  have ends : EndsVisible (lead ++ c :: rest) := by
    obtain ⟨d, last, visible⟩ := h
    exact ⟨d, by rw [List.getLast?_append, last]; rfl, visible⟩
  rw [← List.append_assoc, unified_append ends, unifyNewlines_lead hc, List.append_assoc]

theorem unifyLines_of_not_mem {script : Text} (h : '\r' ∉ script) : unifyLines script = script := by
  have suffix : ['\r', '\n'].isSuffixOf script = false := by
    rw [Bool.eq_false_iff, Ne, List.isSuffixOf_iff_suffix]
    exact fun suffix => h (suffix.subset (by simp))
  simp [unifyLines, unifyNewlines_of_not_mem h, suffix]

/-- Unifying the line ends of whole lines may add another line end. -/
theorem exists_unified_of_lines (text : Text) :
    ∃ rest, unified text = unifyNewlines text ++ rest := by
  have lines : ∃ rest, unifyLines text = unifyNewlines text ++ rest := by
    unfold unifyLines
    dsimp only
    split
    · exact ⟨['\n'], rfl⟩
    · exact ⟨[], by simp⟩
  obtain ⟨rest, lines⟩ := lines
  unfold unified ended
  split
  · exact ⟨rest, lines⟩
  · exact ⟨rest ++ ['\n'], by rw [lines, List.append_assoc]⟩

theorem unified_of_lines {below : Text} (noReturn : '\r' ∉ below) (ends : below.getLast? = some '\n') :
    unified below = below := by
  rw [unified, unifyLines_of_not_mem noReturn, ended, if_pos ends]

/-- Lines without CR are unified apart from the lines before them. -/
theorem unified_append_lines {tail below : Text} {c : Char} (last : tail.getLast? = some '\n')
    (hc : isBlank c = false) (noReturn : '\r' ∉ below) (ends : below.getLast? = some '\n') :
    unified (tail ++ c :: below) = unifyNewlines tail ++ c :: below := by
  have visible : EndsVisible (tail ++ [c]) := ⟨c, by simp, hc⟩
  have apart : tail.getLast? = some '\r' → [c].head? ≠ some '\n' := by simp [last]
  rw [List.append_cons, unified_append visible, unified_of_lines noReturn ends,
    unifyNewlines_append apart, unifyNewlines_visible hc]
  simp [unifyNewlines]

end DocExamples.Script
