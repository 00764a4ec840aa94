import DocExamples.Proofs.Example.Marker
import DocExamples.Proofs.Text.Indentation

namespace DocExamples

open Text

namespace Text

/-- A line without a CR at its end. -/
def withoutReturn (line : Text) : Text := if line.getLast? = some '\r' then line.dropLast else line

theorem withoutReturn_append {a b : Text} (h : b ≠ []) :
    withoutReturn (a ++ b) = a ++ withoutReturn b := by
  have last : (a ++ b).getLast? = b.getLast? := by
    rw [List.getLast?_append, List.getLast?_eq_some_getLast h]
    rfl
  rw [withoutReturn, withoutReturn, last, List.dropLast_append_of_ne_nil h]
  split <;> rfl

theorem splitLines_more {line : Text} (hl : '\n' ∉ line) (rest : Text) :
    splitLines (line ++ '\n' :: rest) = withoutReturn line :: splitLines rest := by
  induction line with
  | nil => simp [splitLines, withoutReturn]
  | cons c line ih =>
    simp only [List.mem_cons, not_or] at hl
    by_cases pair : c = '\r' ∧ line = []
    · obtain ⟨rfl, rfl⟩ := pair
      simp [splitLines, withoutReturn]
    · have apart : c = '\r' → (line ++ '\n' :: rest).head? ≠ some '\n' := by
        rintro rfl
        obtain ⟨d, more, rfl⟩ := List.exists_cons_of_ne_nil fun h => pair ⟨rfl, h⟩
        intro next
        have same : d = '\n' := by simpa using next
        simp [same] at hl
      rw [List.cons_append, splitLines_cons (Ne.symm hl.1) apart (ih hl.2)]
      cases line with
      | nil =>
        have other : c ≠ '\r' := fun h => pair ⟨h, rfl⟩
        simp [withoutReturn, other]
      | cons d line =>
        have front := withoutReturn_append (a := [c]) (b := d :: line) (by simp)
        rw [List.singleton_append] at front
        rw [front]
        rfl

end Text

namespace Expectation

variable {comment lead line : Text}

theorem suffix_of_mem_afterIndents {t start : Text} (h : start ∈ afterIndents t) : start <:+ t := by
  induction t with
  | nil =>
    obtain rfl : start = [] := by simpa [afterIndents] using h
    exact List.suffix_rfl
  | cons c t ih =>
    rw [afterIndents] at h
    split at h
    · rcases List.mem_append.mp h with h | h
      · exact (ih h).trans (List.suffix_cons c t)
      · obtain rfl : start = c :: t := by simpa using h
        exact List.suffix_rfl
    · obtain rfl : start = c :: t := by simpa using h
      exact List.suffix_rfl

theorem mem_afterIndents_self (t : Text) : t ∈ afterIndents t := by
  cases t with
  | nil => simp [afterIndents]
  | cons c t =>
    rw [afterIndents]
    split <;> simp

theorem suffix_of_afterLineEnd? {t after : Text} (h : afterLineEnd? t = some after) :
    after = [] ∨ '\n' :: after <:+ t := by
  unfold afterLineEnd? at h
  split at h
  · exact .inl (by simpa using h.symm)
  · obtain rfl := Option.some.inj h
    exact .inr List.suffix_rfl
  · obtain rfl := Option.some.inj h
    exact .inr (List.suffix_cons _ _)
  · cases h

/-- What follows a marker line is nothing, or starts after a LF. -/
theorem suffix_of_afterMarker? {t after : Text} (h : afterMarker? comment t = some after) :
    after = [] ∨ '\n' :: after <:+ t := by
  rw [afterMarker?, List.findSome?_eq_some_iff] at h
  obtain ⟨before, start, others, starts, found, -⟩ := h
  have suffix : start <:+ t := suffix_of_mem_afterIndents (by simp [starts])
  simp only [afterMarkerBody?, Option.bind_eq_bind, Option.bind_eq_some_iff] at found
  obtain ⟨word, hword, stop, hstop, ended⟩ := found
  have inWord : word <:+ start := ⟨comment, (after?_eq_some_iff.mp hword).symm⟩
  have inStop : stop <:+ word.dropWhile isIndent := ⟨markerWord, (after?_eq_some_iff.mp hstop).symm⟩
  refine (suffix_of_afterLineEnd? ended).imp_right fun h => ?_
  have inLine : '\n' :: after <:+ word := (h.trans (List.dropWhile_suffix _)).trans
    (inStop.trans (List.dropWhile_suffix _))
  exact inLine.trans (inWord.trans suffix)

/-- Nothing follows a marker line that is the last line. -/
theorem afterMarker?_line (hl : '\n' ∉ line) {after : Text} (h : afterMarker? comment line = some after) :
    after = [] :=
  (suffix_of_afterMarker? h).resolve_right fun suffix => hl (suffix.subset (by simp))

theorem eq_nil_of_suffix_line (hl : '\n' ∉ line) {after : Text}
    (h : '\n' :: after <:+ line ++ ['\n']) : after = [] := by
  obtain ⟨before, whole⟩ := h
  rcases List.eq_nil_or_concat after with rfl | ⟨start, c, rfl⟩
  · rfl
  · have inLine : before ++ '\n' :: start = line := by
      have same : (before ++ '\n' :: start) ++ [c] = line ++ ['\n'] := by simpa using whole
      exact (List.append_inj' same rfl).1
    rw [← inLine] at hl
    simp at hl

/-- What follows a marker line are the lines below it. -/
theorem afterMarker?_more (hc : '\n' ∉ comment) (hl : '\n' ∉ line) (rest : Text) :
    afterMarker? comment (line ++ '\n' :: rest) =
      (afterMarker? comment (line ++ ['\n'])).map fun _ => rest := by
  have ended : '\n' ∈ line ++ ['\n'] := by simp
  have whole := afterMarker?_append rest hc ended
  rw [List.append_assoc, List.singleton_append] at whole
  rw [whole]
  cases found : afterMarker? comment (line ++ ['\n']) with
  | none => rfl
  | some after =>
    obtain rfl : after = [] :=
      (suffix_of_afterMarker? found).elim id fun suffix => eq_nil_of_suffix_line hl suffix
    rfl

theorem splitFrom_false_line (hl : '\n' ∉ line) : splitFrom comment false line = none := by
  induction line with
  | nil => rfl
  | cons c line ih =>
    simp only [List.mem_cons, not_or] at hl
    have inLine : (c == '\n') = false := by simpa using Ne.symm hl.1
    simp [splitFrom, inLine, ih hl.2]

theorem splitFrom_false_more (hl : '\n' ∉ line) (rest : Text) :
    splitFrom comment false (line ++ '\n' :: rest) =
      (splitAtMarker? comment rest).map fun (before, after) => (line ++ '\n' :: before, after) := by
  induction line with
  | nil => rfl
  | cons c line ih =>
    simp only [List.mem_cons, not_or] at hl
    have inLine : (c == '\n') = false := by simpa using Ne.symm hl.1
    rw [List.cons_append, splitFrom, inLine, ih hl.2]
    simp [Function.comp_def]

theorem splitAtMarker?_line (hl : '\n' ∉ line) :
    splitAtMarker? comment line = (afterMarker? comment line).map fun after => ([], after) := by
  cases line with
  | nil => simp [splitAtMarker?, splitFrom]
  | cons c line =>
    simp only [List.mem_cons, not_or] at hl
    have inLine : (c == '\n') = false := by simpa using Ne.symm hl.1
    rw [splitAtMarker?, splitFrom, if_pos rfl, inLine, splitFrom_false_line hl.2]
    cases afterMarker? comment (c :: line) <;> rfl

/-- The first line is the marker line, or the marker is looked for below it. -/
theorem splitAtMarker?_more (hl : '\n' ∉ line) (rest : Text) :
    splitAtMarker? comment (line ++ '\n' :: rest) =
      match afterMarker? comment (line ++ '\n' :: rest) with
      | some after => some ([], after)
      | none =>
        (splitAtMarker? comment rest).map fun (before, after) => (line ++ '\n' :: before, after) := by
  cases line with
  | nil =>
    rw [List.nil_append, splitAtMarker?, splitFrom, if_pos rfl]
    cases afterMarker? comment ('\n' :: rest) <;> rfl
  | cons c line =>
    simp only [List.mem_cons, not_or] at hl
    have inLine : (c == '\n') = false := by simpa using Ne.symm hl.1
    rw [List.cons_append, splitAtMarker?, splitFrom, if_pos rfl, inLine, splitFrom_false_more hl.2]
    cases afterMarker? comment (c :: (line ++ '\n' :: rest)) with
    | some after => rfl
    | none => simp [Function.comp_def]

/-- What stands below the first marker line. -/
def remainder (comment code : Text) : Text := ((splitAtMarker? comment code).getD (code, [])).2

theorem lines_read (comment code : Text) :
    (read comment code).lines = (splitLines (remainder comment code)).map (stripComment comment) := rfl

theorem remainder_line (hl : '\n' ∉ line) : remainder comment line = [] := by
  rw [remainder, splitAtMarker?_line hl]
  cases found : afterMarker? comment line with
  | none => rfl
  | some after => exact afterMarker?_line hl found

theorem remainder_more (hc : '\n' ∉ comment) (hl : '\n' ∉ line) (rest : Text) :
    remainder comment (line ++ '\n' :: rest) =
      if (afterMarker? comment (line ++ ['\n'])).isSome then rest else remainder comment rest := by
  rw [remainder, splitAtMarker?_more hl, afterMarker?_more hc hl]
  cases afterMarker? comment (line ++ ['\n']) with
  | some after => rfl
  | none => cases found : splitAtMarker? comment rest <;> simp [remainder, found]

variable (hi : lead.all isIndent = true) (start : comment.head?.any isIndent = false)

/-- A space or tab in front of a marker line's body is passed over, or hides the comment token. -/
theorem afterMarkerBody?_cons {d : Char} (hd : isIndent d = true)
    (start : comment.head?.any isIndent = false) (t : Text) :
    afterMarkerBody? comment (d :: t) = none ∨
      afterMarkerBody? comment (d :: t) = afterMarkerBody? comment t := by
  cases comment with
  | nil => exact .inr (by simp [afterMarkerBody?, after?, hd])
  | cons c comment =>
    have other : c ≠ d := by
      rintro rfl
      simp [hd] at start
    exact .inl (by simp [afterMarkerBody?, after?, other])

theorem afterMarker?_cons {d : Char} (hd : isIndent d = true)
    (start : comment.head?.any isIndent = false) (t : Text) :
    afterMarker? comment (d :: t) = afterMarker? comment t := by
  rw [afterMarker?, afterIndents, if_pos hd, List.findSome?_append]
  change (afterMarker? comment t).or _ = _
  cases found : afterMarker? comment t with
  | some after => rfl
  | none =>
    have none := List.findSome?_eq_none_iff.mp found t (mem_afterIndents_self t)
    rcases afterMarkerBody?_cons hd start t with same | same <;> simp [same, none]

include hi start

theorem afterMarker?_append_left (t : Text) :
    afterMarker? comment (lead ++ t) = afterMarker? comment t := by
  induction lead with
  | nil => rfl
  | cons d lead ih =>
    rw [List.all_cons, Bool.and_eq_true] at hi
    rw [List.cons_append, afterMarker?_cons hi.1 start, ih hi.2]

theorem afterMarker?_indentLine (line rest : Text) :
    afterMarker? comment (indentLine lead line ++ rest) = afterMarker? comment (line ++ rest) := by
  rw [indentLine]
  split
  · rfl
  · rw [List.append_assoc, afterMarker?_append_left hi start]

/-- The lines below the marker are indented like all others. -/
theorem remainder_indentBy (hc : '\n' ∉ comment) (code : Text) :
    remainder comment (indentBy lead code) = indentBy lead (remainder comment code) := by
  induction code using lines_induction with
  | last line hl =>
    have nothing : indentBy lead [] = [] := rfl
    rw [indentBy_line hl, remainder_line hl, remainder_line (newline_not_mem_indentLine hi hl), nothing]
  | more line rest hl ih =>
    rw [indentBy_more hl, remainder_more hc (newline_not_mem_indentLine hi hl), remainder_more hc hl,
      afterMarker?_indentLine hi start, ih]
    split <;> rfl

end Expectation

namespace Expectation

variable {comment lead : Text}

theorem stripComment_append_left (hi : lead.all isIndent = true) (line : Text) :
    stripComment comment (lead ++ line) = stripComment comment line := by
  have blank : ∀ c ∈ lead, isBlank c = true := fun c hc =>
    isBlank_of_isIndent (List.all_eq_true.mp hi c hc)
  rw [stripComment, stripComment, List.dropWhile_append_of_pos blank]

theorem stripComment_indentLine (hi : lead.all isIndent = true) (line : Text) :
    stripComment comment (indentLine lead line) = stripComment comment line := by
  rw [indentLine]
  split
  · rfl
  · exact stripComment_append_left hi line

theorem withoutReturn_indentLine (line : Text) (hi : lead.all isIndent = true) :
    stripComment comment (withoutReturn (indentLine lead line)) =
      stripComment comment (withoutReturn line) := by
  rw [indentLine]
  split
  · rfl
  · next visible =>
    have nonempty : line ≠ [] := by
      rintro rfl
      simp [isHollow] at visible
    rw [withoutReturn_append nonempty, stripComment_append_left hi]

theorem strip_splitLines_indentBy (hi : lead.all isIndent = true) (t : Text) :
    (splitLines (indentBy lead t)).map (stripComment comment) =
      (splitLines t).map (stripComment comment) := by
  induction t using lines_induction with
  | last line hl =>
    rw [indentBy_line hl, splitLines_of_not_mem hl,
      splitLines_of_not_mem (newline_not_mem_indentLine hi hl), List.map_singleton, List.map_singleton,
      stripComment_indentLine hi]
  | more line rest hl ih =>
    rw [indentBy_more hl, splitLines_more hl, splitLines_more (newline_not_mem_indentLine hi hl),
      List.map_cons, List.map_cons, withoutReturn_indentLine line hi, ih]

/-- The expected lines do not depend on how far an example is indented. -/
theorem lines_read_indentBy (hi : lead.all isIndent = true)
    (start : comment.head?.any isIndent = false) (hc : '\n' ∉ comment) (code : Text) :
    (read comment (indentBy lead code)).lines = (read comment code).lines := by
  rw [lines_read, lines_read, remainder_indentBy hi start hc, strip_splitLines_indentBy hi]

end Expectation

end DocExamples
