import DocExamples.Example.Expectation
import DocExamples.Proofs.Text.Trim

namespace DocExamples.Expectation

open Text

variable {comment lead : Text}

/-- A token that is not empty and does not start with white space. -/
def StartsVisibly (comment : Text) : Prop := comment ≠ [] ∧ comment.head?.any isBlank = false

instance (comment : Text) : Decidable (StartsVisibly comment) := inferInstanceAs (Decidable (_ ∧ _))

/-- Where a token is found and no space follows it, it is taken off alone. -/
theorem stripComment_of_after? {line rest : Text} (found : after? comment (line.dropWhile isBlank) = some rest)
    (flush : rest.head? ≠ some ' ') : stripComment comment line = rest := by
  rw [stripComment, found]
  split
  · next none => cases none
  · next space =>
    rw [Option.some.inj space] at flush
    exact absurd rfl flush
  · next same => exact (Option.some.inj same).symm

/-- Where no token follows the white space, only the white space is taken off. -/
theorem stripComment_of_not_prefix {line : Text} (h : ¬ comment <+: line.dropWhile isBlank) :
    stripComment comment line = line.dropWhile isBlank := by
  have none : after? comment (line.dropWhile isBlank) = none := by
    rw [Option.eq_none_iff_forall_ne_some]
    intro rest found
    exact h ⟨rest, (after?_eq_some_iff.mp found).symm⟩
  rw [stripComment, none]

namespace StartsVisibly

/-- White space before such a token ends where the token starts. -/
theorem dropWhile_lead (hc : StartsVisibly comment) (hl : lead.all isBlank = true) (rest : Text) :
    (lead ++ (comment ++ rest)).dropWhile isBlank = comment ++ rest := by
  obtain ⟨nonempty, visible⟩ := hc
  have stops : (comment ++ rest).head?.any isBlank = false := by
    rw [List.head?_append_of_ne_nil _ nonempty]
    exact visible
  exact (takeWhile_append_of_stops hl stops).2

theorem stripComment_space (hc : StartsVisibly comment) (hl : lead.all isBlank = true) (text : Text) :
    stripComment comment (lead ++ (comment ++ ' ' :: text)) = text := by
  simp [stripComment, hc.dropWhile_lead hl, after?_append]

theorem stripComment_flush (hc : StartsVisibly comment) (hl : lead.all isBlank = true) {text : Text}
    (flush : text.head? ≠ some ' ') : stripComment comment (lead ++ (comment ++ text)) = text := by
  have found : after? comment ((lead ++ (comment ++ text)).dropWhile isBlank) = some text := by
    rw [hc.dropWhile_lead hl, after?_append]
  exact stripComment_of_after? found flush

end StartsVisibly

/-- What is left when white space is taken off does not start with white space. -/
theorem head?_dropWhile_isBlank (line : Text) : (line.dropWhile isBlank).head?.any isBlank = false := by
  have := List.head?_dropWhile_not isBlank line
  cases h : (line.dropWhile isBlank).head? with
  | none => rfl
  | some c => simpa [h] using this

/-- Of any other token nothing is taken off. -/
theorem stripComment_of_not_startsVisibly (hc : ¬ StartsVisibly comment) (line : Text) :
    stripComment comment line = line.dropWhile isBlank := by
  have start := head?_dropWhile_isBlank line
  cases comment with
  | nil =>
    -- The empty token is found, but no space is left that could be taken off with it.
    apply stripComment_of_after? (by rw [after?])
    intro space
    rw [space] at start
    cases start
  | cons c token =>
    have blank : isBlank c = true := by simpa [StartsVisibly] using hc
    apply stripComment_of_not_prefix
    rintro ⟨rest, same⟩
    rw [← same] at start
    simp [blank] at start

/-- A token is taken off, with the white space before it and one space after it, whatever these are and
whatever text follows, if and only if it is not empty and does not start with white space. Where no space
follows such a token the text follows it at once, and a line where it does not come first loses only its
leading white space. -/
theorem stripComment_strips_iff (comment : Text) :
    ((∀ lead text, lead.all isBlank = true →
      stripComment comment (lead ++ (comment ++ ' ' :: text)) = text) ↔ StartsVisibly comment) ∧
    (StartsVisibly comment →
      (∀ lead text, lead.all isBlank = true → text.head? ≠ some ' ' →
        stripComment comment (lead ++ (comment ++ text)) = text) ∧
      ∀ line, ¬ comment <+: line.dropWhile isBlank →
        stripComment comment line = line.dropWhile isBlank) := by
  refine ⟨⟨?_, ?_⟩, ?_⟩
  · intro strips
    by_contra hc
    -- A text that is one space would be left, and nothing that is left starts with a space.
    have left := strips [] [' '] rfl
    rw [stripComment_of_not_startsVisibly hc] at left
    have start := head?_dropWhile_isBlank ([] ++ (comment ++ [' ', ' ']))
    rw [left] at start
    cases start
  · intro hc lead text hl
    exact hc.stripComment_space hl text
  · intro hc
    refine ⟨?_, ?_⟩
    · intro lead text hl flush
      exact hc.stripComment_flush hl flush
    · intro line absent
      exact stripComment_of_not_prefix absent

/-- White space beyond spaces and tabs may stand before a token, and a token may hold some. -/
theorem spacedToken_strips :
    StartsVisibly "/ /".toList ∧ ("\u2003\t".toList).all isBlank = true ∧
    (∀ text, stripComment "/ /".toList ("\u2003\t".toList ++ ("/ /".toList ++ ' ' :: text)) = text) ∧
    stripComment "/ /".toList "\u2003// x".toList = "// x".toList := by
  have visible : StartsVisibly "/ /".toList := by decide
  have blank : ("\u2003\t".toList).all isBlank = true := by decide
  obtain ⟨strips, others⟩ := stripComment_strips_iff "/ /".toList
  refine ⟨visible, blank, ?_, ?_⟩
  · intro text
    exact strips.mpr visible _ text blank
  · exact (others visible).2 _ (by decide)

end DocExamples.Expectation
