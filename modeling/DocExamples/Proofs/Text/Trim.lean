import DocExamples.Text.Basic
import Mathlib.Data.List.DropRight
import Mathlib.Data.List.TakeWhile

namespace DocExamples.Text

/-- The end that is trimmed off a text, after the start that is. -/
def trailing (p : Char → Bool) (t : Text) : Text := ((t.dropWhile p).reverse.takeWhile p).reverse

/-- A text whose first and last characters are not in a class. -/
structure IsTrimmed (p : Char → Bool) (t : Text) : Prop where
  first : ∀ c, t.head? = some c → p c = false
  last : ∀ c, t.getLast? = some c → p c = false

theorem takeWhile_append_of_stops {p : Char → Bool} {word rest : Text} (hw : word.all p = true)
    (hr : rest.head?.any p = false) :
    (word ++ rest).takeWhile p = word ∧ (word ++ rest).dropWhile p = rest := by
  have inside : ∀ c ∈ word, p c = true := List.all_eq_true.mp hw
  rw [List.takeWhile_append_of_pos inside, List.dropWhile_append_of_pos inside]
  cases rest with
  | nil => simp
  | cons c rest =>
    have stop : p c = false := by simpa using hr
    simp [stop]

theorem mem_dropWhile {p : Char → Bool} {text : Text} {c : Char} (hc : p c = false) (h : c ∈ text) :
    c ∈ text.dropWhile p := by
  induction text with
  | nil => simp at h
  | cons d text ih =>
    by_cases hd : p d = true
    · rw [List.dropWhile_cons_of_pos hd]
      rcases List.mem_cons.mp h with rfl | h
      · simp [hc] at hd
      · exact ih h
    · rwa [List.dropWhile_cons_of_neg hd]

theorem trimEnd_append_takeWhile (p : Char → Bool) (t : Text) :
    trimEnd p t ++ (t.reverse.takeWhile p).reverse = t := by
  rw [trimEnd, ← List.reverse_append, List.takeWhile_append_dropWhile, List.reverse_reverse]

theorem takeWhile_trim_trailing (p : Char → Bool) (t : Text) :
    t.takeWhile p ++ (trim p t ++ trailing p t) = t := by
  rw [trim, trailing, trimEnd_append_takeWhile, List.takeWhile_append_dropWhile]

theorem all_trailing (p : Char → Bool) (t : Text) : (trailing p t).all p = true := by
  rw [trailing, List.all_reverse]
  exact List.all_takeWhile

/-- What is not in the class is not trimmed off. -/
theorem mem_trim {p : Char → Bool} {t : Text} {c : Char} (hc : p c = false) (mem : c ∈ t) :
    c ∈ trim p t := by
  have outside {text : Text} (all : text.all p = true) : c ∉ text := by
    intro inside
    rw [List.all_eq_true.mp all c inside] at hc
    cases hc
  rw [← takeWhile_trim_trailing p t, List.mem_append, List.mem_append] at mem
  rcases mem with start | inside | ending
  · exact absurd start (outside List.all_takeWhile)
  · exact inside
  · exact absurd ending (outside (all_trailing p t))

theorem isTrimmed_trim (p : Char → Bool) (t : Text) : IsTrimmed p (trim p t) where
  first c h := by
    have start : (t.dropWhile p).head? = some c := by
      obtain ⟨rest, hr⟩ := List.head?_eq_some_iff.mp h
      obtain ⟨tail, ht⟩ := List.rdropWhile_prefix p (l := t.dropWhile p)
      change trim p t ++ tail = t.dropWhile p at ht
      rw [← ht, hr]
      rfl
    have := List.head?_dropWhile_not p t
    simpa [start] using this
  last c h := by
    have hne : trim p t ≠ [] := by
      intro empty
      simp [empty] at h
    have := List.rdropWhile_last_not p (t.dropWhile p) hne
    change ¬p ((trim p t).getLast hne) = true at this
    rw [List.getLast?_eq_some_getLast hne, Option.some.injEq] at h
    simpa [h] using this

end DocExamples.Text
