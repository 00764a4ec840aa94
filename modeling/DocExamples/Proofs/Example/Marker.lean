import DocExamples.Example.Expectation
import DocExamples.Proofs.Text.Lines
import DocExamples.Proofs.Text.Trim

namespace DocExamples

open Text

namespace Text

theorem after?_append_right {token text : Text} (rest : Text) (ht : '\n' ∉ token)
    (h : '\n' ∈ text) :
    after? token (text ++ rest) = (after? token text).map (· ++ rest) := by
  induction token generalizing text with
  | nil => simp [after?]
  | cons t token ih =>
    simp only [List.mem_cons, not_or] at ht
    cases text with
    | nil => simp at h
    | cons c text =>
      simp only [List.cons_append, after?]
      by_cases hc : t = c
      · have later : '\n' ∈ text := by
          rcases List.mem_cons.mp h with h | h
          · exact absurd (h.trans hc.symm) ht.1
          · exact h
        simp [hc, ih ht.2 later]
      · simp [hc]

theorem mem_of_after? {token text rest : Text} {c : Char} (ht : c ∉ token) (h : c ∈ text)
    (hr : after? token text = some rest) : c ∈ rest := by
  rw [after?_eq_some_iff] at hr
  rw [hr, List.mem_append] at h
  exact h.resolve_left ht

theorem dropWhile_append_of_mem {p : Char → Bool} {text : Text} {c : Char} (rest : Text)
    (hc : p c = false) (h : c ∈ text) :
    (text ++ rest).dropWhile p = text.dropWhile p ++ rest := by
  induction text with
  | nil => simp at h
  | cons d text ih =>
    by_cases hd : p d = true
    · have later : c ∈ text := by
        rcases List.mem_cons.mp h with rfl | h
        · simp [hc] at hd
        · exact h
      simpa [hd] using ih later
    · simp [hd]

end Text

namespace Expectation

theorem newline_not_mem_markerWord : '\n' ∉ markerWord := by decide

theorem afterLineEnd?_append {text : Text} (rest : Text) (h : '\n' ∈ text) :
    afterLineEnd? (text ++ rest) = (afterLineEnd? text).map (· ++ rest) := by
  match text, h with
  | '\n' :: text, _ => simp [afterLineEnd?]
  | [c], h =>
    obtain rfl : '\n' = c := by simpa using h
    simp [afterLineEnd?]
  | c :: d :: text, h =>
    by_cases hn : c = '\n'
    · simp [hn, afterLineEnd?]
    by_cases hr : c = '\r' ∧ d = '\n'
    · simp [hr.1, hr.2, afterLineEnd?]
    · have other (t : Text) : afterLineEnd? (c :: d :: t) = none := by
        unfold afterLineEnd?
        split <;> simp_all
      simp [other]

/-- What follows a marker line's body does not decide whether it is one. -/
theorem afterMarkerBody?_append {comment text : Text} (rest : Text) (hc : '\n' ∉ comment)
    (h : '\n' ∈ text) :
    afterMarkerBody? comment (text ++ rest) = (afterMarkerBody? comment text).map (· ++ rest) := by
  have blank : isIndent '\n' = false := by decide
  simp only [afterMarkerBody?, Option.bind_eq_bind, after?_append_right rest hc h]
  cases hw : after? comment text with
  | none => rfl
  | some word =>
    have mem := mem_dropWhile blank (mem_of_after? hc h hw)
    simp only [Option.map_some, Option.bind_some,
      dropWhile_append_of_mem rest blank (mem_of_after? hc h hw),
      after?_append_right rest newline_not_mem_markerWord mem]
    cases hs : after? markerWord (word.dropWhile isIndent) with
    | none => rfl
    | some stop =>
      have last := mem_of_after? newline_not_mem_markerWord mem hs
      simp only [Option.map_some, Option.bind_some, dropWhile_append_of_mem rest blank last]
      exact afterLineEnd?_append rest (mem_dropWhile blank last)

theorem afterIndents_append {text : Text} (rest : Text) (h : '\n' ∈ text) :
    afterIndents (text ++ rest) = (afterIndents text).map (· ++ rest) := by
  induction text with
  | nil => simp at h
  | cons c text ih =>
    by_cases hc : isIndent c = true
    · have later : '\n' ∈ text := by
        rcases List.mem_cons.mp h with rfl | h
        · simp [isIndent] at hc
        · exact h
      simp [afterIndents, hc, ih later]
    · simp [afterIndents, hc]

theorem newline_mem_of_mem_afterIndents {text start : Text} (h : '\n' ∈ text)
    (hs : start ∈ afterIndents text) : '\n' ∈ start := by
  induction text with
  | nil => simp at h
  | cons c text ih =>
    by_cases hc : isIndent c = true
    · have later : '\n' ∈ text := by
        rcases List.mem_cons.mp h with rfl | h
        · simp [isIndent] at hc
        · exact h
      simp only [afterIndents, hc, if_true, List.mem_append, List.mem_singleton] at hs
      rcases hs with hs | rfl
      · exact ih later hs
      · exact h
    · simp only [afterIndents, hc, Bool.false_eq_true, if_false, List.mem_singleton] at hs
      exact hs ▸ h

/-- Whether a text starts with a marker line is decided by its first line. -/
theorem afterMarker?_append {comment text : Text} (rest : Text) (hc : '\n' ∉ comment)
    (h : '\n' ∈ text) :
    afterMarker? comment (text ++ rest) = (afterMarker? comment text).map (· ++ rest) := by
  have each : ∀ start ∈ afterIndents text, '\n' ∈ start :=
    fun start hs => newline_mem_of_mem_afterIndents h hs
  rw [afterMarker?, afterMarker?, afterIndents_append rest h]
  generalize afterIndents text = starts at each
  induction starts with
  | nil => rfl
  | cons start starts ih =>
    rw [List.map_cons, List.findSome?_cons, List.findSome?_cons,
      afterMarkerBody?_append rest hc (each start (by simp))]
    cases afterMarkerBody? comment start with
    | some _ => rfl
    | none => exact ih fun s hs => each s (by simp [hs])

/-- Whole lines without a marker, in front of a text, leave its marker the first one. -/
theorem splitFrom_append {comment program : Text} (rest : Text) (hc : '\n' ∉ comment)
    {fresh : Bool} (last : program.getLast? = some '\n')
    (none : splitFrom comment fresh program = none) :
    splitFrom comment fresh (program ++ rest) =
      (splitFrom comment true rest).map fun (before, after) => (program ++ before, after) := by
  induction program generalizing fresh with
  | nil => simp at last
  | cons c program ih =>
    have here : '\n' ∈ c :: program := List.mem_of_mem_getLast? last
    simp only [List.cons_append, splitFrom] at none ⊢
    have start : (if fresh = true then afterMarker? comment (c :: (program ++ rest)) else Option.none) =
        Option.none := by
      cases fresh with
      | false => rfl
      | true =>
        cases hm : afterMarker? comment (c :: program) with
        | some _ => simp [hm] at none
        | none => simpa [hm] using afterMarker?_append rest hc here
    rw [start]
    cases program with
    | nil =>
      obtain rfl : c = '\n' := by simpa using last
      rfl
    | cons d program =>
      have tail : splitFrom comment (c == '\n') (d :: program) = Option.none := by
        split at none
        · simp at none
        · simpa using none
      simp only [ih (by simpa using last) tail, Option.map_map]
      rfl

theorem splitAtMarker?_append {comment program : Text} (rest : Text) (hc : '\n' ∉ comment)
    (last : program = [] ∨ program.getLast? = some '\n')
    (none : splitAtMarker? comment program = none) :
    splitAtMarker? comment (program ++ rest) =
      (splitAtMarker? comment rest).map fun (before, after) => (program ++ before, after) := by
  rcases last with rfl | last
  · simp [splitAtMarker?]
  · exact splitFrom_append rest hc last none

end Expectation

end DocExamples
