import DocExamples.Proofs.Example.MarkerLine
import DocExamples.Proofs.Text.LineEnds

namespace DocExamples

open Text

namespace Expectation

variable {comment t : Text}

theorem afterIndents_unifyNewlines (h : isPaired t = true) :
    afterIndents (unifyNewlines t) = (afterIndents t).map unifyNewlines := by
  induction t, h using paired_induction with
  | nil => rfl
  | pair t _ _ => rfl
  | other c t hc _ _ ih =>
    have kept := unifyNewlines_cons_of_ne hc t
    rw [kept, afterIndents, afterIndents]
    split
    · rw [List.map_append, List.map_singleton, ih, kept]
    · rw [List.map_singleton, kept]

theorem afterLineEnd?_unifyNewlines (h : isPaired t = true) :
    afterLineEnd? (unifyNewlines t) = (afterLineEnd? t).map unifyNewlines := by
  induction t, h using paired_induction with
  | nil => rfl
  | pair t _ _ => rfl
  | other c t hc _ _ _ =>
    rw [unifyNewlines_cons_of_ne hc]
    by_cases newline : c = '\n'
    · subst newline
      rfl
    · have other (rest : Text) : afterLineEnd? (c :: rest) = none := by
        rw [afterLineEnd?]
        all_goals simp_all
      rw [other, other, Option.map_none]

/-- A comment token that holds a CR starts no marker line, neither before a LF nor before other
characters. -/
theorem afterMarkerBody?_of_return (inside : '\r' ∈ comment) (hc : '\n' ∉ comment) (h : isPaired t = true) :
    afterMarkerBody? comment t = none := by
  rw [afterMarkerBody?]
  cases found : after? comment t with
  | none => rfl
  | some word =>
    obtain ⟨front, rest, rfl⟩ := List.append_of_mem inside
    obtain rfl := after?_eq_some_iff.mp found
    rw [List.append_assoc, List.cons_append] at h
    have next := head?_of_isPaired (isPaired_of_suffix h (List.suffix_append front _))
    cases rest with
    | cons c rest =>
      obtain rfl : c = '\n' := by simpa using next
      simp at hc
    | nil =>
      obtain ⟨after, rfl⟩ := List.head?_eq_some_iff.mp next
      rfl

theorem afterMarkerBody?_unifyNewlines (hc : '\n' ∉ comment) (h : isPaired t = true) :
    afterMarkerBody? comment (unifyNewlines t) = (afterMarkerBody? comment t).map unifyNewlines := by
  by_cases inside : '\r' ∈ comment
  · have absent : after? comment (unifyNewlines t) = none := by
      rw [Option.eq_none_iff_forall_ne_some]
      intro rest found
      have whole := after?_eq_some_iff.mp found
      exact carriage_not_mem_unifyNewlines t (whole ▸ List.mem_append_left rest inside)
    rw [afterMarkerBody?_of_return inside hc h, afterMarkerBody?, absent]
    rfl
  · rw [afterMarkerBody?, afterMarkerBody?, after?_unifyNewlines inside hc h]
    cases found : after? comment t with
    | none => rfl
    | some word =>
      obtain rfl := after?_eq_some_iff.mp found
      have inWord := isPaired_of_suffix h (List.suffix_append comment word)
      have inBody := isPaired_of_suffix inWord (List.dropWhile_suffix isIndent)
      simp only [Option.map_some, Option.bind_eq_bind, Option.bind_some]
      rw [dropWhile_unifyNewlines rfl rfl inWord, after?_unifyNewlines (by decide) (by decide) inBody]
      cases marked : after? markerWord (word.dropWhile isIndent) with
      | none => rfl
      | some stop =>
        rw [after?_eq_some_iff.mp marked] at inBody
        have inStop := isPaired_of_suffix inBody (List.suffix_append markerWord stop)
        simp only [Option.map_some, Option.bind_some]
        rw [dropWhile_unifyNewlines rfl rfl inStop]
        exact afterLineEnd?_unifyNewlines (isPaired_of_suffix inStop (List.dropWhile_suffix isIndent))

theorem afterMarker?_unifyNewlines (hc : '\n' ∉ comment) (h : isPaired t = true) :
    afterMarker? comment (unifyNewlines t) = (afterMarker? comment t).map unifyNewlines := by
  have every {starts : List Text} (paired : ∀ start ∈ starts, isPaired start = true) :
      (starts.map unifyNewlines).findSome? (afterMarkerBody? comment) =
        (starts.findSome? (afterMarkerBody? comment)).map unifyNewlines := by
    induction starts with
    | nil => rfl
    | cons start starts ih =>
      obtain ⟨first, others⟩ := List.forall_mem_cons.mp paired
      rw [List.map_cons, List.findSome?_cons, List.findSome?_cons, afterMarkerBody?_unifyNewlines hc first,
        ih others]
      cases afterMarkerBody? comment start <;> rfl
  rw [afterMarker?, afterMarker?, afterIndents_unifyNewlines h]
  exact every fun start inside => isPaired_of_suffix h (suffix_of_mem_afterIndents inside)

theorem afterMarker?_newline (hc : '\n' ∉ comment) : afterMarker? comment ('\n' :: t) = none := by
  cases comment with
  | nil => rfl
  | cons c comment =>
    rw [List.mem_cons, not_or] at hc
    have absent : after? (c :: comment) ('\n' :: t) = none := by rw [after?, if_neg (Ne.symm hc.1)]
    have body : afterMarkerBody? (c :: comment) ('\n' :: t) = none := by
      rw [afterMarkerBody?, absent]
      rfl
    have start : afterIndents ('\n' :: t) = ['\n' :: t] := rfl
    rw [afterMarker?, start, List.findSome?_cons, body]
    rfl

/-- The first marker line is found whatever the line ends are. -/
theorem splitFrom_unifyNewlines (hc : '\n' ∉ comment) (h : isPaired t = true) (fresh : Bool) :
    splitFrom comment fresh (unifyNewlines t) =
      (splitFrom comment fresh t).map (Prod.map unifyNewlines unifyNewlines) := by
  have marker {t : Text} (h : isPaired t = true) (fresh : Bool) :
      (if fresh then afterMarker? comment (unifyNewlines t) else none) =
        (if fresh then afterMarker? comment t else none).map unifyNewlines := by
    split
    · exact afterMarker?_unifyNewlines hc h
    · rfl
  induction t, h using paired_induction generalizing fresh with
  | nil =>
    have found := marker (t := []) rfl fresh
    rw [unifyNewlines] at found ⊢
    cases fresh with
    | false => rfl
    | true =>
      simp only [if_true] at found
      simp only [splitFrom, if_true]
      cases ends : afterMarker? comment [] with
      | none => rfl
      | some rest =>
        rw [ends] at found
        simpa [unifyNewlines] using found
  | pair t h ih =>
    have absent : afterMarker? comment ('\n' :: unifyNewlines t) = none := afterMarker?_newline hc
    have absent' : afterMarker? comment ('\r' :: '\n' :: t) = none := by
      have same := afterMarker?_unifyNewlines hc (show isPaired ('\r' :: '\n' :: t) = true from h)
      rwa [unifyNewlines, absent, eq_comm, Option.map_eq_none_iff] at same
    rw [unifyNewlines]
    simp [splitFrom, absent, absent', ih, Function.comp_def, unifyNewlines]
  | other c t hc h whole ih =>
    have found := marker whole fresh
    rw [unifyNewlines_cons_of_ne hc] at found ⊢
    rw [splitFrom, splitFrom, found]
    cases if fresh then afterMarker? comment (c :: t) else none with
    | some rest => rfl
    | none => simp [ih, Function.comp_def, unifyNewlines_cons_of_ne hc]

theorem suffix_of_splitFrom {fresh : Bool} {before rest : Text}
    (h : splitFrom comment fresh t = some (before, rest)) : rest <:+ t := by
  have below {t after : Text} (h : afterMarker? comment t = some after) : after <:+ t := by
    rcases suffix_of_afterMarker? h with rfl | suffix
    · exact List.nil_suffix
    · exact (List.suffix_cons '\n' after).trans suffix
  induction t generalizing fresh before with
  | nil =>
    rw [splitFrom] at h
    split at h
    · obtain ⟨after, found, same⟩ := Option.map_eq_some_iff.mp h
      obtain rfl : after = rest := congrArg Prod.snd same
      exact below found
    · cases h
  | cons c t ih =>
    rw [splitFrom] at h
    split at h
    · next after found =>
      obtain rfl : after = rest := congrArg Prod.snd (Option.some.inj h)
      split at found
      · exact below found
      · cases found
    · obtain ⟨⟨front, after⟩, found, same⟩ := Option.map_eq_some_iff.mp h
      obtain rfl : after = rest := congrArg Prod.snd same
      exact (ih found).trans (List.suffix_cons c t)

theorem remainder_suffix (comment code : Text) : remainder comment code <:+ code := by
  rw [remainder, splitAtMarker?]
  cases found : splitFrom comment true code with
  | none => exact List.nil_suffix
  | some parts => exact suffix_of_splitFrom found

theorem remainder_unifyNewlines (hc : '\n' ∉ comment) (h : isPaired t = true) :
    remainder comment (unifyNewlines t) = unifyNewlines (remainder comment t) := by
  rw [remainder, remainder, splitAtMarker?, splitAtMarker?, splitFrom_unifyNewlines hc h]
  cases splitFrom comment true t <;> rfl

/-- The expected lines do not depend on line ends. -/
theorem lines_read_unifyNewlines (hc : '\n' ∉ comment) (h : isPaired t = true) :
    (read comment (unifyNewlines t)).lines = (read comment t).lines := by
  have below := isPaired_of_suffix h (remainder_suffix comment t)
  rw [lines_read, lines_read, remainder_unifyNewlines hc h, splitLines_unifyNewlines below]

end Expectation

end DocExamples
