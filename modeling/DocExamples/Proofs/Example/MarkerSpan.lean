import DocExamples.Proofs.Example.LineEnds
import DocExamples.Proofs.Text.Splitting
import Mathlib.Data.Nat.Find

namespace DocExamples.Expectation

open Text

variable {comment code line t rest : Text} {start stop : Nat}

/-- A line that holds the comment token and the word `Output:`, with spaces and tabs around them. -/
inductive IsMarker (comment : Text) : (line : Text) → Prop
  | intro {lead between tail : Text} (hl : lead.all isIndent = true) (hb : between.all isIndent = true)
    (ht : tail.all isIndent = true) :
    IsMarker comment (lead ++ (comment ++ (between ++ (markerWord ++ tail))))

/-- Where a marker line of a text starts, and where it ends, its line end included. A CR before the LF belongs
to the line end. -/
inductive MarkerAt (comment code : Text) : (start stop : Nat) → Prop
  | ended {before line rest : Text} (whole : code = before ++ (line ++ '\n' :: rest))
    (first : before = [] ∨ before.getLast? = some '\n') (inLine : '\n' ∉ line)
    (marker : IsMarker comment (withoutReturn line)) :
    MarkerAt comment code before.length (before.length + (line.length + 1))
  | last {before line : Text} (whole : code = before ++ line)
    (first : before = [] ∨ before.getLast? = some '\n') (inLine : '\n' ∉ line)
    (marker : IsMarker comment line) : MarkerAt comment code before.length code.length

/-- The marker line of a text before which there is no other one. -/
structure FirstMarkerAt (comment code : Text) (start stop : Nat) : Prop where
  marker : MarkerAt comment code start stop
  first : ∀ start' stop', MarkerAt comment code start' stop' → start ≤ start'

/-- A text has one first line before a LF. -/
theorem firstLine_inj {line' rest' : Text} (hl : '\n' ∉ line) (hl' : '\n' ∉ line')
    (same : line ++ '\n' :: rest = line' ++ '\n' :: rest') : line = line' ∧ rest = rest' := by
  have cut := cutAt?_eq_some_iff.mpr ⟨same, hl'⟩
  rw [cutAt?_eq_some_iff.mpr ⟨rfl, hl⟩] at cut
  exact Prod.mk.inj (Option.some.inj cut)

namespace IsMarker

theorem newline_not_mem (h : IsMarker comment line) (hc : '\n' ∉ comment) : '\n' ∉ line := by
  obtain ⟨hl, hb, ht⟩ := h
  simp only [List.mem_append, not_or]
  exact ⟨newline_not_mem_indent hl, hc, newline_not_mem_indent hb, newline_not_mem_markerWord,
    newline_not_mem_indent ht⟩

theorem ne_nil (h : IsMarker comment line) : line ≠ [] := by
  obtain ⟨hl, hb, ht⟩ := h
  have word : markerWord ≠ [] := by decide
  simp [word]

/-- The last character is a space or a tab, or the one of the word. -/
theorem getLast?_ne_return (h : IsMarker comment line) : line.getLast? ≠ some '\r' := by
  have word : markerWord.getLast? = some ':' := by decide
  cases h with
  | @intro lead between tail hl hb ht =>
    intro last
    cases found : tail.getLast? with
    | none =>
      obtain rfl := List.getLast?_eq_none_iff.mp found
      simp [List.getLast?_append, word] at last
    | some c =>
      have indent := List.all_eq_true.mp ht c (List.mem_of_getLast? found)
      obtain rfl : c = '\r' := by simpa [List.getLast?_append, found] using last
      simp [isIndent] at indent

end IsMarker

theorem mem_afterIndents_iff {t rest : Text} :
    rest ∈ afterIndents t ↔ ∃ lead : Text, lead.all isIndent = true ∧ t = lead ++ rest := by
  induction t with
  | nil =>
    simp only [afterIndents, List.mem_singleton, List.nil_eq, List.append_eq_nil_iff]
    constructor
    · rintro rfl
      exact ⟨[], rfl, rfl, rfl⟩
    · rintro ⟨lead, -, -, none⟩
      exact none
  | cons c t ih =>
    rw [afterIndents]
    constructor
    · intro found
      split at found
      · next indent =>
        rcases List.mem_append.mp found with found | found
        · obtain ⟨lead, hl, rfl⟩ := ih.mp found
          exact ⟨c :: lead, by simp [indent, hl], rfl⟩
        · exact ⟨[], rfl, (List.mem_singleton.mp found).symm⟩
      · exact ⟨[], rfl, (List.mem_singleton.mp found).symm⟩
    · rintro ⟨lead, hl, whole⟩
      cases lead with
      | nil =>
        obtain rfl : c :: t = rest := whole
        split <;> simp
      | cons d lead =>
        rw [List.cons_append, List.cons.injEq] at whole
        obtain ⟨rfl, rfl⟩ := whole
        rw [List.all_cons, Bool.and_eq_true] at hl
        rw [if_pos hl.1]
        exact List.mem_append_left _ (ih.mpr ⟨lead, hl.2, rfl⟩)

theorem afterLineEnd?_eq_some_iff : afterLineEnd? t = some rest ↔
    (t = [] ∧ rest = []) ∨ t = '\n' :: rest ∨ t = '\r' :: '\n' :: rest := by
  constructor
  · intro found
    unfold afterLineEnd? at found
    split at found
    · exact .inl ⟨rfl, (Option.some.inj found).symm⟩
    · cases found
      exact .inr (.inl rfl)
    · cases found
      exact .inr (.inr rfl)
    · cases found
  · rintro (⟨rfl, rfl⟩ | rfl | rfl) <;> rfl

/-- A line end stops a run of spaces and tabs. -/
theorem dropWhile_isIndent_lineEnd {tail : Text} (ht : tail.all isIndent = true)
    (ended : afterLineEnd? t = some rest) : (tail ++ t).dropWhile isIndent = t := by
  rw [List.dropWhile_append_of_pos (List.all_eq_true.mp ht)]
  rcases afterLineEnd?_eq_some_iff.mp ended with ⟨rfl, -⟩ | rfl | rfl <;> rfl

theorem afterMarkerBody?_eq_some_iff : afterMarkerBody? comment t = some rest ↔
    ∃ between tail stop : Text, between.all isIndent = true ∧ tail.all isIndent = true ∧
      afterLineEnd? stop = some rest ∧
      t = comment ++ (between ++ (markerWord ++ (tail ++ stop))) := by
  simp only [afterMarkerBody?, Option.bind_eq_bind, Option.bind_eq_some_iff, after?_eq_some_iff]
  constructor
  · rintro ⟨word, rfl, below, body, ended⟩
    refine ⟨word.takeWhile isIndent, below.takeWhile isIndent, _, List.all_takeWhile, List.all_takeWhile,
      ended, ?_⟩
    rw [List.takeWhile_append_dropWhile, ← body, List.takeWhile_append_dropWhile]
  · rintro ⟨between, tail, stop, hb, ht, ended, rfl⟩
    refine ⟨_, rfl, tail ++ stop, ?_, ?_⟩
    · rw [List.dropWhile_append_of_pos (List.all_eq_true.mp hb)]
      rfl
    · rw [dropWhile_isIndent_lineEnd ht ended]
      exact ended

/-- A text starts with a marker line when its start is a marker before a line end. -/
theorem isSome_afterMarker?_iff : (afterMarker? comment t).isSome = true ↔
    ∃ line stop rest : Text, IsMarker comment line ∧ afterLineEnd? stop = some rest ∧ t = line ++ stop := by
  rw [afterMarker?, List.isSome_findSome?, List.any_eq_true]
  constructor
  · rintro ⟨body, indented, found⟩
    obtain ⟨lead, hl, rfl⟩ := mem_afterIndents_iff.mp indented
    obtain ⟨rest, found⟩ := Option.isSome_iff_exists.mp found
    obtain ⟨between, tail, stop, hb, ht, ended, rfl⟩ := afterMarkerBody?_eq_some_iff.mp found
    exact ⟨_, stop, rest, .intro hl hb ht, ended, by simp⟩
  · rintro ⟨line, stop, rest, ⟨hl, hb, ht⟩, ended, rfl⟩
    refine ⟨_, mem_afterIndents_iff.mpr ⟨_, hl, by rw [List.append_assoc]⟩, ?_⟩
    refine Option.isSome_iff_exists.mpr ⟨rest, afterMarkerBody?_eq_some_iff.mpr ?_⟩
    exact ⟨_, _, stop, hb, ht, ended, by simp⟩

/-- The last line is a marker line when it is a marker. -/
theorem isSome_afterMarker?_line (hl : '\n' ∉ line) :
    (afterMarker? comment line).isSome = true ↔ IsMarker comment line := by
  rw [isSome_afterMarker?_iff]
  constructor
  · rintro ⟨front, stop, rest, marker, ended, rfl⟩
    rw [List.mem_append, not_or] at hl
    rcases afterLineEnd?_eq_some_iff.mp ended with ⟨rfl, -⟩ | rfl | rfl
    · rwa [List.append_nil]
    · simp at hl
    · simp at hl
  · intro marker
    exact ⟨line, [], [], marker, rfl, (List.append_nil line).symm⟩

/-- A line that LF ends is a marker line when it is a marker without a CR at its end. -/
theorem isSome_afterMarker?_ended (hc : '\n' ∉ comment) (hl : '\n' ∉ line) :
    (afterMarker? comment (line ++ ['\n'])).isSome = true ↔ IsMarker comment (withoutReturn line) := by
  rw [isSome_afterMarker?_iff]
  constructor
  · rintro ⟨front, stop, rest, marker, ended, whole⟩
    have inLine := marker.newline_not_mem hc
    rcases afterLineEnd?_eq_some_iff.mp ended with ⟨rfl, -⟩ | rfl | rfl
    · rw [List.append_nil] at whole
      rw [← whole] at inLine
      simp at inLine
    · obtain ⟨rfl, -⟩ := firstLine_inj hl inLine whole
      rwa [withoutReturn, if_neg marker.getLast?_ne_return]
    · rw [List.append_cons front] at whole
      obtain ⟨rfl, -⟩ := firstLine_inj hl (by simp [inLine]) whole
      rwa [withoutReturn, if_pos List.getLast?_concat, List.dropLast_concat]
  · intro marker
    by_cases last : line.getLast? = some '\r'
    · obtain ⟨front, rfl⟩ := List.getLast?_eq_some_iff.mp last
      rw [withoutReturn, if_pos last, List.dropLast_concat] at marker
      exact ⟨front, ['\r', '\n'], [], marker, rfl, by simp⟩
    · rw [withoutReturn, if_neg last] at marker
      exact ⟨line, ['\n'], [], marker, rfl, rfl⟩

theorem markerAt_line (hl : '\n' ∉ line) :
    MarkerAt comment line start stop ↔ start = 0 ∧ stop = line.length ∧ IsMarker comment line := by
  constructor
  · intro found
    cases found with
    | ended whole => simp [whole] at hl
    | @last before found whole first inLine marker =>
      rw [whole, List.mem_append, not_or] at hl
      have none : before = [] := first.resolve_right fun last => hl.1 (List.mem_of_getLast? last)
      rw [none, List.nil_append] at whole
      rw [none, whole]
      exact ⟨rfl, rfl, marker⟩
  · rintro ⟨rfl, rfl, marker⟩
    exact .last (List.nil_append line).symm (.inl rfl) hl marker

/-- Whole lines after a line are whole lines. -/
theorem getLast?_below_iff (line front : Text) : (line ++ '\n' :: front).getLast? = some '\n' ↔
    front = [] ∨ front.getLast? = some '\n' := by
  rw [List.getLast?_append, List.getLast?_cons, Option.some_or, Option.some_inj]
  cases front with
  | nil => simp
  | cons c front => simp [List.getLast?_cons]

/-- A later line of a text starts where a line of the text below the first one starts. -/
theorem exists_below_of_first {before below : Text} (hl : '\n' ∉ line)
    (first : before.getLast? = some '\n') (whole : line ++ '\n' :: rest = before ++ below) :
    ∃ front, before = line ++ '\n' :: front ∧ rest = front ++ below ∧
      (front = [] ∨ front.getLast? = some '\n') := by
  obtain ⟨head, front, rfl, inHead⟩ := List.eq_append_cons_of_mem (List.mem_of_getLast? first)
  rw [List.append_assoc, List.cons_append] at whole
  obtain ⟨rfl, below⟩ := firstLine_inj hl inHead whole
  exact ⟨front, rfl, below, (getLast?_below_iff line front).mp first⟩

theorem length_line_append (line front : Text) :
    (line ++ '\n' :: front).length = line.length + 1 + front.length := by
  simp only [List.length_append, List.length_cons]
  omega

/-- A marker line is one with a line above it, too. -/
theorem MarkerAt.below (h : MarkerAt comment rest start stop) (line : Text) :
    MarkerAt comment (line ++ '\n' :: rest) (line.length + 1 + start) (line.length + 1 + stop) := by
  cases h with
  | @ended before line' rest' whole first inLine marker =>
    rw [← length_line_append, ← Nat.add_assoc, ← length_line_append]
    have below : line ++ '\n' :: rest = line ++ '\n' :: before ++ (line' ++ '\n' :: rest') := by
      simp [whole]
    exact .ended below (.inr ((getLast?_below_iff line before).mpr first)) inLine marker
  | @last before line' whole first inLine marker =>
    rw [← length_line_append, ← length_line_append]
    have below : line ++ '\n' :: rest = line ++ '\n' :: before ++ line' := by simp [whole]
    exact .last below (.inr ((getLast?_below_iff line before).mpr first)) inLine marker

theorem markerAt_more (hl : '\n' ∉ line) : MarkerAt comment (line ++ '\n' :: rest) start stop ↔
    (start = 0 ∧ stop = line.length + 1 ∧ IsMarker comment (withoutReturn line)) ∨
      ∃ start' stop', MarkerAt comment rest start' stop' ∧ start = line.length + 1 + start' ∧
        stop = line.length + 1 + stop' := by
  constructor
  · intro found
    cases found with
    | @ended before line' rest' whole first inLine marker =>
      rcases first with rfl | first
      · obtain ⟨rfl, rfl⟩ := firstLine_inj hl inLine whole
        exact .inl ⟨rfl, Nat.zero_add _, marker⟩
      · obtain ⟨front, rfl, below, starts⟩ := exists_below_of_first hl first whole
        refine .inr ⟨_, _, .ended below starts inLine marker, length_line_append line front, ?_⟩
        rw [length_line_append, Nat.add_assoc]
    | @last before line' whole first inLine marker =>
      rcases first with rfl | first
      · rw [List.nil_append] at whole
        rw [← whole] at inLine
        simp at inLine
      · obtain ⟨front, rfl, below, starts⟩ := exists_below_of_first hl first whole
        exact .inr ⟨_, _, .last below starts inLine marker, length_line_append line front,
          length_line_append line rest⟩
  · rintro (⟨rfl, rfl, marker⟩ | ⟨start', stop', found, rfl, rfl⟩)
    · have first : MarkerAt comment (line ++ '\n' :: rest) ([] : Text).length
          (([] : Text).length + (line.length + 1)) := .ended rfl (.inl rfl) hl marker
      rwa [List.length_nil, Nat.zero_add] at first
    · exact found.below line

theorem markerSpan?_line (hl : '\n' ∉ line) : markerSpan? comment line =
    if (afterMarker? comment line).isSome then some (0, line.length) else none := by
  rw [markerSpan?, splitAtMarker?_line hl]
  cases found : afterMarker? comment line with
  | none => rfl
  | some after =>
    obtain rfl := afterMarker?_line hl found
    rfl

theorem markerSpan?_more (hc : '\n' ∉ comment) (hl : '\n' ∉ line) (rest : Text) :
    markerSpan? comment (line ++ '\n' :: rest) =
      if (afterMarker? comment (line ++ ['\n'])).isSome then some (0, line.length + 1)
      else (markerSpan? comment rest).map fun (start, stop) =>
        (line.length + 1 + start, line.length + 1 + stop) := by
  rw [markerSpan?, markerSpan?, splitAtMarker?_more hl, afterMarker?_more hc hl]
  cases afterMarker? comment (line ++ ['\n']) with
  | some after =>
    simp
    omega
  | none =>
    cases found : splitAtMarker? comment rest with
    | none => rfl
    | some parts =>
      have shorter : parts.2.length ≤ rest.length := (suffix_of_splitFrom found).length_le
      simp
      omega

/-- The span of the marker is the one of the first marker line. -/
theorem markerSpan?_eq_some_iff (hc : '\n' ∉ comment) (code : Text) :
    markerSpan? comment code = some (start, stop) ↔ FirstMarkerAt comment code start stop := by
  induction code using lines_induction generalizing start stop with
  | last line hl =>
    rw [markerSpan?_line hl]
    constructor
    · intro found
      split at found
      · next marker =>
        cases found
        have marker := (isSome_afterMarker?_line hl).mp marker
        exact ⟨(markerAt_line hl).mpr ⟨rfl, rfl, marker⟩, fun _ _ _ => Nat.zero_le _⟩
      · cases found
    · intro ⟨found, _⟩
      obtain ⟨rfl, rfl, marker⟩ := (markerAt_line hl).mp found
      rw [if_pos ((isSome_afterMarker?_line hl).mpr marker)]
  | more line rest hl ih =>
    rw [markerSpan?_more hc hl]
    constructor
    · intro found
      split at found
      · next marker =>
        cases found
        have marker := (isSome_afterMarker?_ended hc hl).mp marker
        exact ⟨(markerAt_more hl).mpr (.inl ⟨rfl, rfl, marker⟩), fun _ _ _ => Nat.zero_le _⟩
      · next other =>
        obtain ⟨⟨start', stop'⟩, below, same⟩ := Option.map_eq_some_iff.mp found
        cases same
        obtain ⟨marker, first⟩ := ih.mp below
        refine ⟨(markerAt_more hl).mpr (.inr ⟨_, _, marker, rfl, rfl⟩), fun start stop found => ?_⟩
        rcases (markerAt_more hl).mp found with ⟨-, -, here⟩ | ⟨start', stop', later, rfl, -⟩
        · exact absurd ((isSome_afterMarker?_ended hc hl).mpr here) other
        · exact Nat.add_le_add_left (first _ _ later) _
    · intro ⟨found, first⟩
      split
      · next marker =>
        have here := (isSome_afterMarker?_ended hc hl).mp marker
        have least := first _ _ ((markerAt_more hl).mpr (.inl ⟨rfl, rfl, here⟩))
        rcases (markerAt_more hl).mp found with ⟨rfl, rfl, -⟩ | ⟨start', stop', -, rfl, -⟩
        · rfl
        · omega
      · next other =>
        rcases (markerAt_more hl).mp found with ⟨-, -, here⟩ | ⟨start', stop', later, rfl, rfl⟩
        · exact absurd ((isSome_afterMarker?_ended hc hl).mpr here) other
        · have below : FirstMarkerAt comment rest start' stop' := by
            refine ⟨later, fun start stop found => ?_⟩
            have least := first _ _ ((markerAt_more hl).mpr (.inr ⟨_, _, found, rfl, rfl⟩))
            omega
          rw [ih.mpr below]
          rfl

/-- Among the marker lines of a text there is a first one. -/
theorem markerSpan?_eq_none_iff (hc : '\n' ∉ comment) (code : Text) :
    markerSpan? comment code = none ↔ ∀ start stop, ¬ MarkerAt comment code start stop := by
  classical
  constructor
  · intro none start stop found
    have somewhere : ∃ start stop, MarkerAt comment code start stop := ⟨start, stop, found⟩
    obtain ⟨stop, least⟩ := Nat.find_spec somewhere
    have first : FirstMarkerAt comment code (Nat.find somewhere) stop :=
      ⟨least, fun start' stop' found => Nat.find_min' somewhere ⟨stop', found⟩⟩
    rw [(markerSpan?_eq_some_iff hc code).mpr first] at none
    cases none
  · intro absent
    cases found : markerSpan? comment code with
    | none => rfl
    | some span => exact absurd ((markerSpan?_eq_some_iff hc code).mp found).marker (absent _ _)

theorem prefix_of_splitFrom {fresh : Bool} {before : Text}
    (h : splitFrom comment fresh t = some (before, rest)) : before <+: t := by
  induction t generalizing fresh before with
  | nil =>
    rw [splitFrom] at h
    split at h
    · obtain ⟨after, -, same⟩ := Option.map_eq_some_iff.mp h
      obtain rfl : [] = before := congrArg Prod.fst same
      exact List.prefix_rfl
    · cases h
  | cons c t ih =>
    rw [splitFrom] at h
    split at h
    · obtain rfl : [] = before := congrArg Prod.fst (Option.some.inj h)
      exact List.nil_prefix
    · obtain ⟨⟨front, after⟩, found, same⟩ := Option.map_eq_some_iff.mp h
      cases same
      exact List.cons_prefix_cons.mpr ⟨rfl, ih found⟩

/-- An example is divided at the span of its marker. -/
theorem read_eq_take_drop (comment code : Text) :
    read comment code = match markerSpan? comment code with
      | none => { exercised := code, lines := (splitLines []).map (stripComment comment) }
      | some (start, stop) =>
        { exercised := code.take start
          lines := (splitLines (code.drop stop)).map (stripComment comment) } := by
  rw [read, markerSpan?]
  cases found : splitAtMarker? comment code with
  | none => rfl
  | some parts =>
    have above := List.prefix_iff_eq_take.mp (prefix_of_splitFrom found)
    have below := List.suffix_iff_eq_drop.mp (suffix_of_splitFrom found)
    simp only [Option.getD_some, Option.map_some]
    rw [← above, ← below]

/-- What stands above a marker line is empty or made of whole lines. -/
theorem MarkerAt.above (h : MarkerAt comment code start stop) : (code.take start).length = start ∧
    (code.take start = [] ∨ (code.take start).getLast? = some '\n') := by
  cases h with
  | ended whole first => exact ⟨by simp [whole], by simpa [whole] using first⟩
  | last whole first => exact ⟨by simp [whole], by simpa [whole] using first⟩

/-- There is no marker line above the first one. -/
theorem FirstMarkerAt.not_markerAt_take (h : FirstMarkerAt comment code start stop) (start' stop' : Nat) :
    ¬ MarkerAt comment (code.take start) start' stop' := by
  intro found
  obtain ⟨count, lines⟩ := h.marker.above
  have whole := List.take_append_drop start code
  generalize code.take start = above at found whole count lines
  generalize code.drop start = below at whole
  cases found with
  | @ended before line rest cut first inLine marker =>
    have further : code = before ++ (line ++ '\n' :: (rest ++ below)) := by simp [← whole, cut]
    have earlier : MarkerAt comment code before.length (before.length + (line.length + 1)) :=
      .ended further first inLine marker
    have least := h.first _ _ earlier
    simp only [cut, List.length_append, List.length_cons] at count
    omega
  | @last before line cut first inLine marker =>
    rcases lines with none | ends
    · rw [none, eq_comm, List.append_eq_nil_iff] at cut
      exact marker.ne_nil cut.2
    · rw [cut, List.getLast?_append, Option.or_eq_some_iff] at ends
      rcases ends with last | ⟨none, -⟩
      · exact inLine (List.mem_of_getLast? last)
      · exact marker.ne_nil (List.getLast?_eq_none_iff.mp none)

theorem not_mem_stripComment {c : Char} (h : c ∉ line) : c ∉ stripComment comment line := by
  have body : c ∉ line.dropWhile isBlank := fun mem => h ((List.dropWhile_suffix _).subset mem)
  unfold stripComment
  dsimp only
  split
  · exact body
  · next rest found =>
    rw [after?_eq_some_iff.mp found] at body
    exact fun mem => body (by simp [mem])
  · next rest _ found =>
    rw [after?_eq_some_iff.mp found] at body
    exact fun mem => body (by simp [mem])

/-- The marker of an example is its first marker line, if it has one: the code is what stands above that line,
and has no marker line, and the expected lines are those below it without their comment tokens. There is at
least one expected line, and none of them holds a LF. -/
theorem read_divides_at_marker (hc : '\n' ∉ comment) (code : Text) :
    (markerSpan? comment code = none ↔ ∀ start stop, ¬ MarkerAt comment code start stop) ∧
    (∀ start stop, markerSpan? comment code = some (start, stop) ↔ FirstMarkerAt comment code start stop) ∧
    (read comment code = match markerSpan? comment code with
      | none => { exercised := code, lines := (splitLines []).map (stripComment comment) }
      | some (start, stop) =>
        { exercised := code.take start
          lines := (splitLines (code.drop stop)).map (stripComment comment) }) ∧
    (∀ start stop, ¬ MarkerAt comment (read comment code).exercised start stop) ∧
    (read comment code).lines ≠ [] ∧ ∀ line ∈ (read comment code).lines, '\n' ∉ line := by
  refine ⟨markerSpan?_eq_none_iff hc code, fun _ _ => markerSpan?_eq_some_iff hc code,
    read_eq_take_drop comment code, ?_, ?_, ?_⟩
  · rw [read_eq_take_drop]
    cases found : markerSpan? comment code with
    | none => exact (markerSpan?_eq_none_iff hc code).mp found
    | some span => exact ((markerSpan?_eq_some_iff hc code).mp found).not_markerAt_take
  · rw [lines_read, Ne, List.map_eq_nil_iff]
    exact splitLines_ne_nil _
  · intro line inside
    rw [lines_read] at inside
    obtain ⟨whole, split, rfl⟩ := List.mem_map.mp inside
    rw [splitLines_eq_pieces] at split
    exact not_mem_stripComment (not_mem_of_mem_pieces split)

/-- Code with a marker line that CRLF ends, and before it two lines that are none: one with more text, and one of
which the CR is no part of the line end. -/
def nearMarkers : Text := "#Output: 1\n# Output:\r\r\n\t # \t Output: \r\n # 1\r\n#Output:".toList

theorem nearMarkers_divides : '\n' ∉ ['#'] ∧ FirstMarkerAt ['#'] nearMarkers 23 39 ∧
    (read ['#'] nearMarkers).exercised = "#Output: 1\n# Output:\r\r\n".toList ∧
    (∀ start stop, ¬ MarkerAt ['#'] (read ['#'] nearMarkers).exercised start stop) ∧
    (read ['#'] nearMarkers).lines = [['1'], "Output:".toList] := by
  have hc : '\n' ∉ ['#'] := by decide
  obtain ⟨-, span, -, clean, -, -⟩ := read_divides_at_marker hc nearMarkers
  exact ⟨hc, (span 23 39).mp (by decide +kernel), by decide +kernel, clean, by decide +kernel⟩

end DocExamples.Expectation
