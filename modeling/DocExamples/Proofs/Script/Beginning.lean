import DocExamples.Proofs.Script.Passage
import Mathlib.Data.List.Induction

namespace DocExamples.Script.Lexing

open Text

variable {fresh : Bool} {here : Position} {text above last lead rest : Text} {tokens : List Token}

theorem reads_congr {next : Bool} {there : Position} {other : Text}
    (h : step fresh here text = step next there other) :
    Reads fresh here text tokens ↔ Reads next there other tokens := by
  cases move : step next there other with
  | ends lexing =>
    by_cases complete : lexing.finish = .complete
    · rw [reads_of_ends (h.trans move) complete, reads_of_ends move complete]
    · simp [not_reads_of_ends (h.trans move) complete, not_reads_of_ends move complete]
  | goes lexemes next there rest => rw [reads_of_goes (h.trans move), reads_of_goes move]

/-- White space is made of whole lines and the start of one more. -/
theorem exists_lines (h : lead.all isSpacing = true) :
    ∃ above last, lead = above ++ last ∧ last.all isLineBlank = true ∧
      above.all isSpacing = true ∧ (above = [] ∨ above.getLast? = some '\n') := by
  induction lead using List.reverseRecOn with
  | nil => exact ⟨[], [], rfl, rfl, rfl, .inl rfl⟩
  | append_singleton lead c ih =>
    rw [List.all_append, Bool.and_eq_true] at h
    obtain ⟨above, last, rfl, blank, spaced, ends⟩ := ih h.1
    by_cases newline : c = '\n'
    · subst newline
      refine ⟨above ++ last ++ ['\n'], [], by simp, rfl, ?_, .inr (by simp)⟩
      simpa [isSpacing] using h.1
    · have line : isLineBlank c = true := by simpa [isSpacing, newline] using h.2
      exact ⟨above, last ++ [c], by simp, by simp [blank, line], spaced, ends⟩

/-- Empty lines are read over. -/
theorem reads_after_lines (spaced : above.all isSpacing = true)
    (ends : above = [] ∨ above.getLast? = some '\n') (here : Position) (fresh : here.lead = noLead) :
    ∃ place, here.Alike place ∧ ∀ text tokens,
      Reads true here (above ++ text) tokens ↔ Reads true place text tokens := by
  induction hn : above.length using Nat.strong_induction_on generalizing above here with
  | _ n ih =>
    subst hn
    by_cases none : above = []
    · subst none
      exact ⟨here, .refl here, fun text tokens => Iff.rfl⟩
    · have newline : '\n' ∈ above := List.mem_of_getLast? (ends.resolve_left none)
      have whole := inLine_append_belowLine newline
      obtain ⟨line, below⟩ := (all_isSpacing_iff newline).mp spaced
      have shorter : (belowLine above).length < above.length := by
        conv_rhs => rw [← whole]
        simp
        omega
      have ends' := wholeLines_belowLine (ends.resolve_left none)
      obtain ⟨place, alike, same⟩ :=
        ih _ shorter below ends' { here with line := here.line + 1, lead := noLead } rfl rfl
      refine ⟨place, ⟨alike.levels, alike.brackets, fresh.trans alike.lead⟩, fun text tokens => ?_⟩
      have start : (above ++ text).dropWhile isLineBlank = '\n' :: (belowLine above ++ text) := by
        conv_lhs => rw [← whole]
        rw [List.append_assoc, List.dropWhile_append_of_pos (List.all_eq_true.mp line)]
        rfl
      rw [reads_of_goes (freshStep_of_skipped start (.inr rfl))]
      simpa using same text tokens

/-- White space of a line adds to its indentation. -/
theorem indentation_append_of_all (h : last.all isLineBlank = true) (level : Level) (rest : Text) :
    indentation level (last ++ rest) = indentation (indentation level last) rest := by
  induction last generalizing level with
  | nil => rfl
  | cons c last ih =>
    simp only [List.all_cons, Bool.and_eq_true] at h
    have line := h.1
    simp only [isLineBlank, Bool.or_eq_true, beq_iff_eq] at line
    rcases line with (rfl | rfl) | rfl <;> simp [indentation, ih h.2]

theorem indentation_of_code {c : Char} (hc : isLineBlank c = false) (level : Level) :
    indentation level (c :: rest) = level := by
  simp only [isLineBlank, Bool.or_eq_false_iff, beq_eq_false_iff_ne] at hc
  simp [indentation, hc]

/-- A line whose white space ends in a form feed starts where one without white space does. -/
theorem indentation_flush (h : last.all isLineBlank = true)
    (flush : last.getLast?.any isIndent = false) : indentation ⟨0, 0⟩ last = ⟨0, 0⟩ := by
  rcases List.eq_nil_or_concat last with rfl | ⟨start, c, rfl⟩
  · rfl
  · rw [List.concat_eq_append] at h flush ⊢
    rw [List.all_append, Bool.and_eq_true] at h
    have feed : c = '\x0c' := by
      have line : isLineBlank c = true := by simpa using h.2
      simp only [isLineBlank, Bool.or_eq_true, beq_iff_eq] at line
      rcases line with (rfl | rfl) | rfl
      · simp [isIndent] at flush
      · simp [isIndent] at flush
      · rfl
    subst feed
    rw [indentation_append_of_all h.1]
    rfl

theorem indentation_pos (h : last.all isLineBlank = true)
    (indented : last.getLast?.any isIndent = true) :
    0 < (indentation ⟨0, 0⟩ last).column ∧ 0 < (indentation ⟨0, 0⟩ last).narrow := by
  rcases List.eq_nil_or_concat last with rfl | ⟨start, c, rfl⟩
  · simp at indented
  · rw [List.concat_eq_append] at h indented ⊢
    rw [List.all_append, Bool.and_eq_true] at h
    rw [indentation_append_of_all h.1]
    have : c = ' ' ∨ c = '\t' := by simpa [isIndent] using indented
    rcases this with rfl | rfl <;> simp [indentation]

theorem dropWhile_lead {c : Char} (h : last.all isLineBlank = true) (hc : isLineBlank c = false)
    (rest : Text) : (last ++ c :: rest).dropWhile isLineBlank = c :: rest := by
  rw [List.dropWhile_append_of_pos (List.all_eq_true.mp h), List.dropWhile_cons, hc]
  rfl

/-- The white space that a line starts with may have been read before. -/
theorem step_after_blank (h : last.all isLineBlank = true) (here : Position) (text : Text) :
    step true here (last ++ text) = step true { here with lead := leadPast here.lead last } text := by
  have start : (last ++ text).dropWhile isLineBlank = text.dropWhile isLineBlank :=
    List.dropWhile_append_of_pos (List.all_eq_true.mp h)
  have lead : leadPast here.lead (last ++ text) = leadPast (leadPast here.lead last) text := by
    simp [leadPast, indentation_append_of_all h]
  simp only [step, if_true, freshStep, start, lead]

/-- A script whose first line holds nothing, or a comment only. Backslashes may join it to lines above
that hold nothing. -/
def startsIdle : Text → Bool
  | '\\' :: '\n' :: below => startsIdle below
  | c :: rest => if isLineBlank c then startsIdle rest else c == '#' || c == '\n'
  | [] => true

theorem startsIdle_of_spacing (h : text.all isSpacing = true) : startsIdle text = true := by
  induction text with
  | nil => rfl
  | cons c text ih =>
    rw [List.all_cons, Bool.and_eq_true] at h
    have joined : c ≠ '\\' := by
      rintro rfl
      exact absurd h.1 (by decide)
    have spacing := h.1
    rw [isSpacing, Bool.or_eq_true, beq_iff_eq] at spacing
    rw [startsIdle]
    · rcases spacing with line | rfl <;> simp [*]
    · exact fun below same => absurd same joined

/-- Where nothing stands in the first line it does not matter how far the line is indented. -/
theorem reads_idle (idle : startsIdle text = true) (here : Position) (lead : Lead) :
    Reads true { here with lead } text tokens ↔ Reads true here text tokens := by
  fun_induction startsIdle text generalizing here lead tokens with
  | case1 below ih =>
    have start : ('\\' :: '\n' :: below).dropWhile isLineBlank = '\\' :: '\n' :: below := rfl
    by_cases more : below = []
    · subst more
      have ended (place : Position) : step true place ['\\', '\n'] = .ends (cutShort place) := rfl
      simp [not_reads_of_ends (ended _) (cutShort_spec _).2]
    · have joined (place : Position) := (@freshStep_of_joined place _ _ start).trans (joinStep_newline more)
      rw [reads_of_goes (joined _), reads_of_goes (joined _)]
      have same (lead : Lead) (more : List Token) :=
        @ih more idle ({ here with line := here.line + 1 } : Position) lead
      simp only [same]
  | case2 c rest joined blank ih =>
    have line : [c].all isLineBlank = true := by simpa using blank
    have passed (place : Position) := step_after_blank line place rest
    rw [List.singleton_append] at passed
    rw [reads_congr (passed _), reads_congr (passed _)]
    exact (ih idle here _).trans (ih idle here _).symm
  | case3 c rest joined visible =>
    have start : (c :: rest).dropWhile isLineBlank = c :: rest :=
      List.dropWhile_cons_of_neg visible
    have skipped : c = '#' ∨ c = '\n' := by simpa using idle
    rw [reads_of_goes (freshStep_of_skipped start skipped), reads_of_goes (freshStep_of_skipped start skipped)]
  | case4 =>
    rw [reads_of_ends (freshStep_of_lineBlank rfl) rfl, reads_of_ends (freshStep_of_lineBlank rfl) rfl]

/-- White space that leaves the first line where it starts, or stands before nothing, is read over. -/
theorem reads_after_lead {c : Char} (spaced : lead.all isSpacing = true)
    (flush : lead.getLast?.any isIndent = false ∨ startsIdle (c :: rest) = true) (here : Position)
    (fresh : here.lead = noLead) :
    ∃ place, here.Alike place ∧ ∀ tokens,
      Reads true here (lead ++ c :: rest) tokens ↔ Reads true place (c :: rest) tokens := by
  obtain ⟨above, last, rfl, line, spaced, ends⟩ := exists_lines spaced
  obtain ⟨place, alike, same⟩ := reads_after_lines spaced ends here fresh
  refine ⟨place, alike, fun tokens => ?_⟩
  rw [List.append_assoc, same, reads_congr (step_after_blank line place _)]
  rcases flush with flush | idle
  · have flush : last.getLast?.any isIndent = false := by
      cases hl : last.getLast? with
      | none => rfl
      | some d =>
        rw [List.getLast?_append, hl] at flush
        exact flush
    have unmoved : leadPast place.lead last = place.lead := by
      rw [← alike.lead, fresh, leadPast]
      exact congrArg (Lead.mk · 0) (indentation_flush line flush)
    rw [unmoved]
  · exact reads_idle idle place _

theorem head?_eq_indent_of_code {c : Char} (code : isLineBlank c = false) (comment : c ≠ '#' ∧ c ≠ '\n')
    (joined : c ≠ '\\') (indented : 0 < (leadLevel here.lead).column ∧ 0 < (leadLevel here.lead).narrow)
    (levels : here.levels = [⟨0, 0⟩]) (h : Reads true here (c :: rest) tokens) :
    tokens.head? = some .indent := by
  obtain ⟨column, narrow⟩ := indented
  have change : changeLevel (leadLevel here.lead) here.levels =
      .ok ([.indent], leadLevel here.lead :: here.levels) := by
    rw [levels]
    simp [changeLevel, column.ne', narrow.ne', column, mostLevels]
  have start : (c :: rest).dropWhile isLineBlank = c :: rest :=
    List.dropWhile_cons_of_neg (by simp [code])
  have move := @freshStep_of_code here _ _ _ start comment joined
  rw [leadPast, indentation_of_code code, change] at move
  obtain ⟨more, rfl, -⟩ := (reads_of_goes move).mp h
  rfl

/-- A backslash before anything but a line end refuses a script. -/
theorem exists_of_reads_joined (h : Reads true here ('\\' :: rest) tokens) :
    ∃ below place, rest = '\n' :: below ∧ place.levels = here.levels ∧
      place.lead = leadJoined here.lead ∧ Reads true place below tokens := by
  have start : ('\\' :: rest).dropWhile isLineBlank = '\\' :: rest := rfl
  have joined := @freshStep_of_joined here _ _ start
  cases move : step true here ('\\' :: rest) with
  | ends lexing => exact absurd h (not_reads_of_ends move (joinStep_ends (joined ▸ move)).2)
  | goes lexemes next there below =>
    obtain ⟨rfl, -, rfl, rfl, rfl⟩ := exists_of_joinStep (joined ▸ move)
    obtain ⟨more, rfl, reads⟩ := (reads_of_goes move).mp h
    refine ⟨below, _, rfl, ?_, ?_, reads⟩ <;> rfl

/-- The column that a backslash keeps indents the lines joined by it. -/
theorem head?_eq_indent_of_kept (idle : startsIdle text = false) (kept : 0 < here.lead.kept)
    (levels : here.levels = [⟨0, 0⟩]) (h : Reads true here text tokens) :
    tokens.head? = some .indent := by
  fun_induction startsIdle text generalizing here with
  | case1 below ih =>
    obtain ⟨_, place, same, levels', lead, reads⟩ := exists_of_reads_joined h
    obtain rfl := (List.cons.inj same).2
    refine ih idle ?_ (levels'.trans levels) reads
    simp [lead, leadJoined, kept.ne', kept]
  | case2 c rest joined blank ih =>
    have line : [c].all isLineBlank = true := by simpa using blank
    rw [← List.singleton_append, reads_congr (step_after_blank line here rest)] at h
    exact @ih { here with lead := leadPast here.lead [c] } idle kept levels h
  | case3 c rest joined visible =>
    have comment : c ≠ '#' ∧ c ≠ '\n' := by simpa using idle
    by_cases backslash : c = '\\'
    · subst backslash
      obtain ⟨below, _, rfl, -⟩ := exists_of_reads_joined h
      exact absurd rfl (joined below rfl)
    · refine head?_eq_indent_of_code (by simpa using visible) comment backslash ?_ levels h
      simp [leadLevel, kept.ne', kept]
  | case4 => simp at idle

/-- White space that indents the first line of a script is read as a change of indentation. -/
theorem head?_eq_indent {c : Char} (hc : isBlank c = false) (idle : startsIdle (c :: rest) = false)
    (spaced : lead.all isSpacing = true) (indented : lead.getLast?.any isIndent = true)
    (levels : here.levels = [⟨0, 0⟩]) (fresh : here.lead = noLead)
    (h : Reads true here (lead ++ c :: rest) tokens) :
    tokens.head? = some .indent := by
  obtain ⟨above, last, rfl, line, spaced, ends⟩ := exists_lines spaced
  obtain ⟨place, alike, same⟩ := reads_after_lines spaced ends here fresh
  rw [List.append_assoc, same, reads_congr (step_after_blank line place _)] at h
  have indented : last.getLast?.any isIndent = true := by
    cases hl : last.getLast? with
    | none =>
      rw [List.getLast?_append, hl] at indented
      rcases ends with rfl | ends
      · simp at indented
      · simp [ends, isIndent] at indented
    | some d =>
      rw [List.getLast?_append, hl] at indented
      exact indented
  have positive := indentation_pos line indented
  rw [← alike.lead, fresh] at h
  have levels : place.levels = [⟨0, 0⟩] := alike.levels.symm.trans levels
  by_cases backslash : c = '\\'
  · subst backslash
    obtain ⟨below, there, rfl, levels', lead, reads⟩ := exists_of_reads_joined h
    rw [startsIdle] at idle
    refine head?_eq_indent_of_kept idle ?_ (levels'.trans levels) reads
    simpa [lead, leadJoined, leadPast, noLead] using positive.1
  · have code := isLineBlank_eq_false hc
    have comment : c ≠ '#' ∧ c ≠ '\n' := ⟨?_, ne_of_isBlank hc (by decide)⟩
    · exact @head?_eq_indent_of_code { place with lead := leadPast noLead last } _ _ _ code comment backslash
        positive levels h
    · rintro rfl
      simp [startsIdle, isLineBlank] at idle

/-- Other white space than that of scripts may not stand at the beginning. -/
theorem not_reads_of_foreign_lead (hb : lead.all isBlank = true) (hs : lead.all isSpacing = false)
    (fresh : here.lead = noLead) : ¬ Reads true here (lead ++ rest) tokens := by
  have stop := head?_dropWhile_any isSpacing lead
  have whole : lead.takeWhile isSpacing ++ lead.dropWhile isSpacing = lead :=
    List.takeWhile_append_dropWhile
  cases foreign : lead.dropWhile isSpacing with
  | nil => simp [List.all_eq_true.mpr (List.dropWhile_eq_nil_iff.mp foreign)] at hs
  | cons c left =>
    rw [foreign] at stop whole
    have notSpacing : isSpacing c = false := by simpa using stop
    have blank : isBlank c = true := by
      rw [← whole, List.all_append, List.all_cons, Bool.and_eq_true, Bool.and_eq_true] at hb
      exact hb.2.1
    have code : isLineBlank c = false := by
      simp only [isSpacing, Bool.or_eq_false_iff] at notSpacing
      exact notSpacing.1
    obtain ⟨above, last, split, line, spaced, ends⟩ := exists_lines (@List.all_takeWhile _ isSpacing lead)
    obtain ⟨place, alike, same⟩ := reads_after_lines spaced ends here fresh
    rw [← whole, split, List.append_assoc, List.append_assoc, same]
    exact not_reads_of_foreign_start (dropWhile_lead line code (left ++ rest)) blank notSpacing

end DocExamples.Script.Lexing
