import DocExamples.Proofs.Script.Stepping
import Mathlib.Data.List.TakeWhile

namespace DocExamples.Script.Lexing

open Text

variable {fresh next : Bool} {here there : Position} {text rest : Text} {lexemes : List Lexeme}
  {tokens : List Token}

theorem reads_of_goes (h : step fresh here text = .goes lexemes next there rest) :
    Reads fresh here text tokens ↔
      ∃ more, tokens = lexemes.map (·.token) ++ more ∧ Reads next there rest more := by
  constructor
  · intro reads
    cases reads with
    | ends same _ => cases h.symm.trans same
    | goes same more =>
      cases h.symm.trans same
      exact ⟨_, rfl, more⟩
  · rintro ⟨more, rfl, reads⟩
    exact .goes h reads

theorem reads_of_ends {lexing : Lexing} (h : step fresh here text = .ends lexing)
    (hf : lexing.finish = .complete) : Reads fresh here text tokens ↔ tokens = lexing.tokens := by
  constructor
  · intro reads
    cases reads with
    | ends same _ =>
      cases h.symm.trans same
      rfl
    | goes same _ => cases h.symm.trans same
  · rintro rfl
    exact .ends h hf

theorem not_reads_of_ends {lexing : Lexing} (h : step fresh here text = .ends lexing)
    (hf : lexing.finish ≠ .complete) : ¬ Reads fresh here text tokens := by
  intro reads
  cases reads with
  | ends same complete =>
    cases h.symm.trans same
    exact hf complete
  | goes same _ => cases h.symm.trans same

/-- Other white space than that of scripts belongs to no token. -/
theorem readToken_of_foreign {c : Char} (hb : isBlank c = true) (rest : Text) :
    ∃ fault, isSpacing c = false → readToken c rest = .error fault := by
  have starts : startsIdentifier c = false := by
    have := continuesIdentifier_of_isBlank hb
    simp only [continuesIdentifier, Bool.or_eq_false_iff] at this
    exact this.1.1
  have digit := isDigit_of_isBlank hb
  have printable : (!isSpacing c && isPrintable c) = false :=
    eq_false_of_isBlank (p := fun c => !isSpacing c && isPrintable c) hb (by decide +kernel)
  unfold readToken
  by_cases name : startsName c = true
  · exact ⟨_, fun _ => by simp [name, misplaced?, starts]; rfl⟩
  · refine ⟨.unprintableCharacter c, fun foreign => ?_⟩
    have : isPrintable c = false := by simpa [foreign] using printable
    simp [name, digit, this]

theorem stringStart?_of_foreign {c : Char} (hb : isBlank c = true) (rest : Text) :
    stringStart? (c :: rest) = none := by
  have noMark : (stringMarks.any fun mark => mark.head? == some c) = false :=
    eq_false_of_isBlank (p := fun c => stringMarks.any fun mark => mark.head? == some c) hb (by decide)
  unfold stringStart?
  by_cases name : inName c = true
  · have marks : stringMarks.contains (c :: rest.takeWhile inName) = false := by
      cases marked : stringMarks.contains (c :: rest.takeWhile inName) with
      | false => rfl
      | true =>
        have mem : c :: rest.takeWhile inName ∈ stringMarks := by simpa using marked
        have := List.any_eq_false.mp noMark _ mem
        simp at this
    simp only [List.takeWhile_cons, name, if_true, List.isEmpty_cons, Bool.false_or, marks,
      Bool.false_and, Bool.false_eq_true, if_false]
  · simp [name, isQuote_of_isBlank hb]

/-- A line does not go on with other white space than that of scripts. -/
theorem not_reads_of_foreign {c : Char} (hb : isBlank c = true) (hs : isSpacing c = false) :
    ¬ Reads false here (c :: rest) tokens := by
  obtain ⟨fault, refused⟩ := readToken_of_foreign hb rest
  have special : (c == '#' || c == '\\' || c == '(' || c == '[' || c == '\x7b' || c == ')' || c == ']' ||
      c == '\x7d') = false :=
    eq_false_of_isBlank (p := fun c => c == '#' || c == '\\' || c == '(' || c == '[' || c == '\x7b' ||
      c == ')' || c == ']' || c == '\x7d') hb (by decide)
  simp only [Bool.or_eq_false_iff, beq_eq_false_iff_ne] at special
  simp only [isSpacing, Bool.or_eq_false_iff, beq_eq_false_iff_ne] at hs
  have ended : step false here (c :: rest) = .ends ⟨[], .raised ⟨fault, here.line⟩⟩ := by
    simp [step, innerStep, tokenStep, hs, special, stringStart?_of_foreign hb,
      refused (by simp [isSpacing, hs])]
  exact not_reads_of_ends ended (by simp)

theorem isSpacing_or_foreign (c : Char) :
    isLineBlank c = true ∨ c = '\n' ∨ isSpacing c = false := by
  cases line : isLineBlank c with
  | true => exact .inl rfl
  | false => by_cases newline : c = '\n' <;> simp [isSpacing, line, newline]

theorem freshStep_of_lineBlank (h : text.all isLineBlank = true) :
    step true here text =
      .ends ⟨(endTokens here.levels).map fun token => ⟨token, here.line - 1, 0⟩, .complete⟩ := by
  have none : text.dropWhile isLineBlank = [] :=
    List.dropWhile_eq_nil_iff.mpr (List.all_eq_true.mp h)
  simp only [step, if_true, freshStep, none]

/-- An empty line, or one with a comment only, is passed over. -/
theorem freshStep_of_skipped {c : Char} (h : text.dropWhile isLineBlank = c :: rest)
    (hc : c = '#' ∨ c = '\n') :
    step true here text =
      .goes [] true { here with line := here.line + 1, lead := noLead }
        (((c :: rest).dropWhile (· != '\n')).drop 1) := by
  have skipped : (c = '#' || c = '\n') = true := by simpa using hc
  simp only [step, if_true, freshStep, h, skipped]

/-- A backslash joins the next line to the start of its own. -/
theorem freshStep_of_joined (h : text.dropWhile isLineBlank = '\\' :: rest) :
    step true here text = joinStep true { here with lead := leadJoined (leadPast here.lead text) } rest := by
  simp [step, freshStep, h]

/-- A line that starts with anything else changes the level, or keeps it. -/
theorem freshStep_of_code {c : Char} (h : text.dropWhile isLineBlank = c :: rest)
    (hc : c ≠ '#' ∧ c ≠ '\n') (joined : c ≠ '\\') :
    step true here text =
      match changeLevel (leadLevel (leadPast here.lead text)) here.levels with
      | .error fault => .ends ⟨[], .stopped ⟨fault, here.line⟩ none⟩
      | .ok (tokens, levels) =>
        .goes (tokens.map fun token => ⟨token, here.line, 0⟩) false
          { here with levels, lead := noLead } (c :: rest) := by
  have code : (c = '#' || c = '\n') = false := by simpa using hc
  cases level : changeLevel (leadLevel (leadPast here.lead text)) here.levels with
  | error fault => simp [step, freshStep, h, code, joined, level]
  | ok found => simp [step, freshStep, h, code, joined, level]

/-- A line does not start with other white space than that of scripts. -/
theorem not_reads_of_foreign_start {c : Char} (h : text.dropWhile isLineBlank = c :: rest)
    (hb : isBlank c = true) (hs : isSpacing c = false) : ¬ Reads true here text tokens := by
  have code : c ≠ '#' ∧ c ≠ '\n' := by
    constructor
    · rintro rfl
      exact absurd hb (by decide)
    · rintro rfl
      exact absurd hs (by decide)
  have joined : c ≠ '\\' := by
    rintro rfl
    exact absurd hb (by decide)
  have move := @freshStep_of_code here text rest c h code joined
  cases change : changeLevel (leadLevel (leadPast here.lead text)) here.levels with
  | error fault =>
    rw [change] at move
    exact not_reads_of_ends move (by simp)
  | ok found =>
    rw [change] at move
    rw [reads_of_goes move]
    rintro ⟨more, -, reads⟩
    exact not_reads_of_foreign hb hs reads

theorem step_lineBlank {c : Char} (h : isLineBlank c = true) :
    step false here (c :: rest) = .goes [] false here rest := by
  simp [step, innerStep, h]

theorem step_newline_outside (h : here.brackets = []) : step false here ('\n' :: rest) =
    .goes [⟨.newline, here.line, 0⟩] true { here with line := here.line + 1 } rest := by
  simp [step, innerStep, isLineBlank, h]

theorem step_newline_inside (h : here.brackets ≠ []) : step false here ('\n' :: rest) =
    .goes [] false { here with line := here.line + 1 } rest := by
  simp [step, innerStep, isLineBlank, h]

/-- White space may be read where a line starts exactly when it is that of scripts. -/
theorem reads_blank_fresh {white : Text} (hb : white.all isBlank = true) :
    Reads true here white tokens ↔ white.all isSpacing = true ∧ tokens = endTokens here.levels := by
  induction hn : white.length using Nat.strong_induction_on generalizing white here tokens with
  | _ n ih =>
    subst hn
    have start : white.takeWhile isLineBlank ++ white.dropWhile isLineBlank = white :=
      List.takeWhile_append_dropWhile
    have spaced : (white.takeWhile isLineBlank).all isSpacing = true := by
      rw [List.all_eq_true]
      exact fun c hc => isSpacing_of_isLineBlank (List.all_eq_true.mp List.all_takeWhile c hc)
    have stop := head?_dropWhile_any isLineBlank white
    cases rest : white.dropWhile isLineBlank with
    | nil =>
      rw [rest, List.append_nil] at start
      have line : white.all isLineBlank = true := by
        rw [← start]
        exact List.all_takeWhile
      rw [reads_of_ends (freshStep_of_lineBlank line) rfl, ← start, spaced]
      simp [Lexing.tokens, Function.comp_def]
    | cons c below =>
      rw [rest] at start stop
      have whole : white.all isSpacing = (isSpacing c && below.all isSpacing) := by
        rw [← start, List.all_append, spaced, List.all_cons, Bool.true_and]
      have blank : isBlank c = true ∧ below.all isBlank = true := by
        rw [← start, List.all_append, List.all_cons, Bool.and_eq_true, Bool.and_eq_true] at hb
        exact hb.2
      have shorter : below.length < white.length := by
        rw [← start]
        simp only [List.length_append, List.length_cons]
        omega
      have visible : isLineBlank c = false := by simpa using stop
      rcases isSpacing_or_foreign c with line | rfl | foreign
      · simp [line] at visible
      · rw [reads_of_goes (freshStep_of_skipped rest (.inr rfl)), whole]
        have newline : isSpacing '\n' = true := by decide
        simp [newline, ih below.length shorter blank.2 rfl]
      · simp [not_reads_of_foreign_start rest blank.1 foreign, whole, foreign]

/-- White space may be read inside a line exactly when it is that of scripts and ends the line outside
brackets. -/
theorem reads_blank_inner {white : Text} (hb : white.all isBlank = true) :
    Reads false here white tokens ↔
      white.all isSpacing = true ∧ '\n' ∈ white ∧ here.brackets = [] ∧
        tokens = .newline :: endTokens here.levels := by
  induction white generalizing here tokens with
  | nil =>
    have ended : step false here [] = .ends (cutShort here) := rfl
    simp [not_reads_of_ends ended (cutShort_spec here).2]
  | cons c rest ih =>
    rw [List.all_cons, Bool.and_eq_true] at hb
    rcases isSpacing_or_foreign c with line | rfl | foreign
    · have newline : c ≠ '\n' := by
        rintro rfl
        exact absurd line (by decide)
      rw [reads_of_goes (step_lineBlank line)]
      simp [ih hb.2, isSpacing_of_isLineBlank line, newline.symm]
    · have newline : isSpacing '\n' = true := by decide
      by_cases outside : here.brackets = []
      · rw [reads_of_goes (step_newline_outside outside)]
        simp [reads_blank_fresh hb.2, outside, newline, and_comm]
      · rw [reads_of_goes (step_newline_inside outside)]
        simp [ih hb.2, outside]
    · simp [not_reads_of_foreign hb.1 foreign, foreign]

end DocExamples.Script.Lexing
