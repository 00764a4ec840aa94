import DocExamples.Proofs.Script.Scanning

namespace DocExamples.Script

open Text

def Lexing.tokens (lexing : Lexing) : List Token := lexing.lexemes.map (·.token)

namespace Lexing

/-- A reading that comes to the end of a script, and its tokens. -/
inductive Reads : (fresh : Bool) → Position → Text → List Token → Prop
  | ends {fresh : Bool} {here : Position} {text : Text} {lexing : Lexing} :
    step fresh here text = .ends lexing → lexing.finish = .complete →
      Reads fresh here text lexing.tokens
  | goes {fresh next : Bool} {here there : Position} {text rest : Text} {lexemes : List Lexeme}
      {tokens : List Token} :
    step fresh here text = .goes lexemes next there rest → Reads next there rest tokens →
      Reads fresh here text (lexemes.map (·.token) ++ tokens)

/-- What a step that goes on leaves and reads: less of the text, and no token for the end. -/
structure Advances (lexemes : List Lexeme) (rest text : Text) : Prop where
  shorter : rest.length < text.length
  noStop : .stop ∉ lexemes.map (·.token)

theorem readToken_suffix {c : Char} {text rest : Text} {token : Token}
    (h : readToken c text = .ok (token, rest)) : rest <:+ text := by
  obtain ⟨left, suffix, rfl, -⟩ := readToken_isLocal c text [] token rest rfl (by simpa using h)
  simpa using suffix

theorem readToken_ne_stop {c : Char} {text rest : Text} {token : Token}
    (h : readToken c text = .ok (token, rest)) : token ≠ .stop := by
  unfold readToken at h
  rintro rfl
  split at h
  · split at h <;> simp at h
  · split at h
    · cases run : readNumber (c :: text) <;> simp [run, Except.map] at h
    · split at h <;> simp at h

theorem stringToken_ne_stop (inside : Text) : stringToken inside ≠ .stop := by
  unfold stringToken
  split <;> simp

theorem changeLevel_noStop {level : Level} {levels left : List Level} {tokens : List Token}
    (h : changeLevel level levels = .ok (tokens, left)) : .stop ∉ tokens := by
  unfold changeLevel at h
  grind

/-- A string step goes on after the closing quotes. -/
theorem stringStep_advances {isRaw next : Bool} {here there : Position} {lexemes : List Lexeme}
    {quote : Char} {inside rest : Text} (hq : isQuote quote = true)
    (h : stringStep isRaw here (quote :: inside) = .goes lexemes next there rest) :
    Advances lexemes rest (quote :: inside) := by
  unfold stringStep at h
  dsimp only at h
  generalize htext : (if inside.take 2 == [quote, quote] then inside.drop 2 else inside) = text at h
  have suffix : text <:+ inside := by
    rw [← htext]
    split
    · exact List.drop_suffix 2 inside
    · exact List.suffix_rfl
  split at h
  · simp at h
  · next literal run =>
    cases h
    rw [← List.append_nil text] at run
    obtain ⟨left, closed, same, -⟩ := readString_append hq rfl run
    have shorter : literal.rest.length ≤ inside.length := by
      simpa [same] using (closed.trans suffix).length_le
    refine ⟨Nat.lt_succ_of_le shorter, ?_⟩
    cases isRaw <;> simp [(stringToken_ne_stop _).symm]

theorem tokenStep_advances {next : Bool} {here there : Position} {c : Char} {text rest : Text}
    {lexemes : List Lexeme} (h : tokenStep here c text = .goes lexemes next there rest) :
    Advances lexemes rest (c :: text) := by
  unfold tokenStep at h
  split at h
  · next isRaw literal starts =>
    obtain ⟨quote, inside, rfl, hq, suffix⟩ := exists_quote_of_stringStart? starts
    have inner := stringStep_advances hq h
    exact ⟨inner.shorter.trans_le suffix.length_le, inner.noStop⟩
  split at h
  · unfold openStep at h
    split at h
    · simp at h
    · cases h
      exact ⟨by simp, by simp⟩
  split at h
  · unfold closeStep at h
    split at h
    · simp at h
    · split at h
      · cases h
        exact ⟨by simp, by simp⟩
      · simp at h
  split at h
  · simp at h
  · next token left run =>
    cases h
    exact ⟨Nat.lt_succ_of_le (readToken_suffix run).length_le,
      by simp [(readToken_ne_stop run).symm]⟩

/-- A step over a backslash that goes on leaves what stands below the end of the line. -/
theorem exists_of_joinStep {fresh next : Bool} {here there : Position} {text rest : Text}
    {lexemes : List Lexeme} (h : joinStep fresh here text = .goes lexemes next there rest) :
    text = '\n' :: rest ∧ rest ≠ [] ∧ lexemes = [] ∧ next = fresh ∧
      there = { here with line := here.line + 1 } := by
  unfold joinStep at h
  grind

theorem innerStep_advances {next : Bool} {here there : Position} {text rest : Text}
    {lexemes : List Lexeme} (h : innerStep here text = .goes lexemes next there rest) :
    Advances lexemes rest text := by
  cases text with
  | nil => simp [innerStep] at h
  | cons c text =>
    unfold innerStep at h
    dsimp only at h
    split at h
    · cases h
      exact ⟨by simp, by simp⟩
    split at h
    · cases h
      exact ⟨Nat.lt_succ_of_le (List.dropWhile_suffix _).length_le, by simp⟩
    split at h
    · split at h <;> cases h <;> exact ⟨by simp, by simp⟩
    split at h
    · obtain ⟨rfl, -, rfl, -⟩ := exists_of_joinStep h
      exact ⟨by simp only [List.length_cons]; omega, by simp⟩
    · exact tokenStep_advances h

theorem cutShort_spec (here : Position) :
    (cutShort here).lexemes = [] ∧ (cutShort here).finish ≠ .complete := by
  unfold cutShort
  split <;> simp

theorem joinStep_ends {fresh : Bool} {here : Position} {text : Text} {lexing : Lexing}
    (h : joinStep fresh here text = .ends lexing) :
    lexing.lexemes = [] ∧ lexing.finish ≠ .complete := by
  have := cutShort_spec here
  unfold joinStep at h
  grind

theorem tokenStep_ends {here : Position} {c : Char} {text : Text} {lexing : Lexing}
    (h : tokenStep here c text = .ends lexing) :
    lexing.lexemes = [] ∧ lexing.finish ≠ .complete := by
  have := cutShort_spec here
  unfold tokenStep at h
  split at h
  · unfold stringStep at h
    grind
  split at h
  · unfold openStep at h
    grind
  split at h
  · unfold closeStep at h
    grind
  grind

/-- Inside a line no reading comes to the end of a script. -/
theorem innerStep_ends {here : Position} {text : Text} {lexing : Lexing}
    (h : innerStep here text = .ends lexing) : lexing.lexemes = [] ∧ lexing.finish ≠ .complete := by
  have short := cutShort_spec here
  cases text with
  | nil =>
    cases h
    exact short
  | cons c text =>
    unfold innerStep at h
    dsimp only at h
    split at h
    · simp at h
    split at h
    · simp at h
    split at h
    · split at h <;> simp at h
    split at h
    · exact joinStep_ends h
    · exact tokenStep_ends h

theorem freshStep_goes {next : Bool} {here there : Position} {text rest : Text}
    {lexemes : List Lexeme} (h : freshStep here text = .goes lexemes next there rest) :
    (next = true → rest.length < text.length) ∧ rest.length ≤ text.length ∧
      .stop ∉ lexemes.map (·.token) := by
  have suffix := List.dropWhile_suffix isLineBlank (l := text)
  unfold freshStep at h
  dsimp only at h
  split at h
  · simp at h
  · next c below start =>
    rw [start] at h suffix
    have length := suffix.length_le
    split at h
    · cases h
      have dropped : (((c :: below).dropWhile (· != '\n')).drop 1).length < (c :: below).length := by
        have := (List.dropWhile_suffix (· != '\n') (l := c :: below)).length_le
        simp only [List.length_drop, List.length_cons] at this ⊢
        omega
      exact ⟨fun _ => by omega, by omega, by simp⟩
    split at h
    · obtain ⟨rfl, -, rfl, -⟩ := exists_of_joinStep h
      simp only [List.length_cons] at length
      exact ⟨fun _ => by omega, by omega, by simp⟩
    · split at h
      · simp at h
      · next tokens levels change =>
        cases h
        have noStop := changeLevel_noStop change
        exact ⟨by simp, length, by simpa using noStop⟩

theorem freshStep_ends {here : Position} {text : Text} {lexing : Lexing}
    (h : freshStep here text = .ends lexing) :
    lexing.lexemes = [] ∨ lexing.finish = .complete := by
  unfold freshStep at h
  grind [joinStep_ends]

/-- A step that goes on leaves less to do. -/
theorem step_shorter {fresh next : Bool} {here there : Position} {text rest : Text}
    {lexemes : List Lexeme} (h : step fresh here text = .goes lexemes next there rest) :
    2 * rest.length + next.toNat < 2 * text.length + fresh.toNat := by
  cases fresh with
  | false =>
    have := (innerStep_advances h).shorter
    have := next.toNat_le
    simp only [Bool.toNat_false]
    omega
  | true =>
    obtain ⟨drops, length, -⟩ := freshStep_goes h
    cases next with
    | false => simpa using Nat.lt_succ_of_le (Nat.mul_le_mul_left 2 length)
    | true => simpa using drops rfl

theorem step_noStop {fresh next : Bool} {here there : Position} {text rest : Text}
    {lexemes : List Lexeme} (h : step fresh here text = .goes lexemes next there rest) :
    .stop ∉ lexemes.map (·.token) := by
  cases fresh with
  | false => exact (innerStep_advances h).noStop
  | true => exact (freshStep_goes h).2.2

theorem step_ends {fresh : Bool} {here : Position} {text : Text} {lexing : Lexing}
    (h : step fresh here text = .ends lexing) :
    lexing.lexemes = [] ∨ lexing.finish = .complete := by
  cases fresh with
  | false => exact .inl (innerStep_ends h).1
  | true => exact freshStep_ends h

theorem before_tokens (lexing : Lexing) (lexemes : List Lexeme) :
    (lexing.before lexemes).tokens = lexemes.map (·.token) ++ lexing.tokens := by
  simp [before, tokens]

/-- A token for the end is read at the end only. -/
theorem finish_of_stop_mem {fuel : Nat} {fresh : Bool} {here : Position} {text : Text}
    (h : .stop ∈ (read fuel fresh here text).tokens) :
    (read fuel fresh here text).finish = .complete := by
  induction fuel generalizing fresh here text with
  | zero => rfl
  | succ fuel ih =>
    rw [read] at h ⊢
    cases move : step fresh here text with
    | ends lexing =>
      rw [move] at h
      refine (step_ends move).resolve_left fun none => ?_
      simp [tokens, none] at h
    | goes lexemes next there rest =>
      simp only [move, before_tokens, List.mem_append, step_noStop move, false_or] at h
      exact ih h

/-- With enough fuel, the readings that come to the end of a script are those of the relation. -/
theorem reads_iff {fuel : Nat} {fresh : Bool} {here : Position} {text : Text}
    (enough : 2 * text.length + fresh.toNat < fuel) (tokens : List Token) :
    Reads fresh here text tokens ↔
      (read fuel fresh here text).finish = .complete ∧
        (read fuel fresh here text).tokens = tokens := by
  induction fuel generalizing fresh here text tokens with
  | zero => omega
  | succ fuel ih =>
    rw [read]
    cases move : step fresh here text with
    | ends lexing =>
      constructor
      · intro h
        cases h with
        | ends same complete =>
          cases move.symm.trans same
          exact ⟨complete, rfl⟩
        | goes same _ => cases move.symm.trans same
      · rintro ⟨complete, rfl⟩
        exact .ends move complete
    | goes lexemes next there rest =>
      have less : 2 * rest.length + next.toNat < fuel := by
        have := step_shorter move
        omega
      constructor
      · intro h
        cases h with
        | ends same _ => cases move.symm.trans same
        | goes same more =>
          cases move.symm.trans same
          obtain ⟨complete, rfl⟩ := (ih less _).mp more
          exact ⟨complete, before_tokens _ _⟩
      · rintro ⟨complete, rfl⟩
        rw [before_tokens]
        exact .goes move ((ih less _).mpr ⟨complete, rfl⟩)

end Lexing

end DocExamples.Script
