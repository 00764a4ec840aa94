import DocExamples.Proofs.Script.Compilation
import DocExamples.Proofs.Script.Literal

namespace DocExamples.Script

open Text

/-- Whether a token is a string, with or without a fault. -/
def Token.isString : Token → Bool
  | .str _ | .brokenStr _ => true
  | _ => false

namespace Lexing

/-- The tokens of a text that is read to its end, and the literals that are read as its strings. -/
inductive Spells : (fresh : Bool) → Position → Text → List Token → List Text → Prop
  | ends {fresh : Bool} {here : Position} {text : Text} {lexing : Lexing} :
    step fresh here text = .ends lexing → lexing.finish = .complete →
      Spells fresh here text lexing.tokens []
  | passes {fresh next : Bool} {here there : Position} {text rest : Text} {lexemes : List Lexeme}
      {tokens : List Token} {literals : List Text} :
    step fresh here text = .goes lexemes next there rest →
    lexemes.any (·.token.isString) = false → Spells next there rest tokens literals →
      Spells fresh here text (lexemes.map (·.token) ++ tokens) literals
  | literal {fresh next : Bool} {here there : Position} {raw rest : Text} {lexemes : List Lexeme}
      {tokens : List Token} {literals : List Text} :
    step fresh here (raw ++ rest) = .goes lexemes next there rest →
    lexemes.any (·.token.isString) = true → Spells next there rest tokens literals →
      Spells fresh here (raw ++ rest) (lexemes.map (·.token) ++ tokens) (raw :: literals)

theorem Spells.reads {fresh : Bool} {here : Position} {text : Text} {tokens : List Token}
    {literals : List Text} (h : Spells fresh here text tokens literals) :
    Reads fresh here text tokens := by
  induction h with
  | ends last complete => exact .ends last complete
  | passes move _ _ ih => exact .goes move ih
  | literal move _ _ ih => exact .goes move ih

/-- The tokens are those of the whole script. -/
theorem Spells.ofText {text : Text} {tokens : List Token} {literals : List Text}
    (h : Spells true start text tokens literals) (last : text.getLast? = some '\n') :
    (ofText text).finish = .complete ∧ (ofText text).tokens = tokens := by
  have enough : 2 * text.length + true.toNat < 2 * text.length + 2 := by simp
  have whole : Lexing.ofText text = read (2 * text.length + 2) true start text := by
    rw [Lexing.ofText, last]
    rfl
  rw [whole]
  exact (reads_iff enough tokens).mp h.reads

/-- A section of a text: its tokens and literals, and where the reading goes on after it. -/
structure Covers (fresh : Bool) (here : Position) (text : Text) (tokens : List Token)
    (literals : List Text) (next : Bool) (there : Position) : Prop where
  spells {rest : Text} {more : List Token} {others : List Text} : Spells next there rest more others →
    Spells fresh here (text ++ rest) (tokens ++ more) (literals ++ others)

variable {fresh between next : Bool} {here middle there : Position} {text rest : Text}
  {tokens more : List Token} {literals others : List Text}

theorem Covers.nil : Covers fresh here [] [] [] fresh here := ⟨fun h => h⟩

theorem Covers.append (first : Covers fresh here text tokens literals between middle)
    (second : Covers between middle rest more others next there) :
    Covers fresh here (text ++ rest) (tokens ++ more) (literals ++ others) next there := by
  refine ⟨fun h => ?_⟩
  have both := first.spells (second.spells h)
  simpa only [List.append_assoc] using both

/-- A number of steps that read no string: their tokens, and where they lead. -/
def walk : Nat → Bool → Position → Text → Option (List Token × Bool × Position × Text)
  | 0, fresh, here, text => some ([], fresh, here, text)
  | count + 1, fresh, here, text =>
    match step fresh here text with
    | .ends _ => none
    | .goes lexemes next there rest =>
      if lexemes.any (·.token.isString) then none
      else (walk count next there rest).map fun (tokens, left) =>
        (lexemes.map (·.token) ++ tokens, left)

theorem Spells.of_walk {count : Nat} (h : walk count fresh here text = some (tokens, next, there, rest))
    (left : Spells next there rest more others) : Spells fresh here text (tokens ++ more) others := by
  induction count generalizing fresh here text tokens with
  | zero =>
    cases h
    exact left
  | succ count ih =>
    rw [walk] at h
    split at h
    · cases h
    · next lexemes _ _ _ move =>
      split at h
      · cases h
      · next strings =>
        obtain ⟨⟨further, _⟩, walked, same⟩ := Option.map_eq_some_iff.mp h
        cases same
        have inner := Spells.passes move (Bool.eq_false_iff.mpr strings) (ih walked)
        rwa [← List.append_assoc] at inner

/-- Steps that read no string cover what they go over. -/
theorem Covers.of_walk (count : Nat)
    (h : ∀ rest, walk count fresh here (text ++ rest) = some (tokens, next, there, rest)) :
    Covers fresh here text tokens [] next there :=
  ⟨fun left => .of_walk (h _) left⟩

/-- A quoted text between steps that lead to its quote and a section that starts with no quote. -/
theorem Covers.quoted (count : Nat) (lead : List Token) {before : Text}
    (h : ∀ mark inside, isQuote mark = true → walk count fresh here (before ++ mark :: inside) =
      some (lead, false, middle, mark :: inside))
    (t : Text) (filled : text ≠ []) (noQuote : text.head?.any isQuote = false)
    (below : Covers false middle text tokens literals next there) :
    Covers fresh here (before ++ (Text.quote t ++ text)) (lead ++ .str t :: tokens)
      (Text.quote t :: literals) next there := by
  refine ⟨fun {rest more others} left => ?_⟩
  have after : (text ++ rest).head?.any isQuote = false := by
    rwa [List.head?_append_of_ne_nil text filled]
  have move : step false middle (Text.quote t ++ (text ++ rest)) =
      .goes [⟨.str t, middle.line, middle.brackets.length⟩] false middle (text ++ rest) :=
    innerStep_quote middle t after
  have led : walk count fresh here (before ++ (Text.quote t ++ (text ++ rest))) =
      some (lead, false, middle, Text.quote t ++ (text ++ rest)) :=
    h (quoteMark t) _ (isQuote_quoteMark t)
  rw [List.append_assoc, List.append_assoc, List.append_assoc]
  exact .of_walk led (.literal move rfl (below.spells left))

end Lexing

end DocExamples.Script
