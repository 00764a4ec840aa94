import DocExamples.Proofs.Effects
import DocExamples.Proofs.Script.Spelling
import DocExamples.Script.Grammar

namespace DocExamples.Script.Reader

open Text Effects

variable {cursor : Cursor} {lexeme : Lexeme} {rest : List Lexeme}

theorem run_next (h : cursor.rest = lexeme :: rest) :
    next.run cursor = (.ok lexeme.token, { cursor with far := max cursor.far cursor.taken }) := by
  simp only [next, peek, run_bind, run_get, h, run_set, run_pure]

/-- A literal is taken as its text. -/
theorem run_string {text : Text} (h : cursor.rest = lexeme :: rest) (token : lexeme.token = .str text) :
    ∃ after : Cursor, strings.string.run cursor = (.ok (.ok text), after) ∧ after.rest = rest := by
  refine ⟨⟨cursor.rest.tail, cursor.rest.head?, cursor.taken + 1, max cursor.far cursor.taken⟩, ?_, ?_⟩
  · rw [strings.string, run_bind, run_next h, token]
    simp only [skip, run_bind, run_modify, run_pure]
  · rw [h, List.tail_cons]

theorem run_string_other (h : cursor.rest = lexeme :: rest) (other : lexeme.token.isString = false) :
    ∃ after : Cursor, strings.string.run cursor = (.error .stuck, after) := by
  refine ⟨{ cursor with far := max cursor.far cursor.taken }, ?_⟩
  rw [strings.string, run_bind, run_next h]
  cases token : lexeme.token with
  | str text | brokenStr fault => simp [token, Token.isString] at other
  | name _ | int _ | op _ | newline | indent | dedent | stop => rfl

theorem run_attempt_ok {α : Type} {reader : Reader α} {value : α} {after : Cursor}
    (h : reader.run cursor = (.ok value, after)) :
    (attempt reader).run cursor = (.ok (some value), after) := by
  simp only [attempt, run_bind, run_get, run_tryCatch, run_map, h]
  rfl

theorem run_attempt_stuck {α : Type} {reader : Reader α} {after : Cursor}
    (h : reader.run cursor = (.error .stuck, after)) :
    (attempt reader).run cursor = (.ok none, { cursor with far := after.far }) := by
  simp only [attempt, run_bind, run_get, run_tryCatch, run_map, h]
  rfl

/-- Literals up to a token that is none are all taken. -/
theorem run_many_string {texts : List Text} {lexemes : List Lexeme}
    (same : lexemes.map (·.token) = texts.map .str) (other : lexeme.token.isString = false)
    {fuel : Nat} (enough : lexemes.length < fuel) (h : cursor.rest = lexemes ++ lexeme :: rest) :
    ∃ after : Cursor, (many strings.string fuel).run cursor = (.ok (texts.map .ok), after) := by
  induction lexemes generalizing texts fuel cursor with
  | nil =>
    obtain rfl : texts = [] := by simpa using same.symm
    obtain ⟨fuel, rfl⟩ : ∃ less, fuel = less + 1 := ⟨fuel - 1, by omega⟩
    obtain ⟨after, run⟩ := run_string_other h other
    refine ⟨{ cursor with far := after.far }, ?_⟩
    rw [many, run_bind, run_attempt_stuck run]
    rfl
  | cons first lexemes ih =>
    obtain ⟨text, texts, rfl, token, others⟩ := List.map_eq_cons_iff.mp same.symm
    obtain ⟨fuel, rfl⟩ : ∃ less, fuel = less + 1 := ⟨fuel - 1, by omega⟩
    obtain ⟨between, run, left⟩ := run_string h token.symm
    obtain ⟨after, more⟩ := ih others.symm (Nat.lt_of_succ_lt_succ enough) left
    refine ⟨after, ?_⟩
    rw [many, run_bind, run_attempt_ok run]
    simp only [run_bind, more, run_pure]
    rfl

theorem mapM_ok (texts : List Text) :
    (texts.map (Except.ok : Text → Except Fault Text)).mapM id = .ok texts := by
  induction texts with
  | nil => rfl
  | cons text texts ih =>
    rw [List.map_cons, List.mapM_cons, ih]
    rfl

/-- Literals in a row are one text. -/
theorem run_strings {texts : List Text} {lexemes : List Lexeme} (filled : texts ≠ [])
    (same : lexemes.map (·.token) = texts.map .str) (other : lexeme.token.isString = false)
    {fuel : Nat} (enough : lexemes.length < fuel) (h : cursor.rest = lexemes ++ lexeme :: rest) :
    ((strings fuel).run cursor).1 = .ok texts.flatten := by
  obtain ⟨after, run⟩ := run_many_string same other enough h
  have some : texts.isEmpty = false := by simpa using filled
  rw [strings, run_bind, run]
  simp only [mapM_ok, some]
  rfl

/-- Literals in a row that are read as a text, whatever token that is no literal comes after them. -/
def ReadAs (literals : List Text) (text : Text) : Prop :=
  ∀ (lexemes : List Lexeme) (lexeme : Lexeme) (rest : List Lexeme) (fuel : Nat),
    lexemes.map (·.token) = literals.map .str → lexeme.token.isString = false → lexemes.length < fuel →
      ((strings fuel).run (.ofLexemes (lexemes ++ lexeme :: rest))).1 = .ok text

theorem readAs_flatten {literals : List Text} (filled : literals ≠ []) :
    ReadAs literals literals.flatten := by
  intro lexemes lexeme rest fuel same other enough
  exact run_strings filled same other enough rfl

end DocExamples.Script.Reader
