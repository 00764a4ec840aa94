import DocExamples.Proofs.Script.Statements
import DocExamples.Proofs.Script.Stepping

namespace DocExamples.Script

open Effects

namespace Reader

variable {α β : Type}

/-- A cursor before an indentation. -/
def AtIndent (cursor : Cursor) : Prop := cursor.tokens.head? = some .indent

/-- A reader that finds no rule for an indentation. -/
def Refuses (r : Reader α) : Prop := ∀ c, AtIndent c → ∃ d, r.run c = (.error .stuck, d)

/-- A reader that reads a value before an indentation, and takes nothing. -/
def Yields (r : Reader α) (value : α) : Prop :=
  ∀ c, AtIndent c → ∃ d, r.run c = (.ok value, d) ∧ AtIndent d

namespace Refuses

theorem stuck : Refuses (stuck : Reader α) := fun c _ => ⟨c, rfl⟩

theorem bind {r : Reader α} (h : Refuses r) (f : α → Reader β) : Refuses (r >>= f) := by
  intro c hc
  obtain ⟨d, run⟩ := h c hc
  exact ⟨d, by rw [run_bind, run]⟩

end Refuses

namespace Yields

theorem bind {r : Reader α} {value : α} (h : Yields r value) {f : α → Reader β}
    (hf : Refuses (f value)) : Refuses (r >>= f) := by
  intro c hc
  obtain ⟨d, run, hd⟩ := h c hc
  obtain ⟨e, refused⟩ := hf d hd
  exact ⟨e, by rw [run_bind, run]; exact refused⟩

theorem attempt {r : Reader α} (h : Refuses r) : Yields (attempt r) none := by
  intro c hc
  obtain ⟨d, run⟩ := h c hc
  refine ⟨{ c with far := d.far }, ?_, hc⟩
  simp only [Reader.attempt, run_bind, run_get, run_tryCatch, run_map, run]
  rfl

/-- Looking at the next lexeme. -/
theorem peek {c : Cursor} (h : AtIndent c) :
    ∃ lexeme, lexeme.token = .indent ∧
      Reader.peek.run c = (.ok lexeme, { c with far := max c.far c.taken }) := by
  obtain ⟨tokens, heq⟩ := List.head?_eq_some_iff.mp h
  obtain ⟨lexeme, rest, hr, token, -⟩ := List.map_eq_cons_iff.mp heq
  cases c with
  | mk lexemes last taken far =>
    obtain rfl : lexemes = lexeme :: rest := hr
    exact ⟨lexeme, token, rfl⟩

theorem line_bind {f : Nat → Reader β} (hf : ∀ line, Refuses (f line)) : Refuses (line >>= f) := by
  intro c hc
  obtain ⟨lexeme, -, run⟩ := peek hc
  have lines : line.run c = (.ok lexeme.line, { c with far := max c.far c.taken }) := by
    rw [Reader.line, run_bind, run]
    rfl
  obtain ⟨d, refused⟩ := hf lexeme.line { c with far := max c.far c.taken } hc
  exact ⟨d, by rw [run_bind, lines]; exact refused⟩

theorem next : Yields next .indent := by
  intro c hc
  obtain ⟨lexeme, token, run⟩ := peek hc
  refine ⟨{ c with far := max c.far c.taken }, ?_, hc⟩
  rw [Reader.next, run_bind, run, ← token]
  rfl

theorem isNext {token : Token} (h : token ≠ .indent) : Yields (isNext token) false := by
  intro c hc
  obtain ⟨d, run, hd⟩ := next c hc
  have other : (Token.indent == token) = false := by simpa using h.symm
  exact ⟨d, by rw [Reader.isNext, run_bind, run]; simp [other], hd⟩

theorem takeIf {token : Token} (h : token ≠ .indent) : Yields (takeIf token) false := by
  intro c hc
  obtain ⟨d, run, hd⟩ := isNext h c hc
  exact ⟨d, by rw [Reader.takeIf, run_bind, run]; rfl, hd⟩

end Yields

namespace Refuses

theorem get_bind {f : Cursor → Reader β} (h : ∀ c, Refuses (f c)) : Refuses (get >>= f) :=
  fun c hc => h c c hc

theorem identifier : Refuses identifier := Yields.next.bind .stuck

variable (fuel : Nat)

theorem atom : Refuses (atom false fuel) := by
  cases fuel with
  | zero => exact .stuck
  | succ fuel =>
    rw [Reader.atom]
    exact Yields.next.bind .stuck

theorem primary : Refuses (primary false fuel) := by
  cases fuel with
  | zero => exact .stuck
  | succ fuel =>
    rw [Reader.primary]
    exact Yields.line_bind fun _ => (atom fuel).bind _

theorem factor : Refuses (factor false fuel) := by
  cases fuel with
  | zero => exact .stuck
  | succ fuel =>
    rw [Reader.factor]
    refine (Yields.takeIf (by simp)).bind ?_
    refine (Yields.takeIf (by simp)).bind ?_
    exact (Yields.isNext (by simp)).bind (primary fuel)

theorem product : Refuses (product false fuel) := by
  cases fuel with
  | zero => exact .stuck
  | succ fuel =>
    rw [Reader.product]
    exact (factor fuel).bind _

theorem sum : Refuses (sum false fuel) := by
  cases fuel with
  | zero => exact .stuck
  | succ fuel =>
    rw [Reader.sum]
    exact (product fuel).bind _

theorem inversion : Refuses (inversion false fuel) := by
  cases fuel with
  | zero => exact .stuck
  | succ fuel =>
    rw [Reader.inversion]
    exact (Yields.isNext (by simp)).bind (Yields.line_bind fun _ => (sum fuel).bind _)

theorem conjunction : Refuses (conjunction false fuel) := by
  cases fuel with
  | zero => exact .stuck
  | succ fuel =>
    rw [Reader.conjunction]
    exact (inversion fuel).bind _

theorem disjunction : Refuses (disjunction false fuel) := by
  cases fuel with
  | zero => exact .stuck
  | succ fuel =>
    rw [Reader.disjunction]
    exact (conjunction fuel).bind _

theorem expression : Refuses (expression false fuel) := by
  cases fuel with
  | zero => exact .stuck
  | succ fuel =>
    rw [Reader.expression]
    exact .get_bind fun _ => (disjunction fuel).bind _

theorem expressions : Refuses (expressions false fuel) := by
  cases fuel with
  | zero => exact .stuck
  | succ fuel =>
    rw [Reader.expressions]
    exact (expression fuel).bind _

theorem expressionStatement : Refuses (expressionStatement false fuel) := by
  have assignment : Refuses (assignment false fuel) := (identifier.bind _).bind _
  have augmentation : Refuses (augmentation false fuel) := identifier.bind _
  refine (Yields.attempt assignment).bind ?_
  exact (Yields.attempt augmentation).bind ((expressions fuel).bind _)

theorem statementLine : Refuses (statementLine false fuel) := by
  have simple : Refuses (simpleStatement false fuel) :=
    Yields.line_bind fun _ => Yields.next.bind (expressionStatement fuel)
  exact simple.bind _

theorem statement : Refuses (statement false fuel) := by
  cases fuel with
  | zero => exact .stuck
  | succ fuel =>
    rw [Reader.statement]
    refine (Yields.isNext (by simp)).bind ?_
    exact (Yields.isNext (by simp)).bind (statementLine fuel)

theorem statements : Refuses (statements false fuel) := by
  cases fuel with
  | zero => exact .stuck
  | succ fuel =>
    rw [Reader.statements]
    exact (statement fuel).bind _

theorem script : Refuses (script false fuel) :=
  (Yields.isNext (by simp)).bind ((statements fuel).bind _)

end Refuses

end Reader

open Lexing

/-- The lexemes of tokens, without lines. -/
def lexemesOf (tokens : List Token) : List Lexeme := tokens.map fun token => ⟨token, 0, 0⟩

/-- Tokens that make up a program without a fault. -/
def Sound (tokens : List Token) : Prop :=
  ∃ program cursor, (Reader.script false (30 * (tokens.length + 1))).run
    (.ofLexemes (lexemesOf tokens)) = (.ok program, cursor) ∧ faultIn? 0 program = none

/-- A script that compiles. -/
def Compiles (source : Text) : Prop := ∃ program, Program.ofText source = .ok program

instance (source : Text) : Decidable (Compiles source) :=
  match h : Program.ofText source with
  | .ok program => isTrue ⟨program, h⟩
  | .error _ => isFalse fun ⟨program, compiled⟩ => by cases h.symm.trans compiled

theorem tokens_lexemesOf (tokens : List Token) : (Cursor.ofLexemes (lexemesOf tokens)).tokens = tokens := by
  simp [Cursor.tokens, Cursor.ofLexemes, lexemesOf, Function.comp_def]

theorem head?_ne_indent_of_sound {tokens : List Token} (h : Sound tokens) :
    tokens.head? ≠ some .indent := by
  intro indent
  obtain ⟨program, cursor, run, -⟩ := h
  have start : Reader.AtIndent (.ofLexemes (lexemesOf tokens)) := by
    rwa [Reader.AtIndent, tokens_lexemesOf]
  obtain ⟨d, refused⟩ := Reader.Refuses.script (30 * (tokens.length + 1)) _ start
  cases run.symm.trans refused

/-- Before the same tokens a program is read that differs in lines only, and the token for the end is among
them. -/
theorem exists_script_of_tokens {fuel : Nat} {first second start : Cursor} {program : Program}
    (same : first.tokens = second.tokens)
    (run : (Reader.script false fuel).run first = (.ok program, start)) :
    .stop ∈ first.tokens ∧ ∃ other cursor,
      (Reader.script false fuel).run second = (.ok other, cursor) ∧
        unlinedBlock other = unlinedBlock program := by
  have agree := Reader.script_alike first.tokens fuel first second ⟨same, List.suffix_rfl⟩
  rw [run] at agree
  generalize hs : (Reader.script false fuel).run second = outcome at agree
  cases agree with
  | ok related _ => exact ⟨related.2, _, _, rfl, (unlinedBlock_congr related.1).symm⟩

/-- Programs that differ in lines only are both sound, or neither is. -/
theorem sound_of_unlined {first second : Program} (like : unlinedBlock second = unlinedBlock first)
    (sound : faultIn? 0 first = none) : faultIn? 0 second = none := by
  have faults := isSome_faultIn?_unlined second 0
  rw [like, isSome_faultIn?_unlined, sound] at faults
  simpa using faults.symm

theorem ofTokens_eq_ok_iff {lexing : Lexing} {program : Program} :
    Program.ofTokens lexing = .ok program ↔ ∃ cursor,
      (Reader.script false (30 * (lexing.lexemes.length + 1))).run (.ofLexemes lexing.lexemes) =
        (.ok program, cursor) := by
  unfold Program.ofTokens
  dsimp only
  split
  · next found cursor run =>
    rw [run]
    constructor
    · intro h
      cases h
      exact ⟨cursor, rfl⟩
    · rintro ⟨cursor, h⟩
      cases h
      rfl
  · next cursor run =>
    rw [run]
    constructor
    · intro h
      split at h <;> cases h
    · rintro ⟨cursor, h⟩
      cases h
  · next failure cursor _ run =>
    rw [run]
    constructor
    · intro h
      cases h
    · rintro ⟨cursor, h⟩
      cases h

theorem ofText_eq_ok_iff {source : Text} {program : Program} :
    Program.ofText source = .ok program ↔
      Program.parse source = .ok program ∧ faultIn? 0 program = none := by
  unfold Program.ofText
  cases Program.parse source with
  | error e => simp [bind, Except.bind]
  | ok found =>
    simp only [bind, Except.bind, Except.ok.injEq]
    cases fault : faultIn? 0 found with
    | some e =>
      simp only [reduceCtorEq, false_iff, not_and]
      rintro rfl
      simp [fault]
    | none =>
      simp only [Except.ok.injEq, iff_self_and]
      rintro rfl
      exact fault

namespace Lexing

/-- Where the reading of a script starts. -/
def start : Position := { line := 1, levels := [⟨0, 0⟩], brackets := [], lead := noLead }

/-- A script whose last line is ended. -/
def ended (text : Text) : Text := if text.getLast? = some '\n' then text else text ++ ['\n']

end Lexing

/-- A script with unified line ends whose last line is ended. -/
def unified (source : Text) : Text := ended (unifyLines source)

/-- A script is read as its lexing comes to the end. -/
theorem reads_unified_iff {source : Text} {tokens : List Token} :
    Reads true start (unified source) tokens ↔
      (Lexing.ofText (unifyLines source)).finish = .complete ∧
        (Lexing.ofText (unifyLines source)).tokens = tokens := by
  have enough : 2 * (unified source).length + true.toNat < 2 * (unified source).length + 2 := by simp
  exact reads_iff enough tokens

theorem tokens_ofLexemes (lexing : Lexing) : (Cursor.ofLexemes lexing.lexemes).tokens = lexing.tokens :=
  rfl

theorem length_tokens (lexing : Lexing) : lexing.tokens.length = lexing.lexemes.length := by
  simp [Lexing.tokens]

/-- A script compiles exactly when its tokens can be read and make up a sound program. -/
theorem compiles_iff (source : Text) :
    Compiles source ↔ ∃ tokens, Reads true start (unified source) tokens ∧ Sound tokens := by
  let lexing := Lexing.ofText (unifyLines source)
  have cursors := tokens_ofLexemes lexing
  have length := length_tokens lexing
  constructor
  · rintro ⟨program, compiled⟩
    obtain ⟨read, sound⟩ := ofText_eq_ok_iff.mp compiled
    obtain ⟨cursor, run⟩ := ofTokens_eq_ok_iff.mp read
    obtain ⟨stop, other, cursor, run', like⟩ :=
      exists_script_of_tokens (cursors.trans (tokens_lexemesOf _).symm) run
    refine ⟨lexing.tokens, ?_, other, cursor, by rwa [length], sound_of_unlined like sound⟩
    exact reads_unified_iff.mpr ⟨finish_of_stop_mem stop, rfl⟩
  · rintro ⟨tokens, reads, program, cursor, run, sound⟩
    obtain ⟨-, rfl⟩ := reads_unified_iff.mp reads
    rw [length] at run
    obtain ⟨-, other, cursor, run', like⟩ :=
      exists_script_of_tokens ((tokens_lexemesOf _).trans cursors.symm) run
    refine ⟨other, ofText_eq_ok_iff.mpr ⟨?_, sound_of_unlined like sound⟩⟩
    exact ofTokens_eq_ok_iff.mpr ⟨cursor, run'⟩

/-- Scripts of the same tokens make up programs that differ in lines only. -/
theorem ofText_of_tokens {first second : Text} {tokens : List Token} {program : Program}
    (reads : Reads true start (unified first) tokens) (again : Reads true start (unified second) tokens)
    (compiled : Program.ofText first = .ok program) :
    ∃ other, Program.ofText second = .ok other ∧ unlinedBlock other = unlinedBlock program := by
  obtain ⟨read, sound⟩ := ofText_eq_ok_iff.mp compiled
  obtain ⟨cursor, run⟩ := ofTokens_eq_ok_iff.mp read
  obtain ⟨-, rfl⟩ := reads_unified_iff.mp reads
  obtain ⟨-, same⟩ := reads_unified_iff.mp again
  have length := congrArg List.length same
  rw [length_tokens, length_tokens] at length
  have cursors := (tokens_ofLexemes _).trans (same.symm.trans (tokens_ofLexemes _).symm)
  rw [← length] at run
  obtain ⟨-, other, cursor, run', like⟩ := exists_script_of_tokens cursors run
  refine ⟨other, ofText_eq_ok_iff.mpr ⟨?_, sound_of_unlined like sound⟩, like⟩
  exact ofTokens_eq_ok_iff.mpr ⟨cursor, run'⟩

end DocExamples.Script
