import DocExamples.Proofs.Effects
import DocExamples.Script.Reader
import Mathlib.Data.List.Forall2

namespace DocExamples.Script

open Effects

def Cursor.tokens (cursor : Cursor) : List Token := cursor.rest.map (·.token)

/-- Cursors before the same tokens, with which a list of tokens ends. -/
structure Cursor.Matches (all : List Token) (first second : Cursor) : Prop where
  same : first.tokens = second.tokens
  suffix : first.tokens <:+ all

namespace Reader

variable {all : List Token} {α β : Type} {R : α → α → Prop} {S : β → β → Prop}

/-- Outcomes of readers that came to the same: related values before the same tokens, or a failure on
both sides. -/
inductive Agree (all : List Token) (R : α → α → Prop) :
    Except Failure α × Cursor → Except Failure α × Cursor → Prop
  | ok {a b : α} {c d : Cursor} (related : R a b) (cursors : c.Matches all d) :
    Agree all R (.ok a, c) (.ok b, d)
  | stuck {c d : Cursor} (cursors : c.Matches all d) :
    Agree all R (.error .stuck, c) (.error .stuck, d)
  | failed {e f : Failure} {c d : Cursor} (he : e ≠ .stuck) (hf : f ≠ .stuck) :
    Agree all R (.error e, c) (.error f, d)

/-- Readers that come to the same wherever the tokens are the same. -/
def Alike (all : List Token) (R : α → α → Prop) (first second : Reader α) : Prop :=
  ∀ c d, c.Matches all d → Agree all R (first.run c) (second.run d)

namespace Alike

theorem pure {a b : α} (h : R a b) : Alike all R (pure a) (pure b) := fun _ _ cursors =>
  .ok h cursors

theorem stuck : Alike all R stuck stuck := fun _ _ cursors => .stuck cursors

theorem foundAtFar {fault fault' : Fault} :
    Alike all R (foundAtFar fault) (foundAtFar fault') := fun _ _ _ => .failed (by simp) (by simp)

theorem mono {R' : α → α → Prop} {r s : Reader α} (h : Alike all R r s)
    (imp : ∀ a b, R a b → R' a b) : Alike all R' r s := by
  intro c d cursors
  have agree := h c d cursors
  generalize r.run c = first, s.run d = second at agree ⊢
  cases agree with
  | ok related cursors => exact .ok (imp _ _ related) cursors
  | stuck cursors => exact .stuck cursors
  | failed he hf => exact .failed he hf

theorem bind {r s : Reader α} {f g : α → Reader β} (h : Alike all R r s)
    (hf : ∀ a b, R a b → Alike all S (f a) (g b)) : Alike all S (r >>= f) (s >>= g) := by
  intro c d cursors
  have agree := h c d cursors
  rw [run_bind, run_bind]
  generalize r.run c = first, s.run d = second at agree
  cases agree with
  | ok related cursors => exact hf _ _ related _ _ cursors
  | stuck cursors => exact .stuck cursors
  | failed he hf => exact .failed he hf

theorem stuck_bind {f g : α → Reader β} :
    Alike all S (Reader.stuck >>= f) (Reader.stuck >>= g) := fun _ _ cursors => .stuck cursors

theorem found_bind {fault fault' : Fault} {line line' : Nat} {f g : α → Reader β} :
    Alike all S (Reader.found fault line >>= f) (Reader.found fault' line' >>= g) := fun _ _ _ =>
  .failed (by simp) (by simp)

/-- A reader whose result does not matter, before others. -/
theorem before {r s : Reader α} {f g : α → Reader β} (h : Alike all R r s)
    (hf : ∀ a b, Alike all S (f a) (g b)) : Alike all S (r >>= f) (s >>= g) :=
  h.bind fun a b _ => hf a b

/-- A reader of something that is the same on both sides, before others. -/
theorem bind_eq {r s : Reader α} {f g : α → Reader β} (h : Alike all Eq r s)
    (hf : ∀ a, Alike all S (f a) (g a)) : Alike all S (r >>= f) (s >>= g) :=
  h.bind fun a _ same => same ▸ hf a

theorem ite {r r' s s' : Reader α} {test : Prop} [Decidable test] (h : Alike all R r s)
    (h' : Alike all R r' s') : Alike all R (if test then r else r') (if test then s else s') := by
  split
  · exact h
  · exact h'

theorem get : Alike all (Cursor.Matches all) get get := fun _ _ cursors => .ok cursors cursors

theorem peek : Alike all (fun a b => a.token = b.token ∧ a.token ∈ all) peek peek := by
  intro c d cursors
  have same := cursors.same
  simp only [Reader.peek, run_bind, run_get]
  cases hc : c.rest with
  | nil =>
    have hd : d.rest = [] := by simpa [Cursor.tokens, hc] using same.symm
    rw [hd]
    exact .failed (by simp) (by simp)
  | cons lexeme rest =>
    cases hd : d.rest with
    | nil => simp [Cursor.tokens, hc, hd] at same
    | cons lexeme' rest' =>
      have tokens : lexeme.token = lexeme'.token := by
        simp only [Cursor.tokens, hc, hd, List.map_cons, List.cons.injEq] at same
        exact same.1
      have mem : lexeme.token ∈ all := cursors.suffix.subset (by simp [Cursor.tokens, hc])
      refine .ok ⟨tokens, mem⟩ ⟨?_, ?_⟩
      · simpa [Cursor.tokens, hc, hd] using same
      · simpa [Cursor.tokens, hc] using cursors.suffix

theorem second : Alike all Eq second second := by
  intro c d cursors
  have same : c.rest.tail.map (·.token) = d.rest.tail.map (·.token) := by
    simpa [Cursor.tokens] using congrArg List.tail cursors.same
  simp only [Reader.second, run_bind, run_get]
  cases hc : c.rest.tail with
  | nil =>
    have hd : d.rest.tail = [] := List.map_eq_nil_iff.mp (same.symm.trans (by rw [hc]; rfl))
    rw [hd]
    exact .failed (by simp) (by simp)
  | cons lexeme rest =>
    cases hd : d.rest.tail with
    | nil => simp [hc, hd] at same
    | cons lexeme' rest' =>
      simp only [hc, hd, List.map_cons, List.cons.injEq] at same
      exact .ok same.1 ⟨cursors.same, cursors.suffix⟩

theorem skip : Alike all Eq skip skip := by
  intro c d cursors
  refine .ok rfl ⟨?_, ?_⟩
  · simpa [Cursor.tokens] using congrArg List.tail cursors.same
  · refine List.IsSuffix.trans ?_ cursors.suffix
    rw [Cursor.tokens, List.map_tail]
    exact List.tail_suffix _

theorem next_mem : Alike all (fun a b => a = b ∧ a ∈ all) Reader.next Reader.next :=
  peek.bind fun _ _ same => .pure same

theorem next : Alike all Eq next next := next_mem.mono fun _ _ same => same.1

theorem line : Alike all (fun _ _ => True) line line := peek.bind fun _ _ _ => .pure trivial

theorem isNext_mem (token : Token) :
    Alike all (fun a b => a = b ∧ (a = true → token ∈ all)) (Reader.isNext token)
      (Reader.isNext token) :=
  next_mem.bind fun found _ same => .pure ⟨by rw [same.1], fun h => by
    have heq : found = token := by simpa using h
    exact heq ▸ same.2⟩

theorem isNext (token : Token) : Alike all Eq (isNext token) (isNext token) :=
  (isNext_mem token).mono fun _ _ same => same.1

theorem isOp (op : String) : Alike all Eq (isOp op) (isOp op) := isNext _

theorem isWord (word : String) : Alike all Eq (isWord word) (isWord word) := isNext _

theorem take (token : Token) : Alike all Eq (take token) (take token) :=
  (isNext token).bind_eq fun _ => .ite skip stuck

/-- What is taken is one of the tokens. -/
theorem take_mem (token : Token) :
    Alike all (fun _ _ => token ∈ all) (Reader.take token) (Reader.take token) := by
  refine (isNext_mem token).bind fun found _ same => ?_
  obtain ⟨rfl, mem⟩ := same
  cases found with
  | false => exact stuck
  | true => exact skip.mono fun _ _ _ => mem rfl

theorem takeOp (op : String) : Alike all Eq (takeOp op) (takeOp op) := take _

theorem takeWord (word : String) : Alike all Eq (takeWord word) (takeWord word) := take _

theorem takeIf (token : Token) : Alike all Eq (takeIf token) (takeIf token) :=
  (isNext token).bind_eq fun _ => .ite (skip.before fun _ _ => .pure rfl) (.pure rfl)

theorem takeIfOp (op : String) : Alike all Eq (takeIfOp op) (takeIfOp op) := takeIf _

/-- Where no rule applies, an attempt goes back to where it started. -/
theorem attempt {r s : Reader α} (h : Alike all R r s) :
    Alike all (Option.Rel R) (attempt r) (attempt s) := by
  intro c d cursors
  have agree := h c d cursors
  simp only [Reader.attempt, run_bind, run_get, run_tryCatch, run_map]
  generalize r.run c = first, s.run d = second at agree
  cases agree with
  | ok related cursors => exact .ok (.some related) cursors
  | stuck _ => exact .ok .none ⟨cursors.same, cursors.suffix⟩
  | @failed e f _ _ he hf =>
    cases e with
    | stuck => exact absurd rfl he
    | _ =>
      cases f with
      | stuck => exact absurd rfl hf
      | _ => exact .failed he hf

theorem many {r s : Reader α} (h : Alike all R r s) (fuel : Nat) :
    Alike all (List.Forall₂ R) (many r fuel) (many s fuel) := by
  induction fuel with
  | zero => exact .pure .nil
  | succ fuel ih =>
    refine h.attempt.bind fun a b related => ?_
    cases related with
    | none => exact .pure .nil
    | some related => exact ih.bind fun as bs all => .pure (.cons related all)

theorem attempt_eq {r s : Reader α} (h : Alike all Eq r s) :
    Alike all Eq (Reader.attempt r) (Reader.attempt s) :=
  h.attempt.mono fun a b related => by
    cases related with
    | none => rfl
    | some same => rw [same]

theorem many_eq {r s : Reader α} (h : Alike all Eq r s) (fuel : Nat) :
    Alike all Eq (Reader.many r fuel) (Reader.many s fuel) :=
  (h.many fuel).mono fun a b related => by rwa [List.forall₂_eq_eq_eq] at related

end Alike

end Reader

end DocExamples.Script
