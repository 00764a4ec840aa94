import Mathlib.Data.List.Forall2
import Mathlib.Data.Option.Basic

namespace DocExamples.Relations

open List (Forall₂)

variable {α β γ δ : Type} {r : α → β → Prop} {q : γ → δ → Prop}

section Option

variable {a : Option α} {b : Option β}

theorem rel_map (h : Option.Rel r a b) {f : α → γ} {g : β → δ} (hfg : ∀ x y, r x y → q (f x) (g y)) :
    Option.Rel q (a.map f) (b.map g) := by
  cases h with
  | some related => exact .some (hfg _ _ related)
  | none => exact .none

theorem rel_bind (h : Option.Rel r a b) {f : α → Option γ} {g : β → Option δ}
    (hfg : ∀ x y, r x y → Option.Rel q (f x) (g y)) : Option.Rel q (a.bind f) (b.bind g) := by
  cases h with
  | some related => exact hfg _ _ related
  | none => exact .none

theorem rel_imp {r' : α → β → Prop} (h : Option.Rel r a b) (hr : ∀ x y, r x y → r' x y) :
    Option.Rel r' a b := by
  cases h with
  | some related => exact .some (hr _ _ related)
  | none => exact .none

theorem rel_getD (h : Option.Rel r a b) {x : α} {y : β} (hxy : r x y) : r (a.getD x) (b.getD y) := by
  cases h with
  | some related => exact related
  | none => exact hxy

end Option

section Except

variable {ε : Type} {a : Except ε α} {b : Except ε β}

/-- Two results that are the same error, or values that stand in a relation. -/
inductive ResultRel (r : α → β → Prop) : Except ε α → Except ε β → Prop
  | ok {x : α} {y : β} (related : r x y) : ResultRel r (.ok x) (.ok y)
  | error (error : ε) : ResultRel r (.error error) (.error error)

theorem ResultRel.map (h : ResultRel r a b) {f : α → γ} {g : β → δ} (hfg : ∀ x y, r x y → q (f x) (g y)) :
    ResultRel q (a.map f) (b.map g) := by
  cases h with
  | ok related => exact .ok (hfg _ _ related)
  | error error => exact .error error

theorem ResultRel.bind (h : ResultRel r a b) {f : α → Except ε γ} {g : β → Except ε δ}
    (hfg : ∀ x y, r x y → ResultRel q (f x) (g y)) : ResultRel q (a.bind f) (b.bind g) := by
  cases h with
  | ok related => exact hfg _ _ related
  | error error => exact .error error

theorem ResultRel.toOption (h : ResultRel r a b) : Option.Rel r a.toOption b.toOption := by
  cases h with
  | ok related => exact .some related
  | error error => exact .none

end Except

section List

variable {as : List α} {bs : List β}

theorem isEmpty_eq (h : Forall₂ r as bs) : as.isEmpty = bs.isEmpty := by
  cases h <;> rfl

theorem forall₂_map (h : Forall₂ r as bs) {f : α → γ} {g : β → δ} (hfg : ∀ a b, r a b → q (f a) (g b)) :
    Forall₂ q (as.map f) (bs.map g) :=
  List.forall₂_map_left_iff.mpr (List.forall₂_map_right_iff.mpr (h.imp hfg))

theorem forall₂_mapIdx (h : Forall₂ r as bs) {f : Nat → α → γ} {g : Nat → β → δ}
    (hfg : ∀ index a b, r a b → q (f index a) (g index b)) : Forall₂ q (as.mapIdx f) (bs.mapIdx g) := by
  induction h generalizing f g with
  | nil => exact .nil
  | cons related _ ih =>
    rw [List.mapIdx_cons, List.mapIdx_cons]
    exact .cons (hfg 0 _ _ related) (ih fun index => hfg (index + 1))

theorem forall₂_filter (h : Forall₂ r as bs) {f : α → Bool} {g : β → Bool}
    (hfg : ∀ a b, r a b → f a = g b) : Forall₂ r (as.filter f) (bs.filter g) := by
  induction h with
  | nil => exact .nil
  | cons related _ ih =>
    rw [List.filter_cons, List.filter_cons, hfg _ _ related]
    split
    · exact .cons related ih
    · exact ih

end List

end DocExamples.Relations
