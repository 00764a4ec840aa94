import DocExamples.Proofs.Script.Reading
import DocExamples.Proofs.Script.Unlined

namespace DocExamples.Script

/-- Expressions that differ in lines only. -/
def Expr.Like (a b : Expr) : Prop := a.unlined = b.unlined

/-- Arguments of the same names, with values that differ in lines only. -/
def LikeNamed (a b : Keyword × Expr) : Prop := a.1.name = b.1.name ∧ a.2.Like b.2

def LikeEntry (a b : Expr × Expr) : Prop := a.1.Like b.1 ∧ a.2.Like b.2

def LikeFurther {α : Type} (a b : α × Expr) : Prop := a.1 = b.1 ∧ a.2.Like b.2

open List (Forall₂)

theorem unlinedItems_congr {as bs : List Expr} (h : Forall₂ Expr.Like as bs) :
    unlinedItems as = unlinedItems bs := by
  induction h with
  | nil => rfl
  | cons first _ ih => rw [unlinedItems, unlinedItems, first, ih]

theorem unlinedEntries_congr {as bs : List (Expr × Expr)} (h : Forall₂ LikeEntry as bs) :
    unlinedEntries as = unlinedEntries bs := by
  induction h with
  | nil => rfl
  | cons first _ ih => rw [unlinedEntries, unlinedEntries, first.1, first.2, ih]

theorem unlinedOthers_congr {as bs : List (Comparison × Expr)} (h : Forall₂ LikeFurther as bs) :
    unlinedOthers as = unlinedOthers bs := by
  induction h with
  | nil => rfl
  | cons first _ ih => rw [unlinedOthers, unlinedOthers, first.1, first.2, ih]

theorem unlinedNamed_congr {as bs : List (Keyword × Expr)} (h : Forall₂ LikeNamed as bs) :
    unlinedNamed as = unlinedNamed bs := by
  induction h with
  | nil => rfl
  | cons first _ ih => rw [unlinedNamed, unlinedNamed, first.1, first.2, ih]

namespace Expr.Like

theorem refl (a : Expr) : a.Like a := rfl

theorem tuple {as bs : List Expr} (h : Forall₂ Like as bs) : Like (.tuple as) (.tuple bs) := by
  rw [Like, unlined, unlined, unlinedItems_congr h]

theorem list {as bs : List Expr} (h : Forall₂ Like as bs) : Like (.list as) (.list bs) := by
  rw [Like, unlined, unlined, unlinedItems_congr h]

theorem dict {as bs : List (Expr × Expr)} (h : Forall₂ LikeEntry as bs) :
    Like (.dict as) (.dict bs) := by
  rw [Like, unlined, unlined, unlinedEntries_congr h]

variable {a b c a' b' c' : Expr}

theorem negate (h : Like a a') : Like (.negate a) (.negate a') := congrArg Expr.negate h

theorem keep (h : Like a a') : Like (.keep a) (.keep a') := congrArg Expr.keep h

theorem invert (h : Like a a') : Like (.invert a) (.invert a') := congrArg Expr.invert h

theorem wait (h : Like a a') : Like (.wait a) (.wait a') := congrArg Expr.wait h

theorem member (h : Like a a') (name : Text) : Like (.member a name) (.member a' name) :=
  congrArg (Expr.member · name) h

theorem binary {x y : Operator × Expr} (ha : Like a a') (h : LikeFurther x y) :
    Like (.binary x.1 a x.2) (.binary y.1 a' y.2) := by
  rw [Like, unlined, unlined, ha, h.1, h.2]

theorem both (ha : Like a a') (hb : Like b b') : Like (.both a b) (.both a' b') :=
  congrArg₂ Expr.both ha hb

theorem either (ha : Like a a') (hb : Like b b') : Like (.either a b) (.either a' b') :=
  congrArg₂ Expr.either ha hb

theorem subscript (ha : Like a a') (hb : Like b b') {line line' : Nat} :
    Like (.subscript a b line) (.subscript a' b' line') :=
  congrArg₂ (Expr.subscript · · 0) ha hb

theorem choice (ha : Like a a') (hb : Like b b') (hc : Like c c') :
    Like (.choice a b c) (.choice a' b' c') := by
  rw [Like, unlined, unlined, ha, hb, hc]

theorem compare {as bs : List (Comparison × Expr)} (ha : Like a a') (h : Forall₂ LikeFurther as bs)
    {line line' : Nat} : Like (.compare a as line) (.compare a' bs line') := by
  rw [Like, unlined, unlined, ha, unlinedOthers_congr h]

theorem call {as bs : List Expr} {named named' : List (Keyword × Expr)} (ha : Like a a')
    (h : Forall₂ Like as bs) (hn : Forall₂ LikeNamed named named') {line line' : Nat} :
    Like (.call a as named line) (.call a' bs named' line') := by
  rw [Like, unlined, unlined, ha, unlinedItems_congr h, unlinedNamed_congr hn]

/-- Operands put together from the left, one after another. -/
theorem foldl {α : Type} {R : α → α → Prop} {f g : Expr → α → Expr} {as bs : List α}
    (hf : ∀ a b x y, Like a b → R x y → Like (f a x) (g b y)) (h : Forall₂ R as bs)
    (ha : Like a b) : Like (as.foldl f a) (bs.foldl g b) := by
  induction h generalizing a b with
  | nil => exact ha
  | cons first _ ih => exact ih (hf _ _ _ _ ha first)

end Expr.Like

namespace Reader

variable {all : List Token} {fuel : Nat}

open Script.Expr (Like)

namespace Alike

theorem identifier : Alike all Eq identifier identifier := by
  refine next.bind_eq fun token => ?_
  split
  · exact .ite .stuck (skip.before fun _ _ => .pure rfl)
  · exact .stuck

theorem strings (fuel : Nat) : Alike all Eq (strings fuel) (strings fuel) := by
  have part : Alike all Eq strings.string strings.string := by
    refine next.bind_eq fun token => ?_
    split
    · exact skip.before fun _ _ => .pure rfl
    · exact skip.before fun _ _ => .pure rfl
    · exact .stuck
  refine (part.many_eq fuel).bind_eq fun parts => ?_
  split
  · exact foundAtFar
  · exact .ite .stuck (.pure rfl)

theorem comparison : Alike all Eq comparison comparison := by
  have taken (kind : Comparison) :
      Alike all Eq (do return ← Reader.comparison.taken kind) (do return ← Reader.comparison.taken kind) :=
    bind_eq (skip.before fun _ _ => .pure rfl) fun _ => .pure rfl
  refine next.bind_eq fun token => ?_
  split
  · exact taken _
  · exact taken _
  · exact taken _
  · exact taken _
  · exact taken _
  · exact taken _
  · refine .ite (taken _) (.ite ?_ (.ite ?_ .stuck))
    · exact skip.before fun _ _ => (takeWord "in").before fun _ _ => .pure rfl
    · exact skip.before fun _ _ => (takeIf _).bind_eq fun _ => .ite (.pure rfl) (.pure rfl)
  · exact .stuck

theorem operator (known : List (String × Operator)) : Alike all Eq (operator known) (operator known) := by
  refine next.bind_eq fun token => ?_
  split
  · split
    · exact skip.before fun _ _ => .pure rfl
    · exact .stuck
  · exact .stuck

end Alike

/-- With some fuel, the readers of expressions look at tokens only. -/
structure ReadsAlike (all : List Token) (fuel : Nat) : Prop where
  expressions : Alike all Like (expressions false fuel) (expressions false fuel)
  expression : Alike all Like (expression false fuel) (expression false fuel)
  nameable : Alike all Like (nameable false fuel) (nameable false fuel)
  disjunction : Alike all Like (disjunction false fuel) (disjunction false fuel)
  conjunction : Alike all Like (conjunction false fuel) (conjunction false fuel)
  inversion : Alike all Like (inversion false fuel) (inversion false fuel)
  sum : Alike all Like (sum false fuel) (sum false fuel)
  product : Alike all Like (product false fuel) (product false fuel)
  factor : Alike all Like (factor false fuel) (factor false fuel)
  primary : Alike all Like (primary false fuel) (primary false fuel)
  trailers {a b : Expr} (target : a.Like b) (line line' : Nat) :
    Alike all Like (trailers false a line fuel) (trailers false b line' fuel)
  trailer {a b : Expr} (target : a.Like b) (line line' : Nat) :
    Alike all Like (trailer false a line fuel) (trailer false b line' fuel)
  atom : Alike all Like (atom false fuel) (atom false fuel)
  items : Alike all (Forall₂ Like) (items false fuel) (items false fuel)
  entries : Alike all (Forall₂ LikeEntry) (entries false fuel) (entries false fuel)
  entry : Alike all LikeEntry (entry false fuel) (entry false fuel)
  arguments : Alike all (fun a b => Forall₂ Like a.1 b.1 ∧ Forall₂ LikeNamed a.2 b.2)
    (arguments false fuel) (arguments false fuel)
  argumentList : Alike all (fun a b => Forall₂ Like a.1 b.1 ∧ Forall₂ LikeNamed a.2 b.2)
    (argumentList false fuel) (argumentList false fuel)
  positional : Alike all Like (positional false fuel) (positional false fuel)
  named : Alike all LikeNamed (named false fuel) (named false fuel)

namespace ReadsAlike

/-- One more part after a sign, again and again. -/
theorem many_after {α : Type} {R : α → α → Prop} {sign : Reader Unit} {r : Reader α}
    (hs : Alike all Eq sign sign) (hr : Alike all R r r) (fuel : Nat) :
    Alike all (Forall₂ R) (many (do sign; r) fuel) (many (do sign; r) fuel) :=
  Alike.many (hs.before fun _ _ => hr) fuel

/-- Something and an operand after it, again and again. -/
theorem many_further {α : Type} {sign : Reader α} {r : Reader Expr} (hs : Alike all Eq sign sign)
    (hr : Alike all Like r r) (fuel : Nat) :
    Alike all (Forall₂ LikeFurther) (many (do return (← sign, ← r)) fuel)
      (many (do return (← sign, ← r)) fuel) :=
  Alike.many (hs.bind_eq fun _ => hr.bind fun _ _ same => .pure ⟨rfl, same⟩) fuel

variable (ih : ReadsAlike all fuel)
include ih

theorem expressions_succ :
    Alike all Like (Reader.expressions false (fuel + 1)) (Reader.expressions false (fuel + 1)) := by
  rw [Reader.expressions]
  refine ih.expression.bind fun a b first => (Alike.isOp ",").bind_eq fun _ => .ite ?_ (.pure first)
  refine (many_after (.takeOp ",") ih.expression fuel).bind fun as bs others => ?_
  exact (Alike.takeIfOp ",").before fun _ _ => .pure (.tuple (.cons first others))

theorem expression_succ :
    Alike all Like (Reader.expression false (fuel + 1)) (Reader.expression false (fuel + 1)) := by
  rw [Reader.expression]
  simp only [Bool.false_eq_true, if_false]
  refine Alike.get.before fun _ _ => ih.disjunction.bind fun a b value => ?_
  refine (Alike.isWord "if").bind_eq fun _ => .ite ?_ (.pure value)
  refine Alike.bind (Alike.attempt (R := Like) ?_) fun c d choice => ?_
  · refine Alike.skip.before fun _ _ => ih.disjunction.bind fun _ _ condition => ?_
    exact (Alike.takeWord "else").before fun _ _ => ih.expression.bind fun _ _ otherwise =>
      .pure (.choice condition value otherwise)
  · cases choice with
    | none => exact .pure value
    | some choice => exact .pure choice

theorem nameable_succ :
    Alike all Like (Reader.nameable false (fuel + 1)) (Reader.nameable false (fuel + 1)) := by
  rw [Reader.nameable]
  simp only [Bool.false_eq_true, if_false]
  exact Alike.get.before fun _ _ => ih.expression.bind fun _ _ value => .pure value

theorem disjunction_succ :
    Alike all Like (Reader.disjunction false (fuel + 1)) (Reader.disjunction false (fuel + 1)) := by
  rw [Reader.disjunction]
  refine ih.conjunction.bind fun a b first => ?_
  refine (many_after (.takeWord "or") ih.conjunction fuel).bind fun as bs others => ?_
  exact .pure (.foldl (fun _ _ _ _ => .either) others first)

theorem conjunction_succ :
    Alike all Like (Reader.conjunction false (fuel + 1)) (Reader.conjunction false (fuel + 1)) := by
  rw [Reader.conjunction]
  refine ih.inversion.bind fun a b first => ?_
  refine (many_after (.takeWord "and") ih.inversion fuel).bind fun as bs others => ?_
  exact .pure (.foldl (fun _ _ _ _ => .both) others first)

theorem inversion_succ :
    Alike all Like (Reader.inversion false (fuel + 1)) (Reader.inversion false (fuel + 1)) := by
  rw [Reader.inversion]
  refine (Alike.isWord "not").bind_eq fun _ => .ite ?_ ?_
  · exact Alike.skip.before fun _ _ => ih.inversion.bind fun _ _ operand => .pure operand.invert
  · refine Alike.line.before fun _ _ => ih.sum.bind fun a b first => ?_
    refine (many_further Alike.comparison ih.sum fuel).bind fun as bs others => ?_
    cases others with
    | nil => exact .pure first
    | cons other others => exact .pure (.compare first (.cons other others))

theorem sum_succ : Alike all Like (Reader.sum false (fuel + 1)) (Reader.sum false (fuel + 1)) := by
  rw [Reader.sum]
  refine ih.product.bind fun a b first => ?_
  refine (many_further (Alike.operator _) ih.product fuel).bind fun as bs others => ?_
  exact .pure (.foldl (fun _ _ _ _ => .binary) others first)

theorem product_succ :
    Alike all Like (Reader.product false (fuel + 1)) (Reader.product false (fuel + 1)) := by
  rw [Reader.product]
  refine ih.factor.bind fun a b first => ?_
  refine (many_further (Alike.operator _) ih.factor fuel).bind fun as bs others => ?_
  exact .pure (.foldl (fun _ _ _ _ => .binary) others first)

theorem factor_succ :
    Alike all Like (Reader.factor false (fuel + 1)) (Reader.factor false (fuel + 1)) := by
  rw [Reader.factor]
  refine (Alike.takeIfOp "-").bind_eq fun _ => .ite ?_ ?_
  · exact ih.factor.bind fun _ _ operand => .pure operand.negate
  refine (Alike.takeIfOp "+").bind_eq fun _ => .ite ?_ ?_
  · exact ih.factor.bind fun _ _ operand => .pure operand.keep
  refine (Alike.isWord "await").bind_eq fun _ => .ite ?_ ih.primary
  exact Alike.skip.before fun _ _ => ih.primary.bind fun _ _ operand => .pure operand.wait

theorem primary_succ :
    Alike all Like (Reader.primary false (fuel + 1)) (Reader.primary false (fuel + 1)) := by
  rw [Reader.primary]
  exact Alike.line.before fun _ _ => ih.atom.bind fun _ _ target => ih.trailers target _ _

theorem trailers_succ {a b : Expr} (target : a.Like b) (line line' : Nat) :
    Alike all Like (Reader.trailers false a line (fuel + 1))
      (Reader.trailers false b line' (fuel + 1)) := by
  rw [Reader.trailers, Reader.trailers]
  refine (ih.trailer target line line').attempt.bind fun c d value => ?_
  cases value with
  | none => exact .pure target
  | some value => exact ih.trailers value line line'

theorem trailer_succ {a b : Expr} (target : a.Like b) (line line' : Nat) :
    Alike all Like (Reader.trailer false a line (fuel + 1))
      (Reader.trailer false b line' (fuel + 1)) := by
  rw [Reader.trailer, Reader.trailer]
  refine (Alike.takeIfOp ".").bind_eq fun _ => .ite ?_ ?_
  · exact Alike.identifier.bind_eq fun name => .pure (target.member name)
  refine (Alike.takeIfOp "(").bind_eq fun _ => .ite ?_ ?_
  · exact ih.arguments.bind fun _ _ arguments => (Alike.takeOp ")").before fun _ _ =>
      .pure (.call target arguments.1 arguments.2)
  refine (Alike.takeIfOp "[").bind_eq fun _ => .ite ?_ .stuck
  exact ih.expressions.bind fun _ _ index => (Alike.takeOp "]").before fun _ _ =>
    .pure (.subscript target index)

theorem atom_succ : Alike all Like (Reader.atom false (fuel + 1)) (Reader.atom false (fuel + 1)) := by
  rw [Reader.atom]
  simp only [Bool.false_eq_true, if_false]
  refine Alike.next.bind_eq fun token => ?_
  split
  · exact Alike.skip.before fun _ _ => .pure (.refl _)
  · exact (Alike.strings fuel).bind_eq fun _ => .pure (.refl _)
  · exact (Alike.strings fuel).bind_eq fun _ => .pure (.refl _)
  · refine .ite (Alike.skip.before fun _ _ => .pure (.refl _)) ?_
    refine .ite (Alike.skip.before fun _ _ => .pure (.refl _)) ?_
    refine .ite (Alike.skip.before fun _ _ => .pure (.refl _)) ?_
    exact Alike.identifier.bind_eq fun _ => .pure (.refl _)
  · refine Alike.skip.before fun _ _ => (Alike.takeIfOp ")").bind_eq fun _ => ?_
    refine .ite (.pure (.refl _)) (ih.nameable.bind fun _ _ first => ?_)
    refine (Alike.isOp ",").bind_eq fun _ => .ite ?_ ?_
    · exact ih.items.bind fun _ _ others => (Alike.takeOp ")").before fun _ _ =>
        .pure (.tuple (.cons first others))
    · exact (Alike.takeOp ")").before fun _ _ => .pure first
  · refine Alike.skip.before fun _ _ => (Alike.takeIfOp "]").bind_eq fun _ => ?_
    refine .ite (.pure (.refl _)) (ih.nameable.bind fun _ _ first => ?_)
    exact ih.items.bind fun _ _ others => (Alike.takeOp "]").before fun _ _ =>
      .pure (.list (.cons first others))
  · refine Alike.skip.before fun _ _ => (Alike.takeIf _).bind_eq fun _ => ?_
    refine .ite (.pure (.refl _)) (ih.entries.attempt.bind fun _ _ found => ?_)
    cases found with
    | none => exact .stuck
    | some entries => exact .pure (.dict entries)
  · exact .stuck

theorem items_succ :
    Alike all (Forall₂ Like) (Reader.items false (fuel + 1)) (Reader.items false (fuel + 1)) := by
  rw [Reader.items]
  refine (many_after (.takeOp ",") ih.nameable fuel).bind fun _ _ items => ?_
  exact (Alike.takeIfOp ",").before fun _ _ => .pure items

theorem entries_succ :
    Alike all (Forall₂ LikeEntry) (Reader.entries false (fuel + 1)) (Reader.entries false (fuel + 1)) := by
  rw [Reader.entries]
  refine ih.entry.bind fun _ _ first => ?_
  refine (many_after (.takeOp ",") ih.entry fuel).bind fun _ _ others => ?_
  exact (Alike.takeIfOp ",").before fun _ _ => (Alike.take _).before fun _ _ =>
    .pure (.cons first others)

theorem entry_succ :
    Alike all LikeEntry (Reader.entry false (fuel + 1)) (Reader.entry false (fuel + 1)) := by
  rw [Reader.entry]
  exact ih.expression.bind fun _ _ key => (Alike.takeOp ":").before fun _ _ =>
    ih.expression.bind fun _ _ value => .pure ⟨key, value⟩

theorem arguments_succ :
    Alike all (fun a b => Forall₂ Like a.1 b.1 ∧ Forall₂ LikeNamed a.2 b.2)
      (Reader.arguments false (fuel + 1)) (Reader.arguments false (fuel + 1)) := by
  rw [Reader.arguments]
  simp only [Bool.false_eq_true, if_false]
  refine (Alike.isOp ")").bind_eq fun _ => .ite (.pure ⟨.nil, .nil⟩) ?_
  refine ih.argumentList.bind fun _ _ read => Alike.get.before fun _ _ => ?_
  exact (Alike.takeIfOp ",").before fun _ _ => (Alike.isOp ")").bind_eq fun _ =>
    .ite (.pure read) .stuck

theorem argumentList_succ :
    Alike all (fun a b => Forall₂ Like a.1 b.1 ∧ Forall₂ LikeNamed a.2 b.2)
      (Reader.argumentList false (fuel + 1)) (Reader.argumentList false (fuel + 1)) := by
  rw [Reader.argumentList]
  refine ih.positional.attempt.bind fun _ _ found => ?_
  have further := many_after (.takeOp ",") ih.named fuel
  cases found with
  | none =>
    exact ih.named.bind fun _ _ first => further.bind fun _ _ others =>
      .pure ⟨.nil, .cons first others⟩
  | some first =>
    refine (many_after (.takeOp ",") ih.positional fuel).bind fun _ _ others => ?_
    exact further.bind fun _ _ named => .pure ⟨.cons first others, named⟩

theorem positional_succ :
    Alike all Like (Reader.positional false (fuel + 1)) (Reader.positional false (fuel + 1)) := by
  rw [Reader.positional]
  exact ih.expression.bind fun _ _ value => (Alike.isOp "=").bind_eq fun _ =>
    .ite .stuck_bind (.pure value)

theorem named_succ :
    Alike all LikeNamed (Reader.named false (fuel + 1)) (Reader.named false (fuel + 1)) := by
  rw [Reader.named]
  simp only [Bool.false_eq_true, if_false, Bool.false_and]
  refine Alike.get.before fun _ _ => Alike.next.bind_eq fun token => ?_
  have value : Alike all LikeNamed
      (do let line ← line
          let name ← identifier
          skip
          return (⟨name, line⟩, ← Reader.expression false fuel))
      (do let line ← line
          let name ← identifier
          skip
          return (⟨name, line⟩, ← Reader.expression false fuel)) :=
    Alike.line.before fun _ _ => Alike.identifier.bind_eq fun _ => Alike.skip.before fun _ _ =>
      ih.expression.bind fun _ _ value => .pure ⟨rfl, value⟩
  split
  · exact Alike.second.bind_eq fun _ => .ite (.ite .stuck_bind value) .stuck
  · exact .stuck

end ReadsAlike

theorem readsAlike (all : List Token) (fuel : Nat) : ReadsAlike all fuel := by
  induction fuel with
  | zero =>
    refine ⟨?_, ?_, ?_, ?_, ?_, ?_, ?_, ?_, ?_, ?_, fun _ _ _ => ?_, fun _ _ _ => ?_, ?_, ?_, ?_, ?_,
      ?_, ?_, ?_, ?_⟩ <;> exact .stuck
  | succ fuel ih =>
    exact
      { expressions := ih.expressions_succ
        expression := ih.expression_succ
        nameable := ih.nameable_succ
        disjunction := ih.disjunction_succ
        conjunction := ih.conjunction_succ
        inversion := ih.inversion_succ
        sum := ih.sum_succ
        product := ih.product_succ
        factor := ih.factor_succ
        primary := ih.primary_succ
        trailers := ih.trailers_succ
        trailer := ih.trailer_succ
        atom := ih.atom_succ
        items := ih.items_succ
        entries := ih.entries_succ
        entry := ih.entry_succ
        arguments := ih.arguments_succ
        argumentList := ih.argumentList_succ
        positional := ih.positional_succ
        named := ih.named_succ }

end Reader

end DocExamples.Script
