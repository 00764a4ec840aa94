import DocExamples.Proofs.Script.Expressions

namespace DocExamples.Script

open List (Forall₂)

/-- Statements that differ in lines only. -/
def Stmt.Like (a b : Stmt) : Prop := a.unlined = b.unlined

theorem unlinedBlock_congr {as bs : List Stmt} (h : Forall₂ Stmt.Like as bs) :
    unlinedBlock as = unlinedBlock bs := by
  induction h with
  | nil => rfl
  | cons first _ ih => rw [unlinedBlock, unlinedBlock, first, ih]

theorem map_unlined_congr {e f : Option Expr} (h : Option.Rel Expr.Like e f) :
    e.map Expr.unlined = f.map Expr.unlined := by
  cases h with
  | none => rfl
  | some h => exact congrArg some h

namespace Stmt.Like

theorem refl (a : Stmt) : a.Like a := rfl

variable {a b c d : Expr} {e f : Option Expr}

theorem expr (h : a.Like b) : Stmt.Like (.expr a) (.expr b) := congrArg Stmt.expr h

theorem assign (targets : List Text) (h : a.Like b) :
    Stmt.Like (.assign targets a) (.assign targets b) := congrArg (Stmt.assign targets) h

theorem augment (target : Text) (operator : Operator) (h : a.Like b) :
    Stmt.Like (.augment target operator a) (.augment target operator b) :=
  congrArg (Stmt.augment target operator) h

theorem raise (h : Option.Rel Expr.Like e f) : Stmt.Like (.raise e) (.raise f) :=
  congrArg Stmt.raise (map_unlined_congr h)

theorem assert (h : a.Like b) (hm : Option.Rel Expr.Like e f) (line line' : Nat) :
    Stmt.Like (.assert a e line) (.assert b f line') :=
  congrArg₂ (Stmt.assert · · 0) h (map_unlined_congr hm)

theorem leave (h : Option.Rel Expr.Like e f) (line line' : Nat) :
    Stmt.Like (.leave e line) (.leave f line') := by
  rw [Like, unlined, unlined, map_unlined_congr h]

theorem stopLoop (line line' : Nat) : Stmt.Like (.stopLoop line) (.stopLoop line') := rfl

theorem nextItem (line line' : Nat) : Stmt.Like (.nextItem line) (.nextItem line') := rfl

variable {body body' orelse orelse' : List Stmt}

theorem ifElse (h : a.Like b) (hb : Forall₂ Stmt.Like body body')
    (ho : Forall₂ Stmt.Like orelse orelse') :
    Stmt.Like (.ifElse a body orelse) (.ifElse b body' orelse') := by
  rw [Like, unlined, unlined, h, unlinedBlock_congr hb, unlinedBlock_congr ho]

theorem forEach (target : Text) (line line' : Nat) (h : a.Like b)
    (hb : Forall₂ Stmt.Like body body') (ho : Forall₂ Stmt.Like orelse orelse') :
    Stmt.Like (.forEach target a body orelse line) (.forEach target b body' orelse' line') := by
  rw [Like, unlined, unlined, h, unlinedBlock_congr hb, unlinedBlock_congr ho]

end Stmt.Like

namespace Reader

variable {all : List Token} {fuel : Nat}

namespace Alike

theorem modulePath (fuel : Nat) : Alike all Eq (modulePath fuel) (modulePath fuel) :=
  identifier.bind_eq fun _ => (many_eq ((takeOp ".").before fun _ _ => identifier) fuel).bind_eq
    fun _ => .pure rfl

theorem otherName : Alike all Eq otherName otherName :=
  (isWord "as").bind_eq fun _ => .ite
    (skip.before fun _ _ => identifier.bind_eq fun _ => .pure rfl) (.pure rfl)

theorem moduleList (fuel : Nat) : Alike all Eq (moduleList fuel) (moduleList fuel) := by
  have entry : Alike all Eq (Reader.moduleList.entry fuel) (Reader.moduleList.entry fuel) :=
    (modulePath fuel).bind_eq fun _ => otherName.bind_eq fun _ => .pure rfl
  exact entry.bind_eq fun _ => (many_eq ((takeOp ",").before fun _ _ => entry) fuel).bind_eq
    fun _ => .pure rfl

theorem nameList (fuel : Nat) : Alike all Eq (nameList false fuel) (nameList false fuel) := by
  have entry : Alike all Eq Reader.nameList.entry Reader.nameList.entry :=
    identifier.bind_eq fun _ => otherName.bind_eq fun _ => .pure rfl
  unfold Reader.nameList
  simp only [Bool.false_eq_true, if_false]
  refine (takeIfOp "(").bind_eq fun _ => entry.bind_eq fun _ => ?_
  refine (many_eq ((takeOp ",").before fun _ _ => entry) fuel).bind_eq fun _ => ?_
  refine .ite ?_ ((isOp ",").bind_eq fun _ => .ite .stuck_bind (.pure rfl))
  exact (takeIfOp ",").before fun _ _ => (takeOp ")").before fun _ _ => .pure rfl

theorem assignmentTarget : Alike all Eq assignmentTarget assignmentTarget :=
  identifier.bind_eq fun _ => (takeOp "=").before fun _ _ => .pure rfl

theorem assignment (fuel : Nat) :
    Alike all Stmt.Like (assignment false fuel) (assignment false fuel) := by
  refine assignmentTarget.bind_eq fun _ => (many_eq assignmentTarget fuel).bind_eq fun _ => ?_
  exact (readsAlike all fuel).expressions.bind fun _ _ value => (isOp "=").bind_eq fun _ =>
    .ite .stuck_bind (.pure (.assign _ value))

theorem augmentation (fuel : Nat) :
    Alike all Stmt.Like (augmentation false fuel) (augmentation false fuel) :=
  identifier.bind_eq fun _ => (operator augmentOperators).bind_eq fun _ =>
    (readsAlike all fuel).expressions.bind fun _ _ value => .pure (.augment _ _ value)

theorem expressionStatement (fuel : Nat) :
    Alike all Stmt.Like (expressionStatement false fuel) (expressionStatement false fuel) := by
  unfold Reader.expressionStatement
  simp only [Bool.false_eq_true, if_false]
  refine (assignment fuel).attempt.bind fun _ _ found => ?_
  cases found with
  | some statement => exact .pure statement
  | none =>
    refine (augmentation fuel).attempt.bind fun _ _ found => ?_
    cases found with
    | some statement => exact .pure statement
    | none => exact (readsAlike all fuel).expressions.bind fun _ _ value => .pure (.expr value)

theorem simpleStatement (fuel : Nat) :
    Alike all Stmt.Like (simpleStatement false fuel) (simpleStatement false fuel) := by
  have reads := readsAlike all fuel
  refine line.before fun _ _ => next.bind_eq fun _ => ?_
  refine .ite (skip.before fun _ _ => .pure (.refl _)) ?_
  refine .ite (skip.before fun _ _ => .pure (.stopLoop _ _)) ?_
  refine .ite (skip.before fun _ _ => .pure (.nextItem _ _)) ?_
  refine .ite (skip.before fun _ _ => ?_) ?_
  · exact reads.expressions.attempt.bind fun _ _ value => .pure (.leave value _ _)
  refine .ite (skip.before fun _ _ => ?_) ?_
  · exact reads.expression.attempt.bind fun _ _ error => .pure (.raise error)
  refine .ite (skip.before fun _ _ => ?_) ?_
  · refine reads.expression.bind fun _ _ condition => ?_
    exact (attempt ((takeOp ",").before fun _ _ => reads.expression)).bind fun _ _ message =>
      .pure (.assert condition message _ _)
  refine .ite (skip.before fun _ _ => ?_) ?_
  · exact (moduleList fuel).bind_eq fun _ => .pure (.refl _)
  refine .ite (skip.before fun _ _ => ?_) (expressionStatement fuel)
  exact (modulePath fuel).bind_eq fun _ => (takeWord "import").before fun _ _ =>
    (nameList fuel).bind_eq fun _ => .pure (.refl _)

theorem statementLine (fuel : Nat) :
    Alike all (Forall₂ Stmt.Like) (statementLine false fuel) (statementLine false fuel) := by
  refine (simpleStatement fuel).bind fun _ _ first => ?_
  refine (many ((takeOp ";").before fun _ _ => simpleStatement fuel) fuel).bind fun _ _ others => ?_
  exact (takeIfOp ";").before fun _ _ => (take .newline).before fun _ _ =>
    .pure (.cons first others)

theorem takeColon : Alike all Eq (takeColon false) (takeColon false) := by
  unfold Reader.takeColon
  simp only [Bool.false_and, Bool.false_eq_true, if_false]
  exact (isNext .newline).before fun _ _ => takeOp ":"

theorem loopTarget (fuel : Nat) : Alike all Eq (loopTarget false fuel) (loopTarget false fuel) := by
  unfold Reader.loopTarget
  simp only [Bool.false_eq_true, if_false]
  refine bind_eq (attempt_eq ?_) fun found => ?_
  · exact identifier.bind_eq fun _ => (takeWord "in").before fun _ _ => .pure rfl
  · cases found with
    | none => exact .stuck
    | some name => exact .pure rfl

end Alike

/-- With some fuel, the readers of statements look at tokens only. -/
structure StatementsAlike (all : List Token) (fuel : Nat) : Prop where
  statements : Alike all (Forall₂ Stmt.Like) (statements false fuel) (statements false fuel)
  statement : Alike all (Forall₂ Stmt.Like) (statement false fuel) (statement false fuel)
  conditional (word : String) :
    Alike all Stmt.Like (conditional false word fuel) (conditional false word fuel)
  otherwise : Alike all (Forall₂ Stmt.Like) (otherwise false fuel) (otherwise false fuel)
  block (opener : String) (line line' : Nat) :
    Alike all (Forall₂ Stmt.Like) (block false opener line fuel) (block false opener line' fuel)

namespace StatementsAlike

variable (ih : StatementsAlike all fuel)
include ih

theorem statements_succ : Alike all (Forall₂ Stmt.Like) (Reader.statements false (fuel + 1))
    (Reader.statements false (fuel + 1)) := by
  rw [Reader.statements]
  refine ih.statement.bind fun _ _ first => (Alike.isNext .dedent).bind_eq fun _ => ?_
  refine (Alike.isNext .stop).bind_eq fun _ => .ite (.pure first) ?_
  exact ih.statements.bind fun _ _ others => .pure (List.rel_append first others)

theorem statement_succ : Alike all (Forall₂ Stmt.Like) (Reader.statement false (fuel + 1))
    (Reader.statement false (fuel + 1)) := by
  rw [Reader.statement]
  refine (Alike.isWord "if").bind_eq fun _ => .ite ?_ ?_
  · exact (ih.conditional "if").bind fun _ _ statement => .pure (.cons statement .nil)
  refine (Alike.isWord "for").bind_eq fun _ => .ite ?_ (.statementLine fuel)
  refine Alike.line.before fun _ _ => Alike.skip.before fun _ _ => ?_
  refine (Alike.loopTarget fuel).bind_eq fun _ => ?_
  refine (readsAlike all fuel).expressions.bind fun _ _ items => Alike.takeColon.before fun _ _ => ?_
  refine (ih.block "for" _ _).bind fun _ _ body => ih.otherwise.bind fun _ _ orelse => ?_
  exact .pure (.cons (.forEach _ _ _ items body orelse) .nil)

theorem conditional_succ (word : String) :
    Alike all Stmt.Like (Reader.conditional false word (fuel + 1))
      (Reader.conditional false word (fuel + 1)) := by
  rw [Reader.conditional]
  refine Alike.line.before fun _ _ => Alike.skip.before fun _ _ => ?_
  refine (readsAlike all fuel).nameable.bind fun _ _ condition => Alike.takeColon.before fun _ _ => ?_
  refine (ih.block word _ _).bind fun _ _ body => (Alike.isWord "elif").bind_eq fun _ => .ite ?_ ?_
  · exact (ih.conditional "elif").bind fun _ _ other =>
      .pure (.ifElse condition body (.cons other .nil))
  · exact ih.otherwise.bind fun _ _ orelse => .pure (.ifElse condition body orelse)

theorem otherwise_succ : Alike all (Forall₂ Stmt.Like) (Reader.otherwise false (fuel + 1))
    (Reader.otherwise false (fuel + 1)) := by
  rw [Reader.otherwise]
  refine Alike.line.before fun _ _ => (Alike.isWord "else").bind_eq fun _ => .ite ?_ (.pure .nil)
  refine Alike.skip.before fun _ _ => (Alike.isOp ":").bind_eq fun _ => .ite ?_ ?_
  · exact Alike.line.before fun _ _ => .found_bind
  · exact Alike.skip.before fun _ _ => ih.block "else" _ _

theorem block_succ (opener : String) (line line' : Nat) :
    Alike all (Forall₂ Stmt.Like) (Reader.block false opener line (fuel + 1))
      (Reader.block false opener line' (fuel + 1)) := by
  rw [Reader.block, Reader.block]
  simp only [Bool.false_eq_true, if_false]
  refine (Alike.takeIf .newline).bind_eq fun _ => .ite ?_ (.statementLine fuel)
  refine (Alike.takeIf .indent).bind_eq fun _ => .ite ?_ .stuck
  exact ih.statements.bind fun _ _ body => (Alike.take .dedent).before fun _ _ => .pure body

end StatementsAlike

theorem statementsAlike (all : List Token) (fuel : Nat) : StatementsAlike all fuel := by
  induction fuel with
  | zero => exact ⟨.stuck, .stuck, fun _ => .stuck, .stuck, fun _ _ _ => .stuck⟩
  | succ fuel ih =>
    exact ⟨ih.statements_succ, ih.statement_succ, ih.conditional_succ, ih.otherwise_succ,
      ih.block_succ⟩

/-- A script is read up to the token for its end. -/
theorem script_alike (all : List Token) (fuel : Nat) :
    Alike all (fun a b => Forall₂ Stmt.Like a b ∧ .stop ∈ all) (script false fuel)
      (script false fuel) := by
  refine (Alike.isNext_mem .stop).bind fun found _ same => ?_
  obtain ⟨rfl, mem⟩ := same
  cases found with
  | true => exact .pure ⟨.nil, mem rfl⟩
  | false =>
    exact (statementsAlike all fuel).statements.bind fun _ _ program =>
      (Alike.take_mem .stop).bind fun _ _ mem => .pure ⟨program, mem⟩

end Reader

end DocExamples.Script
