import DocExamples.Proofs.Script.Unlined
import DocExamples.Script.Run

namespace DocExamples.Script

namespace Eval

mutual

theorem expr_unlined : ∀ e : Expr, expr e.unlined = expr e
  | .none | .bool _ | .int _ | .str _ | .name _ => rfl
  | .tuple items => by rw [Expr.unlined, expr, expr, exprs_unlined items]
  | .list items => by rw [Expr.unlined, expr, expr, exprs_unlined items]
  | .dict entries => by rw [Expr.unlined, expr, expr, pairs_unlined entries]
  | .negate operand => by rw [Expr.unlined, expr, expr, expr_unlined operand]
  | .keep operand => by rw [Expr.unlined, expr, expr, expr_unlined operand]
  | .invert operand => by rw [Expr.unlined, expr, expr, expr_unlined operand]
  | .both left right => by
    rw [Expr.unlined, expr, expr, expr_unlined left, expr_unlined right]
  | .either left right => by
    rw [Expr.unlined, expr, expr, expr_unlined left, expr_unlined right]
  | .choice condition value otherwise => by
    rw [Expr.unlined, expr, expr, expr_unlined condition, expr_unlined value,
      expr_unlined otherwise]
  | .binary _ left right => by
    rw [Expr.unlined, expr, expr, expr_unlined left, expr_unlined right]
  | .compare first others _ => by
    have compared := fun left => comparisons_unlined left others
    rw [Expr.unlined, expr, expr, expr_unlined first]
    simp only [compared]
  | .member target _ => by rw [Expr.unlined, expr, expr, expr_unlined target]
  | .subscript target index _ => by
    rw [Expr.unlined, expr, expr, expr_unlined target, expr_unlined index]
  | .call function arguments named _ => by
    rw [Expr.unlined, expr, expr, expr_unlined function, exprs_unlined arguments,
      namedExprs_unlined named]
  | .wait operand => by rw [Expr.unlined, expr, expr, expr_unlined operand]

theorem exprs_unlined : ∀ es : List Expr, exprs (unlinedItems es) = exprs es
  | [] => rfl
  | e :: es => by rw [unlinedItems, exprs, exprs, expr_unlined e, exprs_unlined es]

theorem pairs_unlined : ∀ entries : List (Expr × Expr),
    pairs (unlinedEntries entries) = pairs entries
  | [] => rfl
  | (key, value) :: entries => by
    rw [unlinedEntries, pairs, pairs, expr_unlined key, expr_unlined value, pairs_unlined entries]

theorem namedExprs_unlined : ∀ named : List (Keyword × Expr),
    namedExprs (unlinedNamed named) = namedExprs named
  | [] => rfl
  | (_, e) :: named => by
    rw [unlinedNamed, namedExprs, namedExprs, expr_unlined e, namedExprs_unlined named]

theorem comparisons_unlined : ∀ (left : Value) (others : List (Comparison × Expr)),
    comparisons left (unlinedOthers others) = comparisons left others
  | _, [] => rfl
  | left, (comparison, e) :: others => by
    have further := fun right => comparisons_unlined right others
    rw [unlinedOthers, comparisons, comparisons, expr_unlined e]
    simp only [further]

end

mutual

theorem stmt_unlined : ∀ s : Stmt, stmt s.unlined = stmt s
  | .pass | .importModules _ | .importNames _ _ | .leave _ _ | .stopLoop _ | .nextItem _ => rfl
  | .expr value => by rw [Stmt.unlined, stmt, stmt, expr_unlined value]
  | .assign _ value => by rw [Stmt.unlined, stmt, stmt, expr_unlined value]
  | .augment _ _ value => by rw [Stmt.unlined, stmt, stmt, expr_unlined value]
  | .raise none => rfl
  | .raise (some error) => by
    rw [Stmt.unlined, Option.map_some, stmt, stmt, expr_unlined error]
  | .assert condition none _ => by
    rw [Stmt.unlined, Option.map_none, stmt, stmt, expr_unlined condition]
  | .assert condition (some message) _ => by
    rw [Stmt.unlined, Option.map_some, stmt, stmt, expr_unlined condition]
    simp only [expr_unlined message]
  | .ifElse condition body orelse => by
    rw [Stmt.unlined, stmt, stmt, expr_unlined condition, block_unlined body, block_unlined orelse]
  | .forEach _ items body orelse _ => by
    rw [Stmt.unlined, stmt, stmt, expr_unlined items, block_unlined body, block_unlined orelse]

theorem block_unlined : ∀ ss : List Stmt, block (unlinedBlock ss) = block ss
  | [] => rfl
  | s :: ss => by rw [unlinedBlock, block, block, stmt_unlined s, block_unlined ss]

end

end Eval

/-- What a program does does not depend on lines. -/
theorem Program.run_unlined (program : Program) : Program.run (unlinedBlock program) = program.run := by
  funext world
  rw [Program.run, Program.run, Eval.block_unlined]
  simp only [Program.escaped, anyWaits_unlined]

theorem Program.run_congr {first second : Program} (h : unlinedBlock first = unlinedBlock second) :
    first.run = second.run := by
  rw [← run_unlined first, h, run_unlined]

end DocExamples.Script
