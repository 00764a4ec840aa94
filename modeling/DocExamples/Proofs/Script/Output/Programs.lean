import DocExamples.Proofs.Script.Output.Calls
import DocExamples.Script.Run

namespace DocExamples

open Text Console

namespace Script

namespace Eval

theorem appends_wait (value : Value) : Appends (wait value) := by
  cases value with
  | pause cell =>
    refine (appends_items cell).bind fun items => ?_
    split
    · refine (appends_store _ _).bind fun _ => (appends_related _ _ _).bind fun _ => .pure _
    · exact appends_raise _ _
  | _ => exact appends_typeError _

theorem appends_truthOf (value : Value) : Appends (truthOf value) := appends_cells.bind fun _ => .pure _

mutual

theorem appends_expr : (e : Expr) → Appends (expr e)
  | .none | .bool _ | .int _ | .str _ => by
    rw [expr]
    exact .pure _
  | .name name => by
    rw [expr]
    exact appends_lookUp name
  | .tuple items => by
    rw [expr]
    exact (appends_exprs items).bind appends_newTuple
  | .list items => by
    rw [expr]
    exact (appends_exprs items).bind appends_newList
  | .dict entries => by
    rw [expr]
    exact (appends_pairs entries).bind appends_newDict
  | .negate operand | .keep operand => by
    rw [expr]
    exact (appends_expr operand).bind (appends_signed _ _)
  | .invert operand => by
    rw [expr]
    exact (appends_expr operand).bind fun value => (appends_truthOf value).bind fun _ => .pure _
  | .both left right => by
    rw [expr]
    refine (appends_expr left).bind fun value => (appends_truthOf value).bind fun _ => ?_
    exact .ite (appends_expr right) (.pure _)
  | .either left right => by
    rw [expr]
    refine (appends_expr left).bind fun value => (appends_truthOf value).bind fun _ => ?_
    exact .ite (.pure _) (appends_expr right)
  | .choice condition value otherwise => by
    rw [expr]
    refine (appends_expr condition).bind fun holds => (appends_truthOf holds).bind fun _ => ?_
    exact .ite (appends_expr value) (appends_expr otherwise)
  | .binary operator left right => by
    rw [expr]
    refine (appends_expr left).bind fun first => (appends_expr right).bind fun second => ?_
    exact appends_binary _ operator first second
  | .compare first others _ => by
    rw [expr]
    exact (appends_expr first).bind fun value => appends_comparisons value others
  | .member target name => by
    rw [expr]
    exact (appends_expr target).bind fun value => appends_memberOf value name
  | .subscript target index _ => by
    rw [expr]
    refine (appends_expr target).bind fun whole => (appends_expr index).bind fun place => ?_
    exact appends_subscript whole place
  | .call function arguments named _ => by
    rw [expr]
    refine (appends_expr function).bind fun called => (appends_exprs arguments).bind fun values => ?_
    exact (appends_namedExprs named).bind fun others => appends_call called _
  | .wait operand => by
    rw [expr]
    exact (appends_expr operand).bind appends_wait

theorem appends_exprs : (es : List Expr) → Appends (exprs es)
  | [] => by
    rw [exprs]
    exact .pure _
  | e :: es => by
    rw [exprs]
    exact (appends_expr e).bind fun _ => (appends_exprs es).bind fun _ => .pure _

theorem appends_pairs : (entries : List (Expr × Expr)) → Appends (pairs entries)
  | [] => by
    rw [pairs]
    exact .pure _
  | (key, value) :: rest => by
    rw [pairs]
    refine (appends_expr key).bind fun _ => (appends_expr value).bind fun _ => ?_
    exact (appends_pairs rest).bind fun _ => .pure _

theorem appends_namedExprs : (named : List (Keyword × Expr)) → Appends (namedExprs named)
  | [] => by
    rw [namedExprs]
    exact .pure _
  | (keyword, e) :: rest => by
    rw [namedExprs]
    exact (appends_expr e).bind fun _ => (appends_namedExprs rest).bind fun _ => .pure _

theorem appends_comparisons (left : Value) : (others : List (Comparison × Expr)) →
    Appends (comparisons left others)
  | [] => by
    rw [comparisons]
    exact .pure _
  | (comparison, e) :: rest => by
    rw [comparisons]
    refine (appends_expr e).bind fun right => (appends_compare comparison left right).bind fun _ => ?_
    exact .ite (appends_comparisons right rest) (.pure _)

end

theorem appends_loop {body : Value → Eval Flow} (h : ∀ item, Appends (body item))
    (items : List Value) : Appends (loop body items) := by
  induction items with
  | nil => exact .pure _
  | cons item items ih =>
    refine (h item).bind fun flow => ?_
    cases flow with
    | next | nextItem => exact ih
    | leaveLoop => exact .pure _

theorem appends_loopRange {body : Value → Eval Flow} (h : ∀ item, Appends (body item)) (range : Range)
    (left : Nat) : Appends (loopRange body range left) := by
  induction left with
  | zero => exact .pure _
  | succ left ih =>
    refine (h _).bind fun flow => ?_
    cases flow with
    | next | nextItem => exact ih
    | leaveLoop => exact .pure _

mutual

theorem appends_stmt : (s : Stmt) → Appends (stmt s)
  | .pass | .leave _ _ | .stopLoop _ | .nextItem _ => by
    rw [stmt]
    exact .pure _
  | .expr value => by
    rw [stmt]
    exact (appends_expr value).bind fun _ => .pure _
  | .assign targets value => by
    rw [stmt]
    refine (appends_expr value).bind fun _ => .bind (.forIn (fun target _ => ?_) _ _) fun _ => .pure _
    exact (appends_setName _ _).bind fun _ => .pure _
  | .augment target operator value => by
    rw [stmt]
    refine (appends_lookUp target).bind fun old => (appends_expr value).bind fun other => ?_
    refine (appends_augment operator old other).bind fun result => ?_
    exact (appends_setName target result).bind fun _ => .pure _
  | .importModules modules => by
    rw [stmt]
    refine .bind (.forIn (fun entry _ => ?_) _ _) fun _ => .pure _
    exact (appends_importModule _ _).bind fun _ => .pure _
  | .importNames path names => by
    rw [stmt]
    exact (appends_importNames path names).bind fun _ => .pure _
  | .raise none => by
    rw [stmt]
    exact appends_raise _ _
  | .raise (some error) => by
    rw [stmt]
    exact (appends_expr error).bind fun value => (appends_toRaise value).bind fun _ => .throw _
  | .assert condition none _ => by
    rw [stmt]
    refine (appends_expr condition).bind fun value => (appends_truthOf value).bind fun _ => ?_
    exact .ite (.pure _) (.throw _)
  | .assert condition (some message) _ => by
    rw [stmt]
    refine (appends_expr condition).bind fun value => (appends_truthOf value).bind fun _ => ?_
    exact .ite (.pure _) ((appends_expr message).bind fun _ => .throw _)
  | .ifElse condition body orelse => by
    rw [stmt]
    refine (appends_expr condition).bind fun value => (appends_truthOf value).bind fun _ => ?_
    exact .ite (appends_block body) (appends_block orelse)
  | .forEach target items body orelse line => by
    rw [stmt]
    have each (item : Value) : Appends (setName target item >>= fun _ => block body) :=
      (appends_setName target item).bind fun _ => appends_block body
    refine (appends_expr items).bind fun value => ?_
    dsimp only
    split
    · exact (appends_loopRange each _ _).bind fun _ => .ite (.pure _) (appends_block orelse)
    · refine (appends_itemsOf _).bind fun items => (appends_loop each items).bind fun _ => ?_
      exact .ite (.pure _) (appends_block orelse)

theorem appends_block : (program : Program) → Appends (block program)
  | [] => by
    rw [block]
    exact .pure _
  | s :: ss => by
    rw [block]
    refine (appends_stmt s).bind fun flow => ?_
    cases flow with
    | next => exact appends_block ss
    | nextItem | leaveLoop => exact .pure _

end

end Eval

/-- What was written before a program stays in front of what it writes, and changes nothing else. -/
theorem Program.run_after (program : Program) (before : Written) (state : State Space) :
    program.run (state.after before) =
      ((program.run state).1, (program.run state).2.after before) := by
  rw [run, run, Eval.appends_block program before state]
  rcases (Eval.block program).run state with ⟨raised | flow, after⟩ <;> rfl

end Script

end DocExamples
