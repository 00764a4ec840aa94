import DocExamples.Proofs.Script.Unlined
import DocExamples.Script.Warning

namespace DocExamples.Script

open Text

mutual

theorem Expr.constant?_unlined : ∀ e : Expr, e.unlined.constant? = e.constant?
  | .none | .bool _ | .int _ | .str _ | .name _ | .list _ | .dict _ | .both _ _ | .either _ _
  | .choice _ _ _ | .compare _ _ _ | .member _ _ | .call _ _ _ _ | .wait _ => rfl
  | .tuple items => by
    rw [Expr.unlined, Expr.constant?, Expr.constant?, constants?_unlined items]
  | .negate operand => by
    rw [Expr.unlined, Expr.constant?, Expr.constant?, operand.constant?_unlined]
  | .keep operand => by
    rw [Expr.unlined, Expr.constant?, Expr.constant?, operand.constant?_unlined]
  | .invert operand => by
    rw [Expr.unlined, Expr.constant?, Expr.constant?, operand.constant?_unlined]
  | .binary _ left right => by
    rw [Expr.unlined, Expr.constant?, Expr.constant?, left.constant?_unlined, right.constant?_unlined]
  | .subscript target index _ => by
    rw [Expr.unlined, Expr.constant?, Expr.constant?, target.constant?_unlined, index.constant?_unlined]

theorem constants?_unlined : ∀ es : List Expr, constants? (unlinedItems es) = constants? es
  | [] => rfl
  | e :: es => by rw [unlinedItems, constants?, constants?, e.constant?_unlined, constants?_unlined es]

end

namespace Expr

theorem typeName?_unlined (e : Expr) : e.unlined.typeName? = e.typeName? := by
  unfold typeName?
  rw [e.constant?_unlined]
  generalize e.constant? = found
  cases found with
  | some constant => rfl
  | none => cases e <;> rfl

theorem isLiteral_unlined (e : Expr) : e.unlined.isLiteral = e.isLiteral := by
  rw [isLiteral, isLiteral, e.constant?_unlined]

theorem hasNoItems_unlined (e : Expr) : e.unlined.hasNoItems = e.hasNoItems := by
  rw [hasNoItems, hasNoItems, e.constant?_unlined]

theorem hasPlaces_unlined (e : Expr) : e.unlined.hasPlaces = e.hasPlaces := by
  rw [hasPlaces, hasPlaces, e.typeName?_unlined]

theorem isFilledTuple_unlined (e : Expr) : e.unlined.isFilledTuple = e.isFilledTuple := by
  have constant := e.constant?_unlined
  cases e with
  | tuple items => cases items <;> rfl
  | _ => simp only [isFilledTuple, unlined, ← constant]

end Expr

/-- A remark without its line. -/
def Remark.unlined : Remark → Remark
  | .warning message _ => .warning message 0
  | .refusal => .refusal

theorem negated_unlinedOthers (others : List (Comparison × Expr)) :
    negated (unlinedOthers others) = unlinedOthers (negated others) := by
  match others with
  | [] => rfl
  | (comparison, e) :: [] => cases comparison <;> rfl
  | (first, _) :: (_, _) :: _ => cases first <;> rfl

theorem identityRemarks_unlined (left : Expr) (others : List (Comparison × Expr)) (line : Nat) :
    identityRemarks left.unlined (unlinedOthers others) 0 =
      (identityRemarks left others line).map Remark.unlined := by
  induction others generalizing left with
  | nil => rfl
  | cons other others ih =>
    obtain ⟨comparison, right⟩ := other
    simp only [unlinedOthers, identityRemarks, left.isLiteral_unlined, right.isLiteral_unlined, ih]
    split <;> rfl

theorem callRemarks_unlined (function : Expr) (line : Nat) :
    callRemarks function.unlined 0 = (callRemarks function line).map Remark.unlined := by
  rw [callRemarks, callRemarks, function.typeName?_unlined]
  split <;> rfl

theorem subscriptRemarks_unlined (target index : Expr) (line : Nat) :
    subscriptRemarks target.unlined index.unlined 0 =
      (subscriptRemarks target index line).map Remark.unlined := by
  simp only [subscriptRemarks, target.typeName?_unlined, index.typeName?_unlined,
    target.hasNoItems_unlined, target.hasPlaces_unlined]
  split
  · rw [List.map_append]
    congr 1
    · split <;> rfl
    · split
      · split <;> rfl
      · rfl
  · rfl

mutual

theorem Expr.remarks_unlined : ∀ (e : Expr) (isNegated : Bool),
    e.unlined.remarks isNegated = (e.remarks isNegated).map Remark.unlined
  | .none, _ | .bool _, _ | .int _, _ | .str _, _ | .name _, _ => rfl
  | .tuple items, _ | .list items, _ => remarksInExprs_unlined items
  | .dict entries, _ => remarksInEntries_unlined entries
  | .negate operand, _ | .keep operand, _ | .wait operand, _ => operand.remarks_unlined false
  | .invert operand, isNegated => operand.remarks_unlined !isNegated
  | .binary _ left right, _ | .both left right, _ | .either left right, _ => by
    simp [Expr.unlined, Expr.remarks, left.remarks_unlined, right.remarks_unlined]
  | .choice condition value otherwise, _ => by
    simp [Expr.unlined, Expr.remarks, condition.remarks_unlined, value.remarks_unlined,
      otherwise.remarks_unlined]
  | .compare first others line, isNegated => by
    have identity := identityRemarks_unlined first (if isNegated then negated others else others) line
    have swapped : (if isNegated then negated (unlinedOthers others) else unlinedOthers others) =
        unlinedOthers (if isNegated then negated others else others) := by
      cases isNegated
      · rfl
      · exact negated_unlinedOthers others
    simp [Expr.unlined, Expr.remarks, swapped, identity, first.remarks_unlined,
      remarksInOthers_unlined others]
  | .member target _, _ => target.remarks_unlined false
  | .subscript target index line, _ => by
    have constant := (Expr.subscript target index line).constant?_unlined
    rw [Expr.unlined] at constant
    simp only [Expr.unlined, Expr.remarks, constant, target.remarks_unlined, index.remarks_unlined,
      subscriptRemarks_unlined target index line, List.map_append]
    split <;> rfl
  | .call function arguments named line, _ => by
    simp only [Expr.unlined, Expr.remarks, isSome_repeatedKeyword?_unlined,
      callRemarks_unlined function line, function.remarks_unlined, remarksInExprs_unlined arguments,
      remarksInNamed_unlined named, List.map_append]
    split <;> rfl

theorem remarksInExprs_unlined : ∀ es : List Expr,
    remarksInExprs (unlinedItems es) = (remarksInExprs es).map Remark.unlined
  | [] => rfl
  | e :: es => by
    simp [unlinedItems, remarksInExprs, e.remarks_unlined, remarksInExprs_unlined es]

theorem remarksInEntries_unlined : ∀ entries : List (Expr × Expr),
    remarksInEntries (unlinedEntries entries) = (remarksInEntries entries).map Remark.unlined
  | [] => rfl
  | (key, value) :: entries => by
    simp [unlinedEntries, remarksInEntries, key.remarks_unlined, value.remarks_unlined,
      remarksInEntries_unlined entries]

theorem remarksInOthers_unlined : ∀ others : List (Comparison × Expr),
    remarksInOthers (unlinedOthers others) = (remarksInOthers others).map Remark.unlined
  | [] => rfl
  | (_, e) :: others => by
    simp [unlinedOthers, remarksInOthers, e.remarks_unlined, remarksInOthers_unlined others]

theorem remarksInNamed_unlined : ∀ named : List (Keyword × Expr),
    remarksInNamed (unlinedNamed named) = (remarksInNamed named).map Remark.unlined
  | [] => rfl
  | (_, e) :: named => by
    simp [unlinedNamed, remarksInNamed, e.remarks_unlined, remarksInNamed_unlined named]

end

theorem remarks_map_unlined (e : Option Expr) :
    ((e.map Expr.unlined).map (Expr.remarks false)).getD [] =
      ((e.map (Expr.remarks false)).getD []).map Remark.unlined := by
  cases e with
  | none => rfl
  | some e => exact e.remarks_unlined false

mutual

theorem Stmt.remarks_unlined : ∀ (s : Stmt) (loops : Nat),
    s.unlined.remarks loops = (s.remarks loops).map Remark.unlined
  | .pass, _ | .importModules _, _ | .importNames _ _, _ | .leave _ _, _ => rfl
  | .expr value, _ | .assign _ value, _ | .augment _ _ value, _ => value.remarks_unlined false
  | .raise error, _ => remarks_map_unlined error
  | .assert condition message _, _ => by
    simp only [Stmt.unlined, Stmt.remarks, condition.isFilledTuple_unlined, condition.remarks_unlined,
      remarks_map_unlined message, List.map_append]
    split <;> rfl
  | .stopLoop _, loops | .nextItem _, loops => by
    simp only [Stmt.unlined, Stmt.remarks]
    split <;> rfl
  | .ifElse condition body orelse, loops => by
    simp [Stmt.unlined, Stmt.remarks, condition.remarks_unlined, remarksIn_unlined body,
      remarksIn_unlined orelse]
  | .forEach _ items body orelse _, loops => by
    simp only [Stmt.unlined, Stmt.remarks]
    split
    · rfl
    · simp [items.remarks_unlined, remarksIn_unlined body, remarksIn_unlined orelse]

theorem remarksIn_unlined : ∀ (ss : List Stmt) (loops : Nat),
    remarksIn loops (unlinedBlock ss) = (remarksIn loops ss).map Remark.unlined
  | [], _ => rfl
  | s :: ss, loops => by
    simp [unlinedBlock, remarksIn, s.remarks_unlined, remarksIn_unlined ss]

end

theorem messages_map_unlined (remarks : List Remark) :
    (warningsOf (remarks.map Remark.unlined)).map (·.message) =
      (warningsOf remarks).map (·.message) := by
  induction remarks with
  | nil => rfl
  | cons remark remarks ih =>
    cases remark with
    | warning message line => exact congrArg (message :: ·) ih
    | refusal => rfl

/-- Programs that differ in lines only are given the same warnings, for other lines. -/
theorem Program.messages_congr {first second : Program} (like : unlinedBlock first = unlinedBlock second) :
    first.warnings.map (·.message) = second.warnings.map (·.message) := by
  rw [warnings, warnings, ← messages_map_unlined, ← remarksIn_unlined, like, remarksIn_unlined,
    messages_map_unlined]

end DocExamples.Script
