import DocExamples.Text.Basic

namespace DocExamples.Script

inductive Operator
  | add
  | subtract
  | multiply
  | floorDivide
  deriving DecidableEq, Repr

inductive Relation
  | equal
  | notEqual
  | less
  | lessOrEqual
  | greater
  | greaterOrEqual
  deriving DecidableEq, Repr

inductive Comparison
  | related (relation : Relation)
  | contained
  | notContained
  | identical
  | notIdentical
  deriving DecidableEq, Repr

structure Keyword where
  name : Text
  line : Nat
  deriving DecidableEq, Repr

/-- An expression, with the line in which it starts where the compiler may have something to say about it. -/
inductive Expr
  | none
  | bool (value : Bool)
  | int (value : Nat)
  | str (value : Text)
  | name (name : Text)
  | tuple (items : List Expr)
  | list (items : List Expr)
  | dict (entries : List (Expr × Expr))
  | negate (operand : Expr)
  /-- An operand with a plus sign before it. -/
  | keep (operand : Expr)
  | invert (operand : Expr)
  | both (left right : Expr)
  | either (left right : Expr)
  | choice (condition value otherwise : Expr)
  | binary (operator : Operator) (left right : Expr)
  /-- An operand compared with further ones in turn. -/
  | compare (first : Expr) (others : List (Comparison × Expr)) (line : Nat)
  | member (target : Expr) (name : Text)
  | subscript (target index : Expr) (line : Nat)
  | call (function : Expr) (arguments : List Expr) (named : List (Keyword × Expr)) (line : Nat)
  | wait (operand : Expr)

abbrev ModulePath := List Text

inductive Stmt
  | pass
  | expr (value : Expr)
  | assign (targets : List Text) (value : Expr)
  | augment (target : Text) (operator : Operator) (value : Expr)
  | importModules (modules : List (ModulePath × Option Text))
  | importNames (path : ModulePath) (names : List (Text × Option Text))
  | raise (error : Option Expr)
  | assert (condition : Expr) (message : Option Expr) (line : Nat)
  | ifElse (condition : Expr) (body orelse : List Stmt)
  /-- A loop over items; the statements after it are run unless it is left. -/
  | forEach (target : Text) (items : Expr) (body orelse : List Stmt) (line : Nat)
  | leave (value : Option Expr) (line : Nat)
  | stopLoop (line : Nat)
  | nextItem (line : Nat)

abbrev Program := List Stmt

mutual

def Expr.waits : Expr → Bool
  | .none | .bool _ | .int _ | .str _ | .name _ => false
  | .tuple items | .list items => waitsInAny items
  | .dict entries => waitsInEntries entries
  | .negate operand | .keep operand | .invert operand => operand.waits
  | .binary _ left right | .both left right | .either left right => left.waits || right.waits
  | .choice condition value otherwise => condition.waits || value.waits || otherwise.waits
  | .compare first others _ => first.waits || waitsInOthers others
  | .member target _ => target.waits
  | .subscript target index _ => target.waits || index.waits
  | .call function arguments named _ =>
    function.waits || waitsInAny arguments || waitsInNamed named
  | .wait _ => true

def waitsInAny : List Expr → Bool
  | [] => false
  | e :: es => e.waits || waitsInAny es

def waitsInEntries : List (Expr × Expr) → Bool
  | [] => false
  | (key, value) :: entries => key.waits || value.waits || waitsInEntries entries

def waitsInOthers : List (Comparison × Expr) → Bool
  | [] => false
  | (_, e) :: others => e.waits || waitsInOthers others

def waitsInNamed : List (Keyword × Expr) → Bool
  | [] => false
  | (_, e) :: named => e.waits || waitsInNamed named

end

mutual

def Stmt.waits : Stmt → Bool
  | .pass | .importModules _ | .importNames _ _ | .stopLoop _ | .nextItem _ => false
  | .expr value | .assign _ value | .augment _ _ value => value.waits
  | .raise error => error.any (·.waits)
  | .assert condition message _ => condition.waits || message.any (·.waits)
  | .ifElse condition body orelse => condition.waits || anyWaits body || anyWaits orelse
  | .forEach _ items body orelse _ => items.waits || anyWaits body || anyWaits orelse
  | .leave value _ => value.any (·.waits)

def anyWaits : List Stmt → Bool
  | [] => false
  | s :: ss => s.waits || anyWaits ss

end

end DocExamples.Script
