import DocExamples.Script.Compile
import DocExamples.Script.Machine
import DocExamples.Script.Operation

namespace DocExamples.Script

open Text Console

inductive Constant
  | none
  | bool (value : Bool)
  | int (value : Int)
  | str (value : Text)
  | tuple (items : List Constant)

namespace Constant

def typeName : Constant → String
  | none => "NoneType"
  | bool _ => "bool"
  | int _ => "int"
  | str _ => "str"
  | tuple _ => "tuple"

def number? : Constant → Option Int
  | bool true => some 1
  | bool false => some 0
  | int n => some n
  | _ => Option.none

def truth : Constant → Bool
  | none => false
  | bool b => b
  | int n => n != 0
  | str text => !text.isEmpty
  | tuple items => !items.isEmpty

/-- How many constants stand in a constant, itself among them. -/
def size : Constant → Nat
  | tuple items => sizes items + 1
  | _ => 1
where
  sizes : List Constant → Nat
  | [] => 0
  | item :: items => item.size + sizes items

/-- Items a number of times, unless the compiler leaves that many to the run. -/
def times {α : Type} (most : Nat) (count : Int) (items : List α) : Option (List α) :=
  if items.isEmpty then some []
  else if count < 0 || (most / items.length : Nat) < count then Option.none
  else some (List.replicate count.toNat items).flatten

def multiply (left right : Constant) : Option Constant :=
  match left.number?, right.number?, left, right with
  | some m, some n, _, _ =>
    if m ≠ 0 && n ≠ 0 && 128 < (m.natAbs.log2 + 1) + (n.natAbs.log2 + 1) then Option.none
    else some (int (m * n))
  | some n, _, _, str text | _, some n, str text, _ => (times 4096 n text).map str
  | some n, _, _, tuple items | _, some n, tuple items, _ =>
    if n ≠ 0 && 1024 < (tuple items).size - 1 then Option.none else (times 256 n items).map tuple
  | _, _, _, _ => Option.none

def binary (operator : Operator) (left right : Constant) : Option Constant :=
  match operator, left.number?, right.number?, left, right with
  | .add, some m, some n, _, _ => some (int (m + n))
  | .add, _, _, str s, str t => some (str (s ++ t))
  | .add, _, _, tuple c, tuple d => some (tuple (c ++ d))
  | .subtract, some m, some n, _, _ => some (int (m - n))
  | .floorDivide, some m, some n, _, _ => if n = 0 then Option.none else some (int (Int.fdiv m n))
  | .multiply, _, _, left, right => multiply left right
  | _, _, _, _, _ => Option.none

def subscript (target index : Constant) : Option Constant :=
  match target, index.number? with
  | str text, some n => ((Eval.placeOf? text.length n).bind (text[·]?)).map fun c => str [c]
  | tuple items, some n => (Eval.placeOf? items.length n).bind (items[·]?)
  | _, _ => Option.none

end Constant

mutual

/-- The constant that the compiler makes of an expression, if it makes one. -/
def Expr.constant? : Expr → Option Constant
  | .none => some .none
  | .bool b => some (.bool b)
  | .int n => some (.int n)
  | .str text => some (.str text)
  | .tuple items => (constants? items).map .tuple
  | .negate operand => do return .int (-(← (← operand.constant?).number?))
  | .keep operand => do return .int (← (← operand.constant?).number?)
  | .invert operand => do return .bool !(← operand.constant?).truth
  | .binary operator left right => do
    let left ← left.constant?
    left.binary operator (← right.constant?)
  | .subscript target index _ => do
    let target ← target.constant?
    target.subscript (← index.constant?)
  | _ => Option.none

def constants? : List Expr → Option (List Constant)
  | [] => some []
  | e :: es => do
    let first ← e.constant?
    return first :: (← constants? es)

end

namespace Expr

def typeName? (e : Expr) : Option String :=
  match e.constant?, e with
  | some constant, _ => some constant.typeName
  | _, .tuple _ => some "tuple"
  | _, .list _ => some "list"
  | _, .dict _ => some "dict"
  | _, _ => Option.none

/-- Whether an expression is a constant other than those of which there is one only. -/
def isLiteral (e : Expr) : Bool :=
  match e.constant? with
  | Option.none | some .none | some (.bool _) => false
  | some _ => true

def hasNoItems (e : Expr) : Bool :=
  match e.constant? with
  | some .none | some (.bool _) | some (.int _) => true
  | _ => false

def hasPlaces (e : Expr) : Bool :=
  match e.typeName? with
  | some type => ["str", "tuple", "list"].contains type
  | Option.none => false

def isFilledTuple : Expr → Bool
  | .tuple items => !items.isEmpty
  | e =>
    match e.constant? with
    | some (.tuple items) => !items.isEmpty
    | _ => false

end Expr

/-- What the compiler has to say about a program at some place. -/
inductive Remark
  | warning (message : Text) (line : Nat)
  /-- The program is refused. -/
  | refusal

def missedComma : Text := "; perhaps you missed a comma?".toList

/-- The comparison that the compiler makes of the negation of one. -/
def negated : List (Comparison × Expr) → List (Comparison × Expr)
  | [(.identical, other)] => [(.notIdentical, other)]
  | [(.notIdentical, other)] => [(.identical, other)]
  | others => others

/-- The warning for a comparison by identity with a literal: about the first one of them. `left` is the operand
before. -/
def identityRemarks (left : Expr) (others : List (Comparison × Expr)) (line : Nat) : List Remark :=
  match others with
  | [] => []
  | (comparison, right) :: others =>
    match comparison, left.isLiteral || right.isLiteral with
    | .identical, true => [.warning "\"is\" with a literal. Did you mean \"==\"?".toList line]
    | .notIdentical, true => [.warning "\"is not\" with a literal. Did you mean \"!=\"?".toList line]
    | _, _ => identityRemarks right others line

def callRemarks (function : Expr) (line : Nat) : List Remark :=
  match function.typeName? with
  | some type => [.warning ('\x27' :: type.toList ++ "' object is not callable".toList ++ missedComma) line]
  | none => []

def subscriptRemarks (target index : Expr) (line : Nat) : List Remark :=
  match target.typeName?, index.typeName? with
  | some type, indexType =>
    (if target.hasNoItems then
      [.warning ('\x27' :: type.toList ++ "' object is not subscriptable".toList ++ missedComma) line]
    else []) ++
      match indexType with
      | some indexType =>
        if target.hasPlaces && indexType ≠ "int" && indexType ≠ "bool" then
          [.warning (type.toList ++ " indices must be integers or slices, not ".toList ++
            indexType.toList ++ missedComma) line]
        else []
      | none => []
  | none, _ => []

mutual

/-- What the compiler has to say about an expression that it does not make a constant of; `isNegated` says that
the expression stands after `not`. -/
def Expr.remarks (isNegated : Bool) : Expr → List Remark
  | .none | .bool _ | .int _ | .str _ | .name _ => []
  | .tuple items | .list items => remarksInExprs items
  | .dict entries => remarksInEntries entries
  | .negate operand | .keep operand | .wait operand => operand.remarks false
  | .invert operand => operand.remarks !isNegated
  | .binary _ left right | .both left right | .either left right => left.remarks false ++ right.remarks false
  | .choice condition value otherwise =>
    condition.remarks false ++ (value.remarks false ++ otherwise.remarks false)
  | .compare first others line =>
    identityRemarks first (if isNegated then negated others else others) line ++
      (first.remarks false ++ remarksInOthers others)
  | .member target _ => target.remarks false
  | .subscript target index line =>
    (if (Expr.subscript target index line).constant?.isSome then []
      else subscriptRemarks target index line) ++ (target.remarks false ++ index.remarks false)
  | .call function arguments named line =>
    (if (repeatedKeyword? named).isSome then [.refusal] else []) ++
      (callRemarks function line ++ (function.remarks false ++
        (remarksInExprs arguments ++ remarksInNamed named)))

def remarksInExprs : List Expr → List Remark
  | [] => []
  | e :: es => e.remarks false ++ remarksInExprs es

def remarksInEntries : List (Expr × Expr) → List Remark
  | [] => []
  | (key, value) :: entries => key.remarks false ++ (value.remarks false ++ remarksInEntries entries)

def remarksInOthers : List (Comparison × Expr) → List Remark
  | [] => []
  | (_, e) :: others => e.remarks false ++ remarksInOthers others

def remarksInNamed : List (Keyword × Expr) → List Remark
  | [] => []
  | (_, e) :: named => e.remarks false ++ remarksInNamed named

end

mutual

/-- What the compiler has to say about a statement that stands in some loops. -/
def Stmt.remarks (loops : Nat) : Stmt → List Remark
  | .pass | .importModules _ | .importNames _ _ => []
  | .expr value | .assign _ value | .augment _ _ value => value.remarks false
  | .raise error => (error.map (Expr.remarks false)).getD []
  | .assert condition message line =>
    (if condition.isFilledTuple then
      [.warning "assertion is always true, perhaps remove parentheses?".toList line]
    else []) ++ (condition.remarks false ++ (message.map (Expr.remarks false)).getD [])
  | .leave _ _ => [.refusal]
  | .stopLoop _ | .nextItem _ => if loops = 0 then [.refusal] else []
  | .ifElse condition body orelse =>
    condition.remarks false ++ (remarksIn loops body ++ remarksIn loops orelse)
  | .forEach _ items body orelse _ =>
    if mostLoops ≤ loops then [.refusal]
    else items.remarks false ++ (remarksIn (loops + 1) body ++ remarksIn loops orelse)

def remarksIn (loops : Nat) : List Stmt → List Remark
  | [] => []
  | s :: ss => s.remarks loops ++ remarksIn loops ss

end

/-- A warning and the line that it is given for. -/
structure Warning where
  message : Text
  line : Nat
  deriving DecidableEq, Repr

def warningsOf : List Remark → List Warning
  | [] | .refusal :: _ => []
  | .warning message line :: remarks => ⟨message, line⟩ :: warningsOf remarks

def Program.warnings (program : Program) : List Warning := warningsOf (remarksIn 0 program)

namespace Warning

def text (warning : Warning) (fileName : Text) : Text :=
  fileName ++ ':' :: ofNat warning.line ++ ": SyntaxWarning: ".toList ++ warning.message ++ ['\n']

/-- The error that a warning is where warnings are errors. -/
def thrown (warning : Warning) (fileName : Text) : Thrown :=
  .ofCause (.ofRefusal fileName (.fault ⟨.other .grammar warning.message, warning.line⟩))

def write (warning : Warning) (fileName : Text) (state : State Space) : Option Thrown × State Space :=
  if state.streams.err.closed then (some (.ofCause ⟨.valueError, Eval.closedMessage⟩), state)
  else (none, { state with streams := state.streams.write .err (warning.text fileName) })

def give (warning : Warning) (fileName : Text) (state : State Space) : Option Thrown × State Space :=
  match state.space.filter with
  | .shown => warning.write fileName state
  | .hidden => (none, state)
  | .raised => (some (warning.thrown fileName), state)
  | .shownOnce messages =>
    if messages.contains warning.message then (none, state)
    else
      warning.write fileName { state with
        space := { state.space with filter := .shownOnce (warning.message :: messages) } }

/-- Gives warnings in turn, up to the first one that is an error. -/
def giveAll (fileName : Text) : List Warning → State Space → Option Thrown × State Space
  | [], state => (none, state)
  | warning :: warnings, state =>
    match warning.give fileName state with
    | (none, state) => giveAll fileName warnings state
    | ended => ended

end Warning

/-- Gives the compiler's warnings for a script that is read. Those of the reader itself, for unknown escapes and
for numbers that run into words, are hidden unless a filter asks for them, and are left out. -/
def warn (fileName source : Text) (state : State Space) : Option Thrown × State Space :=
  match Program.parse source with
  | .ok program => Warning.giveAll fileName program.warnings state
  | .error _ => (none, state)

end DocExamples.Script
