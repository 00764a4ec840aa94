import DocExamples.Script.Call
import DocExamples.Script.Compile

namespace DocExamples.Script

open Text

namespace Eval

/-- Waits for a value. A pause is over at once, and is waited for only once. -/
def wait (value : Value) : Eval Value := do
  match value with
  | .pause cell =>
    match ← items cell with
    | [delay, result] =>
      store cell (.items [])
      let _ ← related .lessOrEqual delay (.int 0)
      return result
    | _ => raise .runtimeError "cannot reuse already awaited coroutine".toList
  | value =>
    typeError ("object ".toList ++ value.typeName.toList ++
      " can't be used in 'await' expression".toList)

def truthOf (value : Value) : Eval Bool := return value.truth (← cells)

mutual

def expr : Expr → Eval Value
  | .none => return .none
  | .bool b => return .bool b
  | .int n => return .int n
  | .str text => return .str text
  | .name name => lookUp name
  | .tuple items => do newTuple (← exprs items)
  | .list items => do newList (← exprs items)
  | .dict entries => do newDict (← pairs entries)
  | .negate operand => do signed "-" (fun n => -n) (← expr operand)
  | .keep operand => do signed "+" id (← expr operand)
  | .invert operand => do return .bool !(← truthOf (← expr operand))
  | .both left right => do
    let left ← expr left
    if ← truthOf left then expr right else return left
  | .either left right => do
    let left ← expr left
    if ← truthOf left then return left else expr right
  | .choice condition value otherwise => do
    if ← truthOf (← expr condition) then expr value else expr otherwise
  | .binary operator left right => do
    let left ← expr left
    binary operator.sign operator left (← expr right)
  | .compare first others _ => do comparisons (← expr first) others
  | .member target name => do memberOf (← expr target) name
  | .subscript target index _ => do
    let target ← expr target
    subscript target (← expr index)
  | .call function arguments named _ => do
    let function ← expr function
    let positional ← exprs arguments
    call function { positional, named := ← namedExprs named }
  | .wait operand => do wait (← expr operand)

def exprs : List Expr → Eval (List Value)
  | [] => return []
  | e :: es => do
    let value ← expr e
    return value :: (← exprs es)

def pairs : List (Expr × Expr) → Eval (List (Value × Value))
  | [] => return []
  | (key, value) :: rest => do
    let key ← expr key
    let value ← expr value
    return (key, value) :: (← pairs rest)

def namedExprs : List (Keyword × Expr) → Eval (List (Text × Value))
  | [] => return []
  | (keyword, e) :: rest => do
    let value ← expr e
    return (keyword.name, value) :: (← namedExprs rest)

def comparisons (left : Value) : List (Comparison × Expr) → Eval Value
  | [] => return .bool true
  | (comparison, e) :: rest => do
    let right ← expr e
    if ← compare comparison left right then comparisons right rest else return .bool false

end

/-- Whether the statements after one are run, or the loop around it goes on to its next item, or is
left. -/
inductive Flow
  | next
  | nextItem
  | leaveLoop
  deriving DecidableEq, Repr

def loop (body : Value → Eval Flow) : List Value → Eval Bool
  | [] => return false
  | item :: items => do
    match ← body item with
    | .next | .nextItem => loop body items
    | .leaveLoop => return true

/-- Runs the body of a loop for the last integers of a range, and says whether the loop was left. -/
def loopRange (body : Value → Eval Flow) (range : Range) : (left : Nat) → Eval Bool
  | 0 => return false
  | left + 1 => do
    match ← body (.int (range.item (range.length - (left + 1)))) with
    | .next | .nextItem => loopRange body range left
    | .leaveLoop => return true

mutual

def stmt : Stmt → Eval Flow
  | .pass => return .next
  | .expr value => do
    let _ ← expr value
    return .next
  | .assign targets value => do
    let value ← expr value
    for target in targets do setName target value
    return .next
  | .augment target operator value => do
    let old ← lookUp target
    let result ← augment operator old (← expr value)
    setName target result
    return .next
  | .importModules modules => do
    for (path, given) in modules do importModule path given
    return .next
  | .importNames path names => do
    importNames path names
    return .next
  | .raise none => raise .runtimeError "No active exception to reraise".toList
  | .raise (some error) => do
    throw (← toRaise (← expr error))
  | .assert condition message _ => do
    if ← truthOf (← expr condition) then return .next
    match message with
    | none => throw ⟨.assertionError, []⟩
    | some message => throw ⟨.assertionError, [← expr message]⟩
  | .ifElse condition body orelse => do
    if ← truthOf (← expr condition) then block body else block orelse
  | .forEach target items body orelse _ => do
    let each (item : Value) : Eval Flow := do
      setName target item
      block body
    let isLeft ← match ← expr items with
      | .range range => loopRange each range range.length
      | value => do loop each (← itemsOf value)
    if isLeft then return .next else block orelse
  | .leave _ _ => return .next
  | .stopLoop _ => return .leaveLoop
  | .nextItem _ => return .nextItem

def block : List Stmt → Eval Flow
  | [] => return .next
  | s :: ss => do
    match ← stmt s with
    | .next => block ss
    | flow => return flow

end

end Eval

namespace Program

/-- An error that ends a program which waits for values: one that ends a loop of waiting is another
error outside it. -/
def escaped (program : Program) (raised : Raised) : Raised :=
  if raised.type = .stopIteration && anyWaits program then
    ⟨.runtimeError, [.str "coroutine raised StopIteration".toList]⟩
  else raised

/-- Runs a program: the error it ends with, if any, and the state it leaves. -/
def run (program : Program) (state : State Space) : Option Thrown × State Space :=
  match (Eval.block program).run state with
  | (.ok _, state) => (none, state)
  | (.error raised, state) => (some ((program.escaped raised).thrown state.space), state)

end Program

end DocExamples.Script
