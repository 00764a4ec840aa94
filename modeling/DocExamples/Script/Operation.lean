import DocExamples.Script.Machine
import DocExamples.Script.Program

namespace DocExamples.Script

open Text

def betweenTypes (left right : Value) : Text :=
  '\x27' :: left.typeName.toList ++ "' and '".toList ++ right.typeName.toList ++ ['\x27']

def quotedType (value : Value) : Text := '\x27' :: value.typeName.toList ++ ['\x27']

def textOrder : Text → Text → Ordering
  | [], [] => .eq
  | [], _ :: _ => .lt
  | _ :: _, [] => .gt
  | a :: as, b :: bs => if a = b then textOrder as bs else if a < b then .lt else .gt

namespace Relation

def holds : Relation → Ordering → Bool
  | equal, order => order == .eq
  | notEqual, order => order != .eq
  | less, order => order == .lt
  | lessOrEqual, order => order != .gt
  | greater, order => order == .gt
  | greaterOrEqual, order => order != .lt

def sign : Relation → String
  | equal => "=="
  | notEqual => "!="
  | less => "<"
  | lessOrEqual => "<="
  | greater => ">"
  | greaterOrEqual => ">="

end Relation

def Operator.sign : Operator → String
  | .add => "+"
  | .subtract => "-"
  | .multiply => "*"
  | .floorDivide => "//"

namespace Value

def truth (cells : List Cell) : Value → Bool
  | none => false
  | bool b => b
  | int n => n != 0
  | str t => !t.isEmpty
  | tuple cell | list cell => !(Space.itemsOf cells cell).isEmpty
  | dict cell => !(Space.entriesOf cells cell).isEmpty
  | range r => r.length != 0
  | _ => true

/-- Whether two lists have the same length and are related item by item. -/
def allPairs (related : Value → Value → Bool) : List Value → List Value → Bool
  | [], [] => true
  | a :: as, b :: bs => related a b && allPairs related as bs
  | _, _ => false

/-- Equality of values; the fuel bounds the depth. -/
def equal (cells : List Cell) : (fuel : Nat) → Value → Value → Bool
  | 0, a, b => a == b
  | fuel + 1, a, b =>
    match a.number?, b.number? with
    | some m, some n => m == n
    | _, _ =>
      match a, b with
      | tuple c, tuple d => allPairs (equal cells fuel) (Space.itemsOf cells c) (Space.itemsOf cells d)
      | list c, list d => allPairs (equal cells fuel) (Space.itemsOf cells c) (Space.itemsOf cells d)
      | dict c, dict d =>
        let left := Space.entriesOf cells c
        let right := Space.entriesOf cells d
        left.length == right.length && left.all fun (key, value) =>
          right.any fun (otherKey, otherValue) =>
            equal cells fuel key otherKey && equal cells fuel value otherValue
      | range r, range s => r.same s
      | a, b => a == b

/-- The first items in which two lists differ, or how their lengths compare. -/
def firstDifference (same : Value → Value → Bool) :
    List Value → List Value → Sum (Value × Value) Ordering
  | a :: as, b :: bs => if same a b then firstDifference same as bs else .inl (a, b)
  | [], [] => .inr .eq
  | [], _ :: _ => .inr .lt
  | _ :: _, [] => .inr .gt

/-- Whether one value stands before or after another one, or the two values that have no order. -/
def ordered (cells : List Cell) (relation : Relation) :
    (fuel : Nat) → Value → Value → Except (Value × Value) Bool
  | 0, a, b => .error (a, b)
  | fuel + 1, a, b =>
    let inTurn (c d : Nat) : Except (Value × Value) Bool :=
      match firstDifference (equal cells fuel) (Space.itemsOf cells c) (Space.itemsOf cells d) with
      | .inl (a, b) => ordered cells relation fuel a b
      | .inr order => .ok (relation.holds order)
    match a.number?, b.number? with
    | some m, some n => .ok (relation.holds (compare m n))
    | _, _ =>
      match a, b with
      | str s, str t => .ok (relation.holds (textOrder s t))
      | tuple c, tuple d => inTurn c d
      | list c, list d => inTurn c d
      | a, b => .error (a, b)

/-- Whether a value may be a key: lists and dictionaries may not, nor tuples that hold them. -/
def keyFault? (cells : List Cell) : (fuel : Nat) → Value → Option Value
  | 0, _ => Option.none
  | fuel + 1, value =>
    match value with
    | list _ | dict _ => some value
    | tuple cell => (Space.itemsOf cells cell).findSome? (keyFault? cells fuel)
    | _ => Option.none

end Value

namespace Eval

def depth : Eval Nat := return (← cells).length + 2

def related (relation : Relation) (a b : Value) : Eval Bool := do
  let cells ← cells
  let depth ← depth
  match relation with
  | .equal => return Value.equal cells depth a b
  | .notEqual => return !Value.equal cells depth a b
  | relation =>
    match Value.ordered cells relation depth a b with
    | .ok result => return result
    | .error (a, b) =>
      typeError ('\x27' :: relation.sign.toList ++ "' not supported between instances of ".toList ++
        betweenTypes a b)

def itemsOf? (value : Value) : Eval (Option (List Value)) := do
  match value with
  | .tuple cell | .list cell => return some (← items cell)
  | .dict cell => return some ((← entries cell).map (·.1))
  | .range range => return some (range.items.map .int)
  | .str text => return some (text.map fun c => .str [c])
  | _ => return none

def itemsOf (value : Value) : Eval (List Value) := do
  match ← itemsOf? value with
  | some items => return items
  | none => typeError (quotedType value ++ " object is not iterable".toList)

def checkKey (key : Value) : Eval Unit := do
  match Value.keyFault? (← cells) (← depth) key with
  | some fault => typeError ("unhashable type: ".toList ++ quotedType fault)
  | none => return

def contains (whole item : Value) : Eval Bool := do
  let cells ← cells
  let depth ← depth
  match whole with
  | .tuple cell | .list cell => return (← items cell).any (Value.equal cells depth item)
  | .dict cell =>
    checkKey item
    return (← entries cell).any fun entry => Value.equal cells depth entry.1 item
  | .range range => return item.number?.any range.contains
  | .str text =>
    match item with
    | .str part => return isPart part text
    | item =>
      typeError ("'in <string>' requires string as left operand, not ".toList ++
        item.typeName.toList)
  | whole => typeError ("argument of type ".toList ++ quotedType whole ++ " is not iterable".toList)

/-- Whether a comparison holds. Numbers and texts are identical where they are equal. -/
def compare (comparison : Comparison) (a b : Value) : Eval Bool := do
  match comparison with
  | .related relation => related relation a b
  | .contained => contains b a
  | .notContained => return !(← contains b a)
  | .identical => return a == b
  | .notIdentical => return a != b

def unsupported {α : Type} (sign : String) (a b : Value) : Eval α :=
  typeError ("unsupported operand type(s) for ".toList ++ sign.toList ++ ": ".toList ++
    betweenTypes a b)

def onlyConcatenates {α : Type} (a b : Value) : Eval α :=
  typeError ("can only concatenate ".toList ++ a.typeName.toList ++ " (not \"".toList ++
    b.typeName.toList ++ "\") to ".toList ++ a.typeName.toList)

def isSequence : Value → Bool
  | .str _ | .list _ | .tuple _ => true
  | _ => false

def repeated {α : Type} (count : Int) (items : List α) : List α :=
  if items.isEmpty then [] else (List.replicate count.toNat items).flatten

/-- The greatest number that counts or finds items. -/
def greatestIndex : Int := 0x7fffffffffffffff

/-- The most items for which there is room. -/
def greatestRoom : Int := 0x1000000000

def checkIndex (type : ErrorType) (n : Int) : Eval Unit := do
  if greatestIndex < n || n < -greatestIndex - 1 then
    raise type "cannot fit 'int' into an index-sized integer".toList

def checkRoom (length : Nat) (count : Int) : Eval Unit := do
  if greatestRoom < length * count then throw ⟨.memoryError, []⟩

def repeatSequence (sequence : Value) (count : Int) : Eval Value := do
  checkIndex .overflowError count
  match sequence with
  | .str text =>
    if greatestIndex < text.length * count then
      raise .overflowError "repeated string is too long".toList
    checkRoom text.length count
    return .str (repeated count text)
  | .list cell =>
    let items ← items cell
    checkRoom items.length count
    newList (repeated count items)
  | .tuple cell =>
    let items ← items cell
    checkRoom items.length count
    newTuple (repeated count items)
  | other => return other

def add (sign : String) (a b : Value) : Eval Value := do
  match a.number?, b.number? with
  | some m, some n => return .int (m + n)
  | _, _ =>
    match a, b with
    | .str s, .str t => return .str (s ++ t)
    | .list c, .list d => newList ((← items c) ++ (← items d))
    | .tuple c, .tuple d => newTuple ((← items c) ++ (← items d))
    | a, b => if isSequence a then onlyConcatenates a b else unsupported sign a b

def multiply (sign : String) (a b : Value) : Eval Value := do
  match a.number?, b.number? with
  | some m, some n => return .int (m * n)
  | _, count =>
    let refuse (count : Value) : Eval Value :=
      typeError ("can't multiply sequence by non-int of type ".toList ++ quotedType count)
    if isSequence a then
      match count with
      | some n => repeatSequence a n
      | none => refuse b
    else if isSequence b then
      match a.number? with
      | some n => repeatSequence b n
      | none => refuse a
    else unsupported sign a b

/-- An operation on two values; `sign` is how a message names it. -/
def binary (sign : String) (operator : Operator) (a b : Value) : Eval Value := do
  match operator with
  | .add => add sign a b
  | .multiply => multiply sign a b
  | .subtract =>
    match a.number?, b.number? with
    | some m, some n => return .int (m - n)
    | _, _ => unsupported sign a b
  | .floorDivide =>
    match a.number?, b.number? with
    | some m, some n =>
      if n = 0 then raise .zeroDivisionError "integer division or modulo by zero".toList
      else return .int (Int.fdiv m n)
    | _, _ => unsupported sign a b

/-- An operation that replaces its left operand; a list takes further items, or its own ones again, in
its place. -/
def augment (operator : Operator) (a b : Value) : Eval Value := do
  match operator, a, b.number? with
  | .add, .list cell, _ =>
    let further ← itemsOf b
    store cell (.items ((← items cell) ++ further))
    return a
  | .multiply, .list cell, some count =>
    checkIndex .overflowError count
    let own ← items cell
    checkRoom own.length count
    store cell (.items (repeated count own))
    return a
  | operator, a, _ => binary (operator.sign ++ "=") operator a b

def signed (sign : String) (change : Int → Int) (value : Value) : Eval Value := do
  match value.number? with
  | some n => return .int (change n)
  | none =>
    typeError ("bad operand type for unary ".toList ++ sign.toList ++ ": ".toList ++ quotedType value)

/-- The place of an index among some number of items, counted from the end if negative. -/
def placeOf? (length : Nat) (index : Int) : Option Nat :=
  let index := if index < 0 then index + length else index
  if 0 ≤ index && index < length then some index.toNat else none

/-- Fails for an index beyond the items of a sequence called `kind`. -/
def outOfRange {α : Type} (kind : String) : Eval α :=
  raise .indexError (kind.toList ++ " index out of range".toList)

/-- The number that finds an item; `wrong` is what is said of a value that is none. -/
def indexNumber (index : Value) (wrong : Text) : Eval Int := do
  match index.number? with
  | some n => return n
  | none => typeError wrong

/-- The item at an index of a sequence called `kind`. -/
def itemAt {α : Type} (kind : String) (items : List α) (index : Int) : Eval α := do
  checkIndex .indexError index
  match (placeOf? items.length index).bind (items[·]?) with
  | some item => return item
  | none => outOfRange kind

def indicesOf (kind : String) (index : Value) : Text :=
  kind.toList ++ " indices must be integers or slices, not ".toList ++ index.typeName.toList

def subscript (target index : Value) : Eval Value := do
  match target with
  | .list cell => itemAt "list" (← items cell) (← indexNumber index (indicesOf "list" index))
  | .tuple cell => itemAt "tuple" (← items cell) (← indexNumber index (indicesOf "tuple" index))
  | .str text =>
    let wrong := "string indices must be integers, not ".toList ++ quotedType index
    return .str [← itemAt "string" text (← indexNumber index wrong)]
  | .range range =>
    match placeOf? range.length (← indexNumber index (indicesOf "range" index)) with
    | some place => return .int (range.item place)
    | none => outOfRange "range object"
  | .dict cell =>
    checkKey index
    let cells ← cells
    let depth ← depth
    match (← entries cell).find? fun entry => Value.equal cells depth entry.1 index with
    | some entry => return entry.2
    | none => throw ⟨.keyError, [index]⟩
  | target => typeError (quotedType target ++ " object is not subscriptable".toList)

/-- Entries with a further one, which takes the place of one of an equal key. -/
def putEntry (same : Value → Value → Bool) (key value : Value) :
    List (Value × Value) → List (Value × Value)
  | [] => [(key, value)]
  | entry :: entries =>
    if same entry.1 key then (entry.1, value) :: entries
    else entry :: putEntry same key value entries

def newDict (pairs : List (Value × Value)) : Eval Value := do
  for pair in pairs do checkKey pair.1
  let cells ← cells
  let depth ← depth
  let entries := pairs.foldl
    (fun entries pair => putEntry (Value.equal cells depth) pair.1 pair.2 entries) []
  return .dict (← allocate (.entries entries))

end Eval

end DocExamples.Script
