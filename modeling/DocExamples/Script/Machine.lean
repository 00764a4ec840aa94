import DocExamples.Language
import DocExamples.Script.Display

namespace DocExamples.Script

open Text Console

/-- An error on its way out of a script, before it is asked for its text. -/
structure Raised where
  type : ErrorType
  arguments : List Value
  deriving DecidableEq, Repr

def Raised.thrown (space : Space) (raised : Raised) : Thrown :=
  ⟨raised.type, space.errorText raised.type raised.arguments⟩

/-- A computation of a script. -/
abbrev Eval := ExceptT Raised (StateM (State Space))

namespace Eval

def raise {α : Type} (type : ErrorType) (message : Text) : Eval α :=
  throw ⟨type, [.str message]⟩

def typeError {α : Type} (message : Text) : Eval α := raise .typeError message

def cells : Eval (List Cell) := return (← get).space.cells

def allocate (cell : Cell) : Eval Nat := do
  let state ← get
  set { state with space := { state.space with cells := state.space.cells ++ [cell] } }
  return state.space.cells.length

def store (number : Nat) (cell : Cell) : Eval Unit :=
  modify fun state =>
    { state with space := { state.space with cells := state.space.cells.set number cell } }

def items (cell : Nat) : Eval (List Value) := return Space.itemsOf (← cells) cell

def entries (cell : Nat) : Eval (List (Value × Value)) := return Space.entriesOf (← cells) cell

def newList (values : List Value) : Eval Value := return .list (← allocate (.items values))

def newTuple (values : List Value) : Eval Value := return .tuple (← allocate (.items values))

def setName (name : Text) (value : Value) : Eval Unit :=
  modify fun state => { state with space := state.space.set name value }

def setFilter (filter : Filter) : Eval Unit :=
  modify fun state => { state with space := { state.space with filter } }

def closedMessage : Text := "I/O operation on closed file".toList

def isClosed (stream : Stream) : Eval Bool := return ((← get).streams.of stream).closed

def write (stream : Stream) (text : Text) : Eval Unit := do
  if ← isClosed stream then raise .valueError closedMessage
  modify fun state => { state with streams := state.streams.write stream text }

def close (stream : Stream) : Eval Unit :=
  modify fun state => { state with streams := state.streams.close stream }

/-- A text, unless it would hold a number of too many digits. -/
def ofShown : Option Text → Eval Text
  | some text => return text
  | none => raise .valueError (limitMessage none)

end Eval

end DocExamples.Script
