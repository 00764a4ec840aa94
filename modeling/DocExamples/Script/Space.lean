import DocExamples.Script.Value

namespace DocExamples.Script

open Text

/-- What becomes of warnings. -/
inductive Filter
  | shown
  | hidden
  /-- A warning is an error. -/
  | raised
  /-- A warning is shown unless its message was shown before. -/
  | shownOnce (messages : List Text)
  deriving DecidableEq, Repr

/-- A namespace in the order in which its names were first set, the store its values refer to, and what
becomes of warnings. A run in another namespace starts with warnings shown. -/
structure Space where
  names : List (Text × Value)
  cells : List Cell
  filter : Filter
  deriving DecidableEq, Repr

namespace Space

/-- Gives a name a value, in its place if it has one already. -/
def setName (name : Text) (value : Value) : List (Text × Value) → List (Text × Value)
  | [] => [(name, value)]
  | entry :: entries =>
    if entry.1 = name then (name, value) :: entries else entry :: setName name value entries

def set (space : Space) (name : Text) (value : Value) : Space :=
  { space with names := setName name value space.names }

def fresh : Space :=
  { names := [("__name__".toList, .str "__doctest__".toList)], cells := [], filter := .shown }

def itemsOf (cells : List Cell) (cell : Nat) : List Value :=
  match cells[cell]? with
  | some (.items values) => values
  | _ => []

def entriesOf (cells : List Cell) (cell : Nat) : List (Value × Value) :=
  match cells[cell]? with
  | some (.entries pairs) => pairs
  | _ => []

end Space

end DocExamples.Script
