import DocExamples.Text.Number

namespace DocExamples.Toml

open Text

/-- A value. Of fractions, dates and times only their kind is kept. -/
inductive Value
  | string (text : Text)
  | integer (value : Int)
  | boolean (value : Bool)
  | fraction
  | dateTime
  | date
  | time
  | array (items : List Value)
  | table (entries : List (Text × Value))

abbrev Table := List (Text × Value)

abbrev Key := List Text

namespace Table

/-- Puts a value in the place of the one that a name has. -/
def replace (name : Text) (value : Value) : Table → Table
  | [] => []
  | entry :: entries =>
    if entry.1 = name then (name, value) :: entries else entry :: replace name value entries

/-- Changes the table to which a key leads; tables on the way that are missing are made. With
`throughArrays`, an array on the way stands for its last table. `none` if something else is there. -/
def modify (throughArrays : Bool) (change : Table → Option Table) : Key → Table → Option Table
  | [], table => change table
  | name :: key, table =>
    match table.lookup name with
    | none => (modify throughArrays change key []).map fun inner => table ++ [(name, .table inner)]
    | some (.table inner) =>
      (modify throughArrays change key inner).map fun inner => replace name (.table inner) table
    | some (.array items) =>
      match throughArrays, items.getLast? with
      | true, some (.table inner) =>
        (modify throughArrays change key inner).map fun inner =>
          replace name (.array (items.dropLast ++ [.table inner])) table
      | _, _ => none
    | some _ => none

def add (name : Text) (value : Value) (table : Table) : Option Table :=
  match table.lookup name with
  | some _ => none
  | none => some (table ++ [(name, value)])

/-- Adds an empty table to the array under a name, which is made if the name is free. -/
def addToArray (name : Text) (table : Table) : Option Table :=
  match table.lookup name with
  | none => some (table ++ [(name, .array [.table []])])
  | some (.array items) => some (replace name (.array (items ++ [.table []])) table)
  | some _ => none

end Table

end DocExamples.Toml
