import DocExamples.Json
import DocExamples.Script.Arguments

namespace DocExamples.Script

open Text

/-- What the JSON text of a value depends on. -/
structure JsonOptions where
  layout : Json.Layout
  /-- Whether entries are left out whose keys cannot be those of JSON objects. -/
  skipsKeys : Bool
  sortsKeys : Bool
  /-- What makes a value of JSON of one that is none. -/
  convert : Value → Eval Value

namespace Eval

def notSerializable (value : Value) : Eval Value :=
  typeError ("Object of type ".toList ++ value.className.toList ++
    " is not JSON serializable".toList)

def jsonKey? : Value → Option Text
  | .str text => some text
  | .int n => some (ofInt n)
  | .bool b => some (if b then "true" else "false").toList
  | .none => some "null".toList
  | _ => none

def wrongKey {α : Type} (options : JsonOptions) (key : Value) : Eval α :=
  let type := if options.layout.indent.isSome then key.className else key.typeName
  typeError ("keys must be str, int, float, bool or None, not ".toList ++ type.toList)

/-- Entries with a further one before the first of those at their end whose keys are greater. The
entries are in reverse. -/
def insertEntry (entry : Value × Value) : List (Value × Value) → Eval (List (Value × Value))
  | [] => return [entry]
  | last :: before => do
    if ← related .less entry.1 last.1 then return last :: (← insertEntry entry before)
    else return entry :: last :: before

def sortEntries (entries : List (Value × Value)) : Eval (List (Value × Value)) := do
  return (← entries.foldlM (fun sorted entry => insertEntry entry sorted) []).reverse

def checkDigits (value : Value) : Eval Unit := do
  if let .int n := value then
    let _ ← ofShown (ofInt? n)

/-- The JSON value of a value; the fuel bounds the depth, which only a value inside itself exceeds. -/
def json (options : JsonOptions) : (fuel : Nat) → Value → Eval Json
  | 0, _ => raise .valueError "Circular reference detected".toList
  | fuel + 1, value => do
    match value with
    | .none => return .null
    | .bool b => return .bool b
    | .int n =>
      checkDigits (.int n)
      return .int n
    | .str text => return .str text
    | .tuple cell | .list cell => return .arr (← (← items cell).mapM (json options fuel))
    | .dict cell =>
      let entries ← entries cell
      let entries ← if options.sortsKeys then sortEntries entries else pure entries
      let fields ← entries.mapM fun (key, value) => do
        checkDigits key
        match jsonKey? key with
        | some key => return some (key, ← json options fuel value)
        | none => if options.skipsKeys then return none else wrongKey options key
      return .obj (fields.filterMap id)
    | value => json options fuel (← options.convert value)

def indentOf (value : Value) : Eval (Option Text) := do
  match value with
  | .none => return none
  | .str text => return some text
  | value =>
    match value.number? with
    | some n => return some (List.replicate n.toNat ' ')
    | none => typeError ("can't multiply sequence by non-int of type ".toList ++ quotedType value)

def separatorsOf (value : Value) : Eval (Text × Text) := do
  match ← itemsOf? value with
  | none => typeError ("cannot unpack non-iterable ".toList ++ value.typeName.toList ++
      " object".toList)
  | some [comma, colon] => return (← textAt 6 comma, ← textAt 5 colon)
  | some items =>
    if items.length < 2 then
      raise .valueError ("not enough values to unpack (expected 2, got ".toList ++
        ofNat items.length ++ [')'])
    else raise .valueError "too many values to unpack (expected 2)".toList
where
  textAt (index : Nat) (value : Value) : Eval Text := do
    match value with
    | .str text => return text
    | value =>
      typeError ("make_encoder() argument ".toList ++ ofNat index ++ " must be str, not ".toList ++
        value.typeName.toList)

def jsonParameters : Parameters :=
  { function := "dumps"
    required := "obj"
    optional := []
    named := ["skipkeys", "ensure_ascii", "check_circular", "allow_nan", "cls", "indent",
      "separators", "default", "sort_keys"]
    isOpen := true }

/-- The options that arguments by name set. A function that is set to convert values is called by
`call`. -/
def jsonOptions (call : Value → Value → Eval Value) (named : List (Text × Value)) :
    Eval JsonOptions := do
  let cells ← cells
  let isSet (name : String) (standard : Bool) : Bool :=
    ((named.lookup name.toList).map (Value.truth cells)).getD standard
  let valueOf (name : String) : Value := (named.lookup name.toList).getD .none
  let known := jsonParameters.named
  if let some (name, _) := named.find? fun entry => !known.any (·.toList == entry.1) then
    typeError ("JSONEncoder.__init__() got an unexpected keyword argument '".toList ++ name ++
      ['\x27'])
  let indent ← indentOf (valueOf "indent")
  let standard := if indent.isSome then Json.Layout.indented else Json.Layout.line
  let (comma, colon) ← match valueOf "separators" with
    | .none => pure (standard.comma, standard.colon)
    | value => separatorsOf value
  return {
    layout := { indent, comma, colon, isAscii := isSet "ensure_ascii" true }
    skipsKeys := isSet "skipkeys" false
    sortsKeys := isSet "sort_keys" false
    convert := match valueOf "default" with
      | .none => notSerializable
      | function => call function }

def serialize (call : Value → Value → Eval Value) (arguments : Arguments) : Eval Value := do
  let (values, named) ← jsonParameters.take arguments
  let options ← jsonOptions call named
  match values with
  | some value :: _ => return .str ((← json options (← depth) value).render options.layout)
  | _ => return .none

end Eval

end DocExamples.Script
