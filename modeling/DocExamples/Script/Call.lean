import DocExamples.Script.Library
import DocExamples.Script.Numeral
import DocExamples.Script.Serialization
import DocExamples.Text.Case

namespace DocExamples.Script

open Text

namespace Eval

def textOf (value : Value) : Eval Text := do ofShown ((← get).space.text value)

def reprOf (value : Value) : Eval Text := do ofShown ((← get).space.repr value)

/-- The text that an argument of `print` sets, or the one that stands for nothing. -/
def separator (name default : String) (named : List (Text × Value)) : Eval Text := do
  match named.lookup name.toList with
  | none | some .none => return default.toList
  | some (.str text) => return text
  | some value =>
    typeError (name.toList ++ " must be None or a string, not ".toList ++ value.typeName.toList)

/-- Writes a text to a value, which needs a member for that before the text is made. -/
def writeTo (target : Value) (text : Eval Text) : Eval Unit := do
  match target with
  | .stream stream => write stream (← text)
  | target =>
    let _ ← memberOf target "write".toList
    return

/-- Writes values one after another, each as it is printed, with a text between them. -/
def printAll (target : Value) (between : Text) : List Value → Eval Unit
  | [] => return
  | [value] => writeTo target (textOf value)
  | value :: values => do
    writeTo target (textOf value)
    writeTo target (pure between)
    printAll target between values

def print (arguments : Arguments) : Eval Value := do
  let known := ["sep", "end", "file", "flush"].map String.toList
  match arguments.named.find? fun entry => !known.contains entry.1 with
  | some (name, _) => typeError (Slots.unknownMessage "print" name)
  | none =>
    let between ← separator "sep" " " arguments.named
    let last ← separator "end" "\n" arguments.named
    let target := match arguments.named.lookup "file".toList with
      | none | some .none => .stream .out
      | some target => target
    printAll target between arguments.positional
    writeTo target (pure last)
    return .none

def length (value : Value) : Eval Value := do
  match value with
  | .str text => return .int text.length
  | .range range =>
    if range.length ≤ greatestIndex then return .int range.length
    else raise .overflowError "Python int too large to convert to C ssize_t".toList
  | value =>
    match ← itemsOf? value with
    | some items => return .int items.length
    | none => typeError ("object of type ".toList ++ quotedType value ++ " has no len()".toList)

def toText (arguments : Arguments) : Eval Value := do
  let slots : Slots := { function := "str", required := 0, names := ["object", "encoding", "errors"] }
  let filled ← slots.fill arguments
  for (name, value) in [("encoding", filled[1]?), ("errors", filled[2]?)] do
    match value with
    | none | some none | some (some (.str _)) => pure ()
    | some (some value) =>
      let type := if value == .none then "None" else value.typeName
      typeError ("str() argument '".toList ++ name.toList ++ "' must be str, not ".toList ++
        type.toList)
  match filled with
  | [none, _, _] => return .str []
  | [some value, none, none] => return .str (← textOf value)
  | some (.str _) :: _ => typeError "decoding str is not supported".toList
  | some value :: _ =>
    typeError ("decoding to str: need a bytes-like object, ".toList ++ value.typeName.toList ++
      " found".toList)
  | _ => return .str []

def integerOf (text : Text) (base : Nat) : Eval Value := do
  match overlong? base text, readInteger? base text with
  | some digits, _ => raise .valueError (limitMessage (some digits))
  | none, some n => return .int n
  | none, none =>
    raise .valueError ("invalid literal for int() with base ".toList ++ ofNat base ++ ": ".toList ++
      (quote text).take 200)

def toInteger (arguments : Arguments) : Eval Value := do
  let slots : Slots := { function := "int", required := 0, names := ["", "base"] }
  match ← slots.fill arguments with
  | [none, some _] => typeError "int() missing string argument".toList
  | [some value, some base] =>
    let base ← indexOf base
    if base ≠ 0 && (base < 2 || 36 < base) then
      raise .valueError "int() base must be >= 2 and <= 36, or 0".toList
    match value with
    | .str text => integerOf text base.toNat
    | _ => typeError "int() can't convert non-string with explicit base".toList
  | some (.str text) :: _ => integerOf text 10
  | some value :: _ =>
    match value.number? with
    | some n => return .int n
    | none =>
      typeError ("int() argument must be a string, a bytes-like object or a real number, not ".toList
        ++ quotedType value)
  | _ => return .int 0

def sum (arguments : Arguments) : Eval Value := do
  let slots : Slots := { function := "sum", required := 1, names := ["", "start"] }
  match ← slots.fill arguments with
  | [some values, start] =>
    let items ← itemsOf values
    match start with
    | some (.str _) => typeError "sum() can't sum strings [use ''.join(seq) instead]".toList
    | start => items.foldlM (add "+") (start.getD (.int 0))
  | _ => return .int 0

def range (arguments : Arguments) : Eval Value := do
  match ← Arguments.between "range" 1 3 (← arguments.unnamed "range") with
  | [stop] => return .range { start := 0, stop := ← indexOf stop, step := 1 }
  | [start, stop] => return .range { start := ← indexOf start, stop := ← indexOf stop, step := 1 }
  | [start, stop, step] =>
    let start ← indexOf start
    let stop ← indexOf stop
    let step ← indexOf step
    if step = 0 then raise .valueError "range() arg 3 must not be zero".toList
    return .range { start, stop, step }
  | _ => return .none

/-- Leaves the run with a status. -/
def exit (arguments : Arguments) : Eval Value := do
  let values ← Arguments.between "exit" 0 1 (← arguments.unnamed "sys.exit")
  throw (← leaving (values.headD .none))

def pathEnd (arguments : Arguments) : Eval Value := do
  let parameters : Parameters :=
    { function := "basename", required := "p", optional := [], named := [], isOpen := false }
  match ← parameters.take arguments with
  | (some (.str text) :: _, _) => return .str (afterLast '/' text)
  | (some path :: _, _) =>
    typeError ("expected str, bytes or os.PathLike object, not ".toList ++ path.className.toList)
  | _ => return .none

/-- A pause of some length, with the value that waiting for it has. -/
def sleep (arguments : Arguments) : Eval Value := do
  let parameters : Parameters :=
    { function := "sleep", required := "delay", optional := ["result"], named := [], isOpen := false }
  let (values, _) ← parameters.take arguments
  return .pause (← allocate (.items (values.map (·.getD .none))))

def setWarnings (arguments : Arguments) : Eval Value := do
  let parameters : Parameters :=
    { function := "simplefilter", required := "action", optional := [], named := [], isOpen := false }
  let known : List (String × Filter) :=
    [("error", .raised), ("ignore", .hidden), ("always", .shown), ("default", .shown),
      ("module", .shown), ("once", .shownOnce [])]
  match ← parameters.take arguments with
  | (some action :: _, _) =>
    match known.find? fun entry => action == .str entry.1.toList with
    | some entry =>
      setFilter entry.2
      return .none
    | none => raise .assertionError ("invalid action: ".toList ++ (← reprOf action))
  | _ => return .none

/-- Calls a function; `convert` calls the one that is set to convert values. -/
def callFunction (convert : Value → Value → Eval Value) (function : Function)
    (arguments : Arguments) : Eval Value := do
  match function with
  | .print => print arguments
  | .str => toText arguments
  | .repr => return .str (← reprOf (← arguments.single "repr"))
  | .len => length (← arguments.single "len")
  | .sum => sum arguments
  | .int => toInteger arguments
  | .range => range arguments
  | .exit => exit arguments
  | .dumps => serialize convert arguments
  | .basename => pathEnd arguments
  | .sleep => sleep arguments
  | .simplefilter => setWarnings arguments

def join (between : Text) (value : Value) : Eval Value := do
  match ← itemsOf? value with
  | none => typeError "can only join an iterable".toList
  | some items =>
    let texts ← items.zipIdx.mapM fun (item, index) =>
      match item with
      | .str text => (return text : Eval Text)
      | other =>
        typeError ("sequence item ".toList ++ ofNat index ++ ": expected str instance, ".toList ++
          other.typeName.toList ++ " found".toList)
    return .str (joinWith between texts)

def callMethod (owner : Value) (method : Method) (arguments : Arguments) : Eval Value := do
  match method, owner with
  | .append, .list cell =>
    let item ← arguments.single method.name
    store cell (.items ((← items cell) ++ [item]))
    return .none
  | .join, .str between => join between (← arguments.single method.name)
  | .upper, .str text =>
    arguments.nothing method.name
    return .str (upper text)
  | .write, .stream stream =>
    match ← arguments.single method.name with
    | .str text =>
      write stream text
      return .int text.length
    | other => typeError ("string argument expected, got ".toList ++ quotedType other)
  | .close, .stream stream =>
    arguments.nothing method.name
    close stream
    return .none
  | .flush, .stream stream =>
    arguments.nothing method.name
    if ← isClosed stream then raise .valueError (closedMessage ++ ['.'])
    return .none
  | method, _ =>
    arguments.nothing method.name
    return .none

def callWith (convert : Value → Value → Eval Value) (function : Value) (arguments : Arguments) :
    Eval Value := do
  match function with
  | .function function => callFunction convert function arguments
  | .method owner method => callMethod owner method arguments
  | .errorType type => errorValue (← makeError type arguments)
  | value => typeError (quotedType value ++ " object is not callable".toList)

def call (function : Value) (arguments : Arguments) : Eval Value :=
  callWith (fun function value => callWith (fun _ => notSerializable) function (.ofValues [value]))
    function arguments

end Eval

end DocExamples.Script
