import DocExamples.Script.Space
import DocExamples.Text.Quoted

namespace DocExamples.Script.Space

open Text

private def comma : Text := [',', ' ']

/-- A name between angle brackets, after what it is a name of. -/
private def tagged (kind : String) (name : String) : Text :=
  '<' :: kind.toList ++ ' ' :: name.toList ++ ['>']

def isFile (type : ErrorType) (file : Value) : Bool :=
  file != .none && !(type == .blockingIOError && file.number?.isSome)

def keptArguments (type : ErrorType) (arguments : List Value) : List Value :=
  match arguments with
  | number :: message :: file :: rest =>
    if type.isKindOf .osError && isFile type file && rest.length ≤ 2 then [number, message]
    else arguments
  | arguments => arguments

/-- How a value is shown inside another one, unless that takes a number of too many digits. A cell that is
being shown already is left out. The fuel bounds the depth. -/
def showInside (cells : List Cell) : (fuel : Nat) → (opened : List Nat) → Value → Option Text
  | 0, _, _ => some "...".toList
  | fuel + 1, opened, value =>
    let shown (cell : Nat) (items : List Value) : Option (List Text) :=
      items.mapM (showInside cells fuel (cell :: opened))
    match value with
    | .none => some "None".toList
    | .bool b => some (if b then "True" else "False").toList
    | .int n => ofInt? n
    | .str t => some (quote t)
    | .tuple cell =>
      if opened.contains cell then some "(...)".toList
      else
        (shown cell (itemsOf cells cell)).map fun
          | [item] => '(' :: item ++ [',', ')']
          | items => '(' :: joinWith comma items ++ [')']
    | .list cell =>
      if opened.contains cell then some "[...]".toList
      else
        (shown cell (itemsOf cells cell)).map fun items => '[' :: joinWith comma items ++ [']']
    | .dict cell =>
      if opened.contains cell then some ['\x7b', '.', '.', '.', '\x7d']
      else do
        let entries ← (entriesOf cells cell).mapM fun (key, value) => do
          let key ← showInside cells fuel (cell :: opened) key
          return key ++ ": ".toList ++ (← showInside cells fuel (cell :: opened) value)
        return '\x7b' :: joinWith comma entries ++ ['\x7d']
    | .range range => do
      let start ← ofInt? range.start
      let stop ← ofInt? range.stop
      let steps ← if range.step = 1 then some [] else (ofInt? range.step).map (comma ++ ·)
      return "range(".toList ++ start ++ comma ++ stop ++ steps ++ [')']
    | .module m =>
      let origin := match m.origin with
        | some origin => " (".toList ++ origin.toList ++ [')']
        | none => []
      some ("<module '".toList ++ m.name.toList ++ '\x27' :: origin ++ ['>'])
    | .function f =>
      if f.isType then some (tagged "class" ("'" ++ f.name ++ "'"))
      else if f.isDefined then some (tagged "function" f.name)
      else some (tagged "built-in function" f.name)
    | .errorType type => some (tagged "class" ("'" ++ type.name ++ "'"))
    | .error type arguments =>
      (shown arguments (keptArguments type (itemsOf cells arguments))).map fun items =>
        type.name.toList ++ '(' :: joinWith comma items ++ [')']
    | other => some (tagged other.typeName "object")

def repr (space : Space) (value : Value) : Option Text :=
  showInside space.cells (space.cells.length + 2) [] value

/-- The files that a system error is about, of the arguments after its text: the first and the third
one. -/
def filesOf (type : ErrorType) (arguments : List Value) : List Value :=
  match arguments with
  | file :: rest => if isFile type file then file :: (rest.drop 1).filter (· != .none) else []
  | [] => []

/-- The text of a system error: a number, a message, and the files it is about. -/
def systemText (text repr : Value → Option Text) (number message : Value) (files : List Value) :
    Option Text := do
  let number ← text number
  let message ← text message
  let start := "[Errno ".toList ++ number ++ "] ".toList ++ message
  match ← files.mapM repr with
  | [] => return start
  | files => return start ++ ": ".toList ++ joinWith " -> ".toList files

def placedText (message : Text) (details : List Value) : Text :=
  let file : List Text := match details with
    | .str file :: _ => [afterLast '/' file]
    | _ => []
  let line : List Text := match details with
    | _ :: .int n :: _ => ["line ".toList ++ ofInt n]
    | _ => []
  match file ++ line with
  | [] => message
  | place => message ++ " (".toList ++ joinWith comma place ++ [')']

/-- How the characters from one place to another are named in the text of an error. -/
def charactersText (verb : String) (text : Text) (start stop : Int) (reason : Text) : Text :=
  let spot := text[start.toNat]?
  "can't ".toList ++ verb.toList ++ " character".toList ++
    match spot with
    | some c =>
      if stop = start + 1 && 0 ≤ start then
        " '\\".toList ++
          (if c.toNat ≤ 0xFF then 'x' :: hexDigits 2 c.toNat
            else if c.toNat ≤ 0xFFFF then 'u' :: hexDigits 4 c.toNat
            else 'U' :: hexDigits 8 c.toNat) ++
          "' in position ".toList ++ ofInt start ++ ": ".toList ++ reason
      else several start stop reason
    | none => several start stop reason
where
  several (start stop : Int) (reason : Text) : Text :=
    "s in position ".toList ++ ofInt start ++ '-' :: ofInt (stop - 1) ++ ": ".toList ++ reason

/-- The text of an error with some arguments, unless it takes a number of too many digits: a single one as
it is printed, several like a tuple. The fuel bounds how deep errors hold others. -/
def errorTextWithin (space : Space) : (fuel : Nat) → ErrorType → List Value → Option Text
  | 0, _, _ => some "...".toList
  | fuel + 1, type, arguments =>
    let text (value : Value) : Option Text :=
      match value with
      | .str text => some text
      | .error type cell => errorTextWithin space fuel type (itemsOf space.cells cell)
      | value => space.repr value
    let plain : Option Text :=
      match arguments with
      | [] => some []
      | [argument] => text argument
      | arguments =>
        (arguments.mapM space.repr).map fun shown => '(' :: joinWith comma shown ++ [')']
    match arguments with
    | [argument] =>
      if type.isKindOf .keyError then space.repr argument else plain
    | [message, details] =>
      if type.isKindOf .osError then systemText text space.repr message details []
      else if type.isKindOf .syntaxError then
        (text message).map fun message =>
          match details with
          | .tuple cell | .list cell => placedText message (itemsOf space.cells cell)
          | .str details => placedText message (details.map fun c => .str [c])
          | _ => message
      else if type.isGroup then
        let count := match details with
          | .tuple cell | .list cell => (itemsOf space.cells cell).length
          | _ => 1
        (text message).map fun message =>
          message ++ " (".toList ++ ofNat count ++
            (if count = 1 then " sub-exception)" else " sub-exceptions)").toList
      else plain
    | number :: message :: third :: rest =>
      if type.isKindOf .osError && rest.length ≤ 2 then
        systemText text space.repr number message (filesOf type (third :: rest))
      else if type.isKindOf .syntaxError then text number
      else
        match type, number, message, third, rest with
        | .unicodeEncodeError, .str encoding, .str object, start, [stop, .str reason] =>
          some ('\x27' :: encoding ++ "' codec ".toList ++
            charactersText "encode" object (start.number?.getD 0) (stop.number?.getD 0) reason)
        | .unicodeTranslateError, .str object, start, stop, [.str reason] =>
          some (charactersText "translate" object (start.number?.getD 0) (stop.number?.getD 0) reason)
        | _, _, _, _, _ => plain
    | [] => if type.isKindOf .syntaxError then some "None".toList else some []

def errorText (space : Space) (type : ErrorType) (arguments : List Value) : Except Cause Text :=
  match errorTextWithin space (space.cells.length + 2) type arguments with
  | some text => .ok text
  | none => .error ⟨.valueError, limitMessage none⟩

def text (space : Space) : Value → Option Text
  | .str t => some t
  | .error type arguments => (space.errorText type (itemsOf space.cells arguments)).toOption
  | value => space.repr value

end DocExamples.Script.Space
