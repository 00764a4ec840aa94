import DocExamples.Script.Construction
import DocExamples.Text.Utf8

namespace DocExamples.Script

open Text

namespace Eval

def everywhere : List (String × Function) :=
  [("print", .print), ("str", .str), ("repr", .repr), ("len", .len), ("sum", .sum), ("int", .int),
    ("range", .range)]

def ready? (name : Text) : Option Value :=
  if name = "__name__".toList then some (.str "builtins".toList)
  else
    match everywhere.find? fun entry => entry.1.toList == name with
    | some entry => some (.function entry.2)
    | none => (ErrorType.ofName? name).map .errorType

/-- The start of a text whose encoding has at most some number of bytes. What a byte of is left over
stands as a replacement character. -/
def cutAt : (bytes : Nat) → Text → Text
  | _, [] => []
  | bytes, c :: text =>
    let size := (Utf8.encode [c]).length
    if size ≤ bytes then c :: cutAt (bytes - size) text
    else if bytes = 0 then []
    else ['\uFFFD']

def lookUp (name : Text) : Eval Value := do
  match ((← get).space.names.lookup name).or (ready? name) with
  | some value => return value
  | none => raise .nameError ("name '".toList ++ cutAt 200 name ++ "' is not defined".toList)

def moduleMember? (m : Module) (name : Text) : Option Value :=
  let found (entries : List (String × Value)) :=
    (entries.find? fun entry => entry.1.toList == name).map (·.2)
  match m with
  | .sys => found [("stdout", .stream .out), ("stderr", .stream .err), ("exit", .function .exit)]
  | .os => found [("path", .module .path)]
  | .path => found [("basename", .function .basename)]
  | .json => found [("dumps", .function .dumps)]
  | .asyncio => found [("sleep", .function .sleep)]
  | .warnings => found [("simplefilter", .function .simplefilter)]

def methodsOf : Value → List (String × Method)
  | .list _ => [("append", .append)]
  | .str _ => [("join", .join), ("upper", .upper)]
  | .stream _ => [("write", .write), ("flush", .flush), ("close", .close)]
  | _ => []

def ownName? : Value → Option String
  | .module m => some m.name
  | .function f => some f.name
  | .errorType type => some type.name
  | _ => none

/-- How a message names a value that lacks a member. -/
def lacking : Value → Text
  | .module m => "module '".toList ++ m.name.toList ++ ['\x27']
  | .errorType type => "type object '".toList ++ type.name.toList ++ ['\x27']
  | value =>
    match value with
    | .function f =>
      if f.isType then "type object '".toList ++ f.name.toList ++ ['\x27']
      else quotedType value ++ " object".toList
    | value => quotedType value ++ " object".toList

def memberOf (target : Value) (name : Text) : Eval Value := do
  let missing : Eval Value :=
    raise .attributeError (lacking target ++ " has no attribute '".toList ++ name ++ ['\x27'])
  let method : Eval Value :=
    match (methodsOf target).find? fun entry => entry.1.toList == name with
    | some entry => return .method target entry.2
    | none => missing
  if name = "__name__".toList then
    match ownName? target with
    | some own => return .str own.toList
    | none => missing
  else
    match target with
    | .module m =>
      match moduleMember? m name with
      | some value => return value
      | none => missing
    | .error type arguments =>
      if name = "args".toList then newTuple (Space.keptArguments type (← items arguments)) else missing
    | .stream stream => if name = "closed".toList then return .bool (← isClosed stream) else method
    | _ => method

/-- The name to which an imported module is bound, and the module: the first one of a dotted name, or
the last one under another name. -/
def importModule (path : ModulePath) (given : Option Text) : Eval Unit := do
  let rec check (done : ModulePath) (outer : Option Module) : ModulePath → Eval Unit
    | [] => return
    | name :: rest => do
      let here := done ++ [name]
      let dotted := joinWith ['.'] here
      match Module.ofImportName? dotted with
      | some m => check here (some m) rest
      | none =>
        let missing := "No module named '".toList ++ dotted ++ ['\x27']
        match outer with
        | none => raise .moduleNotFoundError missing
        | some m =>
          if m.isPackage then raise .moduleNotFoundError missing
          else
            raise .moduleNotFoundError (missing ++ "; '".toList ++ joinWith ['.'] done ++
              "' is not a package".toList)
  check [] none path
  let bound (name dotted : Text) : Eval Unit :=
    match Module.ofImportName? dotted with
    | some m => setName name (.module m)
    | none => return
  match given with
  | some name => bound name (joinWith ['.'] path)
  | none => bound (path.headD []) (path.headD [])

def importName (path : ModulePath) (name : Text) (given : Option Text) : Eval Unit := do
  match Module.ofImportName? (joinWith ['.'] path) with
  | none => return
  | some m =>
    match moduleMember? m name with
    | some value => setName (given.getD name) value
    | none =>
      raise .importError ("cannot import name '".toList ++ name ++ "' from '".toList ++
        m.name.toList ++ "' (unknown location)".toList)

def importNames (path : ModulePath) (names : List (Text × Option Text)) : Eval Unit := do
  checkPath path
  for (name, given) in names do importName path name given
where
  checkPath (path : ModulePath) : Eval Unit := importModule.check [] none path

end Eval

end DocExamples.Script
