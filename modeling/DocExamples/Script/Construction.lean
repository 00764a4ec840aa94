import DocExamples.Script.Arguments

namespace DocExamples.Script

open Text

namespace Eval

def errorNames (type : ErrorType) : Option (String × List String) :=
  if type.isKindOf .importError then some ("ImportError", ["name", "path"])
  else if type.isKindOf .attributeError then some ("AttributeError", ["name", "obj"])
  else if type.isKindOf .nameError then some ("NameError", ["name"])
  else none

/-- The arguments by position of an error, if its type takes those by name. -/
def errorArguments (type : ErrorType) (arguments : Arguments) : Eval (List Value) := do
  match errorNames type with
  | none => arguments.unnamed type.name
  | some (function, names) =>
    match arguments.named.find? fun entry => !names.any (·.toList == entry.1) with
    | some (name, _) => typeError (Slots.unknownMessage function name)
    | none => return arguments.positional

def checkCount (least most count : Nat) : Eval Unit := do
  let wrong (bound : String) (n : Nat) : Eval Unit :=
    typeError ("function takes ".toList ++ bound.toList ++ ' ' :: counted n "argument" ++
      " (".toList ++ ofNat count ++ " given)".toList)
  let exact (bound : String) : String := if least = most then "exactly" else bound
  if count < least then wrong (exact "at least") least
  else if most < count then wrong (exact "at most") most

/-- Fails for the place of a syntax error that is not made of a file, a line, a column and a text, with
or without an end. -/
def checkPlace (details : Value) : Eval Unit := do
  let items ← itemsOf details
  checkCount 4 6 items.length
  if items.length = 5 then
    typeError "end_offset must be provided when end_lineno is provided".toList

def checkText (index : Nat) (value : Value) : Eval Unit := do
  match value with
  | .str _ => return
  | value =>
    let name := if value == .none then "None" else value.typeName
    typeError ("argument ".toList ++ ofNat index ++ " must be str, not ".toList ++ name.toList)

def indexOf (value : Value) : Eval Int := do
  match value.number? with
  | some n => return n
  | none => typeError (quotedType value ++ " object cannot be interpreted as an integer".toList)

/-- Fails for arguments of an error about characters that are not those of its type. -/
def checkCoding (type : ErrorType) (arguments : List Value) : Eval Unit := do
  let hasCodec := type != .unicodeTranslateError
  checkCount (if hasCodec then 5 else 4) (if hasCodec then 5 else 4) arguments.length
  match arguments with
  | [encoding, object, start, stop, reason] =>
    checkText 1 encoding
    if type = .unicodeEncodeError then checkText 2 object
    let _ ← indexOf start
    let _ ← indexOf stop
    checkText 5 reason
    if type = .unicodeDecodeError then
      typeError ("a bytes-like object is required, not ".toList ++ quotedType object)
  | [object, start, stop, reason] =>
    checkText 1 object
    let _ ← indexOf start
    let _ ← indexOf stop
    checkText 4 reason
  | _ => return

def groupType (type : ErrorType) (arguments : List Value) : Eval ErrorType := do
  match arguments with
  | [message, members] =>
    match message with
    | .str _ => pure ()
    | message =>
      typeError ("BaseExceptionGroup.__new__() argument 1 must be str, not ".toList ++
        message.typeName.toList)
    let isSequence : Bool := match members with
      | .list _ | .tuple _ | .str _ | .range _ => true
      | _ => false
    if !isSequence then typeError "second argument (exceptions) must be a sequence".toList
    let members ← itemsOf members
    if members.isEmpty then
      raise .valueError "second argument (exceptions) must be a non-empty sequence".toList
    let types ← members.zipIdx.mapM fun (member, index) =>
      match member with
      | .error type _ => (return type : Eval ErrorType)
      | _ =>
        raise .valueError ("Item ".toList ++ ofNat index ++
          " of second argument (exceptions) is not an exception".toList)
    if types.all (·.isKindOf .exception) then return .exceptionGroup
    if type = .exceptionGroup then
      typeError "Cannot nest BaseExceptions in an ExceptionGroup".toList
    return type
  | arguments =>
    typeError ("BaseExceptionGroup.__new__() takes exactly 2 arguments".toList ++
      Arguments.given arguments)

/-- Makes an error of a type, or of the kind of it that its arguments tell. -/
def makeError (type : ErrorType) (arguments : Arguments) : Eval Raised := do
  if type.isGroup then
    let kind ← groupType type arguments.positional
    return ⟨kind, ← arguments.unnamed kind.name⟩
  let values ← errorArguments type arguments
  match type with
  | .osError =>
    match values with
    | number :: _ :: rest =>
      let kind := if rest.length ≤ 3 then number.number?.bind ErrorType.ofErrorNumber? else none
      return ⟨kind.getD type, values⟩
    | _ => return ⟨type, values⟩
  | .unicodeDecodeError | .unicodeEncodeError | .unicodeTranslateError =>
    checkCoding type values
    return ⟨type, values⟩
  | type =>
    match values with
    | [_, details] =>
      if type.isKindOf .syntaxError then checkPlace details
      return ⟨type, values⟩
    | _ => return ⟨type, values⟩

def errorValue (raised : Raised) : Eval Value := do
  return .error raised.type (← allocate (.items raised.arguments))

def toRaise (value : Value) : Eval Raised := do
  match value with
  | .error type arguments => return ⟨type, ← items arguments⟩
  | .errorType type => makeError type (.ofValues [])
  | _ => typeError "exceptions must derive from BaseException".toList

/-- The error by which a script leaves the run with a status: an error of this type is the status
itself, and the items of a tuple are arguments. -/
def leaving (status : Value) : Eval Raised := do
  match status with
  | .none => return ⟨.systemExit, []⟩
  | .tuple cell => return ⟨.systemExit, ← items cell⟩
  | .error .systemExit arguments => return ⟨.systemExit, ← items arguments⟩
  | status => return ⟨.systemExit, [status]⟩

end Eval

/-- What is shown of an error that is made of some values in a namespace, or of the one that making it
comes to. -/
def Cause.made (space : Space) (type : ErrorType) (arguments : List Value) : Cause :=
  let (raised, state) :=
    (Eval.makeError type (.ofValues arguments)).run { space, streams := .empty }
  match raised with
  | .ok raised | .error raised => (raised.thrown state.space).shown

end DocExamples.Script
