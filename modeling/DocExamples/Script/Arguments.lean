import DocExamples.Script.Operation

namespace DocExamples.Script

open Text

/-- The arguments of a call: those by position, and those by name. -/
structure Arguments where
  positional : List Value
  named : List (Text × Value)
  deriving DecidableEq, Repr

def counted (n : Nat) (word : String) : Text :=
  ofNat n ++ ' ' :: word.toList ++ (if n = 1 then [] else ['s'])

namespace Arguments

def ofValues (values : List Value) : Arguments := { positional := values, named := [] }

def unnamed (function : String) (arguments : Arguments) : Eval (List Value) := do
  if arguments.named.isEmpty then return arguments.positional
  else Eval.typeError (function.toList ++ "() takes no keyword arguments".toList)

def given (arguments : List Value) : Text :=
  " (".toList ++ ofNat arguments.length ++ " given)".toList

def single (function : String) (arguments : Arguments) : Eval Value := do
  match ← arguments.unnamed function with
  | [value] => return value
  | values =>
    Eval.typeError (function.toList ++ "() takes exactly one argument".toList ++ given values)

def nothing (function : String) (arguments : Arguments) : Eval Unit := do
  match ← arguments.unnamed function with
  | [] => return
  | values => Eval.typeError (function.toList ++ "() takes no arguments".toList ++ given values)

def between (function : String) (least most : Nat) (values : List Value) : Eval (List Value) := do
  let wrong (bound : String) (n : Nat) : Eval (List Value) :=
    Eval.typeError (function.toList ++ " expected ".toList ++ bound.toList ++ counted n "argument" ++
      ", got ".toList ++ ofNat values.length)
  if values.length < least then wrong "at least " least
  else if most < values.length then wrong "at most " most
  else return values

end Arguments

/-- A built-in function whose arguments may be given by position or by name. One without a name may be
given by position only. -/
structure Slots where
  function : String
  /-- How many of the arguments have to be given by position. -/
  required : Nat
  names : List String

namespace Slots

/-- The name of an argument that none of the slots has. -/
def unknownName? (slots : Slots) (arguments : Arguments) : Option Text :=
  (arguments.named.find? fun entry => !slots.names.any (·.toList == entry.1)).map (·.1)

/-- The argument that is given by position and by name, and its place. -/
def givenTwice? (slots : Slots) (arguments : Arguments) : Option (String × Nat) :=
  (slots.names.zipIdx.take arguments.positional.length).find? fun entry =>
    arguments.named.any (·.1 == entry.1.toList)

def unknownMessage (function : String) (name : Text) : Text :=
  '\x27' :: name ++ "' is an invalid keyword argument for ".toList ++ function.toList ++ "()".toList

def fill (slots : Slots) (arguments : Arguments) : Eval (List (Option Value)) := do
  let count := arguments.positional.length
  let total := count + arguments.named.length
  if slots.names.length < total then
    let word := if count = 0 then "keyword argument" else "argument"
    Eval.typeError (slots.function.toList ++ "() takes at most ".toList ++
      counted slots.names.length word ++ " (".toList ++ ofNat total ++ " given)".toList)
  if count < slots.required then
    Eval.typeError (slots.function.toList ++ "() takes at least ".toList ++
      counted slots.required "positional argument" ++ Arguments.given arguments.positional)
  match slots.givenTwice? arguments with
  | some (name, index) =>
    Eval.typeError ("argument for ".toList ++ slots.function.toList ++ "() given by name ('".toList ++
      name.toList ++ "') and position (".toList ++ ofNat (index + 1) ++ [')'])
  | none =>
    match slots.unknownName? arguments with
    | some name => Eval.typeError (unknownMessage slots.function name)
    | none =>
      return slots.names.zipIdx.map fun (name, index) =>
        arguments.positional[index]?.or (arguments.named.lookup name.toList)

end Slots

/-- What a function that is made in a script takes: an argument that has to be given, others that may
be given after it, and arguments that are given by name. -/
structure Parameters where
  function : String
  required : String
  optional : List String
  named : List String
  /-- Whether arguments of other names are taken too. -/
  isOpen : Bool

namespace Parameters

def positional (parameters : Parameters) : List String := parameters.required :: parameters.optional

def tooMany (parameters : Parameters) (arguments : Arguments) : Text :=
  let most := parameters.positional.length
  let count := arguments.positional.length
  let named := (arguments.named.filter fun entry =>
    parameters.named.any (·.toList == entry.1)).length
  let taken :=
    if parameters.optional.isEmpty then counted most "positional argument"
    else "from 1 to ".toList ++ ofNat most ++ " positional arguments".toList
  let found :=
    if named = 0 then ofNat count
    else
      counted count "positional argument" ++ " (and ".toList ++
        counted named "keyword-only argument" ++ [')']
  parameters.function.toList ++ "() takes ".toList ++ taken ++ " but ".toList ++ found ++
    (if count = 1 && named = 0 then " was given" else " were given").toList

def take (parameters : Parameters) (arguments : Arguments) :
    Eval (List (Option Value) × List (Text × Value)) := do
  let function := parameters.function.toList ++ "()".toList
  let names := parameters.positional
  let isPositional (name : Text) : Bool := names.any (·.toList == name)
  for (name, _) in arguments.named do
    if isPositional name then
      if (names.take arguments.positional.length).any (·.toList == name) then
        Eval.typeError (function ++ " got multiple values for argument '".toList ++ name ++ ['\x27'])
    else if !parameters.isOpen && !parameters.named.any (·.toList == name) then
      Eval.typeError (function ++ " got an unexpected keyword argument '".toList ++ name ++ ['\x27'])
  if names.length < arguments.positional.length then
    Eval.typeError (parameters.tooMany arguments)
  let values := names.zipIdx.map fun (name, index) =>
    arguments.positional[index]?.or (arguments.named.lookup name.toList)
  match values with
  | some _ :: _ => return (values, arguments.named.filter fun entry => !isPositional entry.1)
  | _ =>
    Eval.typeError (function ++ " missing 1 required positional argument: '".toList ++
      parameters.required.toList ++ ['\x27'])

end Parameters

end DocExamples.Script
