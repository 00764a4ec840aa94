import DocExamples.Files.Path
import DocExamples.Json

namespace DocExamples.CommandLine

open Text Files

inductive Format
  | plain
  | json (layout : Json.Layout)
  deriving DecidableEq, Repr

/-- Where settings come from: a file, and values that take the place of those in it. -/
structure SettingsChoice where
  file : Option Path
  usings : List Text
  comment : Text
  className : Text
  deriving DecidableEq, Repr

inductive Command
  | list (source : Text) (format : Format)
  | run (source : Text) (choice : SettingsChoice) (format : Format) (verbose : Bool)
  | generate (source : Path) (choice : SettingsChoice) (output : Option Path) (force : Bool)
  deriving DecidableEq, Repr

inductive Flag
  | json
  | pretty
  | usings
  | comment
  | config
  | verbose
  | className
  | output
  | force
  deriving DecidableEq, Repr

namespace Flag

def long : Flag → String
  | json => "--json"
  | pretty => "--pretty"
  | usings => "--using"
  | comment => "--comment"
  | config => "--config"
  | verbose => "--verbose"
  | className => "--class"
  | output => "--output"
  | force => "--force"

def short? : Flag → Option Char
  | usings => some 'u'
  | verbose => some 'v'
  | output => some 'o'
  | _ => none

def takesValue : Flag → Bool
  | usings | comment | config | className | output => true
  | _ => false

def listFlags : List Flag := [json, pretty]

def runFlags : List Flag := [usings, comment, config, json, pretty, verbose]

def generateFlags : List Flag := [className, usings, comment, config, output, force]

end Flag

/-- What arguments hold: flags with their values, in order, and positional arguments. -/
structure Arguments where
  flags : List (Flag × Text)
  positional : List Text
  deriving DecidableEq, Repr

namespace Arguments

def addFlag (flag : Flag) (value : Text) (arguments : Arguments) : Arguments :=
  { arguments with flags := (flag, value) :: arguments.flags }

def addFlags (flags : List Flag) (arguments : Arguments) : Arguments :=
  { arguments with flags := flags.map (·, []) ++ arguments.flags }

def addPositional (text : Text) (arguments : Arguments) : Arguments :=
  { arguments with positional := text :: arguments.positional }

def values (arguments : Arguments) (flag : Flag) : List Text :=
  (arguments.flags.filter (·.1 == flag)).map (·.2)

def value? (arguments : Arguments) (flag : Flag) : Option Text := (arguments.values flag).getLast?

def isGiven (arguments : Arguments) (flag : Flag) : Bool := !(arguments.values flag).isEmpty

/-- What a run of short flags says: those without a value, and the one at its end that takes one, with
what stands right after it. -/
def shortFlags? (accepted : List Flag) : Text → Option (List Flag × Option (Flag × Text))
  | [] => some ([], none)
  | c :: text =>
    match accepted.find? (·.short? == some c) with
    | none => none
    | some flag =>
      if flag.takesValue then some ([], some (flag, text))
      else (shortFlags? accepted text).map fun (flags, last) => (flag :: flags, last)

def looksLikeFlag (argument : Text) : Bool :=
  argument.head? == some '-' && argument.length > 1

def dashes : Text := ['-', '-']

def splitValue (argument : Text) : Text × Option Text :=
  match cutAt? '=' argument with
  | some (name, value) => (name, some value)
  | none => (argument, none)

/-- What arguments hold, if they give accepted flags only, and values to just those that take one. -/
def read? (accepted : List Flag) : List Text → Option Arguments
  | [] => some ⟨[], []⟩
  | argument :: rest =>
    if argument = dashes then some ⟨[], rest⟩
    else if !looksLikeFlag argument then (read? accepted rest).map (addPositional argument)
    else
      match accepted.find? (·.long.toList == (splitValue argument).1), (splitValue argument).2 with
      | some flag, some value =>
        if flag.takesValue then (read? accepted rest).map (addFlag flag value) else none
      | some flag, none =>
        if flag.takesValue then
          match rest with
          | value :: rest => (read? accepted rest).map (addFlag flag value)
          | [] => none
        else (read? accepted rest).map (addFlag flag [])
      | none, _ =>
        if dashes.isPrefixOf argument then none
        else
          match shortFlags? accepted argument.tail with
          | none => none
          | some (flags, none) => (read? accepted rest).map (addFlags flags)
          | some (flags, some (flag, value)) =>
            if value.isEmpty then
              match rest with
              | value :: rest => (read? accepted rest).map (addFlags flags ∘ addFlag flag value)
              | [] => none
            else (read? accepted rest).map (addFlags flags ∘ addFlag flag value)

def source? (arguments : Arguments) : Option Text :=
  match arguments.positional with
  | [source] => some source
  | _ => none

def format (arguments : Arguments) : Format :=
  if arguments.isGiven .json then
    .json (if arguments.isGiven .pretty then .indented else .line)
  else .plain

def pathOf? (text : Text) : Option Path :=
  if text.contains '\x00' then none else some (.ofText text)

def path? (arguments : Arguments) (flag : Flag) : Option Path :=
  (arguments.value? flag).bind pathOf?

def havePaths (arguments : Arguments) : Bool :=
  [Flag.config, Flag.output].all fun flag =>
    (arguments.value? flag).all fun value => (pathOf? value).isSome

def choice (arguments : Arguments) : SettingsChoice :=
  { file := arguments.path? .config
    usings := arguments.values .usings
    comment := (arguments.value? .comment).getD []
    className := (arguments.value? .className).getD [] }

end Arguments

namespace Command

def list? (arguments : List Text) : Option Command := do
  let arguments ← Arguments.read? Flag.listFlags arguments
  return .list (← arguments.source?) arguments.format

def run? (arguments : List Text) : Option Command := do
  let arguments ← (Arguments.read? Flag.runFlags arguments).filter (·.havePaths)
  return .run (← arguments.source?) arguments.choice arguments.format (arguments.isGiven .verbose)

def generate? (arguments : List Text) : Option Command := do
  let arguments ← (Arguments.read? Flag.generateFlags arguments).filter (·.havePaths)
  return .generate (← arguments.source?.bind Arguments.pathOf?) arguments.choice (arguments.path? .output)
    (arguments.isGiven .force)

def named? (name : Text) (arguments : List Text) : Option Command :=
  if name = "list".toList then list? arguments
  else if name = "run".toList then run? arguments
  else if name = "generate".toList then generate? arguments
  else none

/-- The command that arguments ask for; `none` if they are not used rightly. Two dashes may stand
before the name of the command. -/
def ofArguments? : List Text → Option Command
  | [] => none
  | first :: rest =>
    if first = Arguments.dashes then
      match rest with
      | name :: rest => named? name rest
      | [] => none
    else named? first rest

end Command

end DocExamples.CommandLine
