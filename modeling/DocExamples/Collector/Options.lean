import DocExamples.Text.Class

namespace DocExamples.Collector

open Text

/-- The value of an option. Two dashes after an equals sign are no value, but they are not missing. -/
inductive OptionValue
  | text (text : Text)
  | nothing
  deriving DecidableEq, Repr

namespace OptionValue

def ofText (text : Text) : OptionValue := if text = "--".toList then .nothing else .text text

/-- The value as a text: no value is shown as an empty list. -/
def shown : OptionValue → Text
  | text t => t
  | nothing => "[]".toList

end OptionValue

structure Options where
  enabled : Bool
  usings : List OptionValue
  comment : Option OptionValue
  deriving DecidableEq, Repr

inductive Flag
  | help
  | enable
  | useModule
  | comment
  deriving DecidableEq, Repr

namespace Flag

def names : List (Text × Flag) :=
  [("-h", help), ("--help", help), ("--xml-doctest", enable), ("--xml-doctest-using", useModule),
    ("--xml-doctest-comment", comment)].map fun (name, flag) => (name.toList, flag)

end Flag

inductive Role
  | value
  /-- A flag, with the value after its equals sign. -/
  | flag (flag : Flag) (value : Option Text)
  | unknownFlag
  | ambiguousFlag
  deriving DecidableEq, Repr

namespace Role

def isNegativeNumber (text : Text) : Bool :=
  let isDigits (digits : Text) : Bool := !digits.isEmpty && digits.all (decimalDigit? · |>.isSome)
  let text := if text.getLast? == some '\n' then text.dropLast else text
  match text with
  | '-' :: digits =>
    isDigits digits ||
      match cutAt? '.' digits with
      | some (whole, fraction) => (whole.isEmpty || isDigits whole) && isDigits fraction
      | none => false
  | _ => false

/-- The role of an argument that is no flag's whole name: the start of the only name that starts so
counts as that name. -/
def ofStart (start : Text) (given : Option Text) (argument : Text) : Role :=
  let candidates :=
    if "--".toList.isPrefixOf start then Flag.names.filter fun entry => start.isPrefixOf entry.1 else []
  match candidates with
  | [(_, found)] => flag found given
  | _ :: _ => ambiguousFlag
  | [] =>
    if isNegativeNumber argument || argument.contains ' ' then .value else unknownFlag

def ofArgument (argument : Text) : Role :=
  if argument.head? ≠ some '-' || argument = ['-'] then .value
  else
    match Flag.names.lookup argument, cutAt? '=' argument with
    | some found, _ => flag found none
    | none, none => ofStart argument none argument
    | none, some (name, given) =>
      match Flag.names.lookup name with
      | some found => flag found (some given)
      | none => ofStart name (some given) argument

end Role

namespace Options

def none : Options := { enabled := false, usings := [], comment := .none }

def helpStatus : Nat := 0

def misuseStatus : Nat := 2

def set (options : Options) (flag : Flag) (value : Text) : Options :=
  match flag with
  | .useModule => { options with usings := options.usings ++ [.ofText value] }
  | .comment => { options with comment := some (.ofText value) }
  | .help | .enable => options

/-- Adds what arguments ask for to options. A value follows its flag, or an equals sign after it. All
other arguments are wrong, and found to be so when the flags have been seen. -/
def add (options : Options) : List Text → Except Nat Options
  | [] => .ok options
  | argument :: rest =>
    if argument = "--".toList then .error misuseStatus
    else
      match Role.ofArgument argument with
      | .flag .help .none => .error helpStatus
      | .flag .enable .none => add { options with enabled := true } rest
      | .flag .help (some _) | .flag .enable (some _) => .error misuseStatus
      | .flag flag (some value) => add (options.set flag value) rest
      | .flag flag .none =>
        match rest with
        | value :: rest =>
          if Role.ofArgument value = .value then add (options.set flag value) rest
          else .error misuseStatus
        | [] => .error misuseStatus
      | _ =>
        match add options rest with
        | .error status => .error status
        | .ok _ => .error misuseStatus

/-- The options that arguments ask for, or the status by which the session ends at once. -/
def ofArguments (arguments : List Text) : Except Nat Options :=
  let flags := arguments.takeWhile (· != "--".toList)
  if flags.any (Role.ofArgument · == .ambiguousFlag) then .error misuseStatus
  else none.add arguments

end Options

end DocExamples.Collector
