import DocExamples.DocTest
import DocExamples.Json

namespace DocExamples

open Text

namespace Example

def toJson (e : Example) : Json :=
  .obj [("name".toList, .str e.name), ("record".toList, .str e.record)]

end Example

namespace Outcome

def differenceFields : Option (List Text × List Text) → List (Text × Json)
  | none => []
  | some (expected, actual) =>
    [("expected".toList, .arr (expected.map .str)), ("actual".toList, .arr (actual.map .str))]

def messageFields (message : Text) : List (Text × Json) :=
  if message.isEmpty then [] else [("message".toList, .str message)]

def fields (outcome : Outcome) : List (Text × Json) :=
  [("name".toList, .str outcome.name), ("status".toList, .str outcome.status.name.toList)] ++
    messageFields outcome.message ++ differenceFields outcome.difference

def toJson (outcome : Outcome) : Json := .obj outcome.fields

end Outcome

namespace CommandLine

def generatorName : String := "xmldoctest"

def version : String := "1.0.0"

/-- An object with a note on what generated it. -/
def withMeta (fields : List (Text × Json)) : Json :=
  let generator : Json := .obj
    [("name".toList, .str generatorName.toList), ("version".toList, .str version.toList)]
  .obj (fields ++ [("_meta".toList, .obj [("generator".toList, generator)])])

def examplesJson (es : List Example) : Json :=
  withMeta [("examples".toList, .arr (es.map Example.toJson))]

def unsuccessful (outcomes : List Outcome) : List Outcome := outcomes.filter fun o => !o.passed

def outcomesJson (outcomes : List Outcome) : Json :=
  withMeta
    [("total".toList, .int outcomes.length),
      ("failed".toList, .int (unsuccessful outcomes).length),
      ("results".toList, .arr (outcomes.map Outcome.toJson))]

def statusLabel : Status → String
  | .passed => "PASSED"
  | .failed => "FAILED"
  | .error => "ERROR "

def differenceLines (expected actual : List Text) : List Text :=
  let shown (lines : List Text) : List Text := lines.map (times 4 [' '] ++ quote ·)
  "  Expected:".toList :: shown expected ++ "  Actual:".toList :: shown actual

def detailLines (outcome : Outcome) : List Text :=
  match outcome.status, outcome.difference with
  | .passed, _ => []
  | _, none => ["  ".toList ++ outcome.message]
  | _, some (expected, actual) => differenceLines expected actual

def outcomeLines (outcome : Outcome) : List Text :=
  ((statusLabel outcome.status).toList ++ ' ' :: outcome.name) :: detailLines outcome

def outcomesLines (outcomes : List Outcome) : List Text :=
  outcomes.flatMap outcomeLines ++
    [ofNat (outcomes.length - (unsuccessful outcomes).length) ++ " of ".toList ++
      ofNat outcomes.length ++ " examples passed.".toList]

def unlines (lines : List Text) : Text := lines.flatMap (· ++ ['\n'])

/-- What follows a control sequence of a terminal, if the text starts with one: an escape, a bracket,
parameters, and the letter that ends it. -/
def afterControl? : Text → Option Text
  | '\x1b' :: '[' :: text =>
    match text.dropWhile fun c => isAsciiDigit c || c == ';' || c == '?' with
    | c :: rest => if isAsciiLetter c then some rest else none
    | [] => none
  | _ => none

/-- Text without the control sequences of a terminal; the fuel bounds its characters. -/
def withoutControlsFrom : (fuel : Nat) → Text → Text
  | 0, text => text
  | _, [] => []
  | fuel + 1, c :: text =>
    match afterControl? (c :: text) with
    | some rest => withoutControlsFrom fuel rest
    | none => c :: withoutControlsFrom fuel text

/-- What is printed of a text where nothing is a terminal. -/
def withoutControls (text : Text) : Text := withoutControlsFrom text.length text

/-- What writes to the log: parts of the program, and the loops in which waiting code runs. -/
inductive Logger
  | documentation
  | extract
  | runner
  | waiting
  deriving DecidableEq, Repr

def Logger.name : Logger → String
  | documentation => generatorName ++ ".documentation"
  | extract => generatorName ++ ".extract"
  | runner => generatorName ++ ".runner"
  | waiting => "asyncio"

inductive LogLevel
  | debug
  | info
  deriving DecidableEq, Repr

def LogLevel.name : LogLevel → String
  | debug => "DEBUG"
  | info => "INFO"

structure LogLine where
  level : LogLevel
  logger : Logger
  message : Text
  deriving DecidableEq, Repr

namespace LogLine

def text (line : LogLine) : Text :=
  line.level.name.toList ++ ' ' :: line.logger.name.toList ++ ": ".toList ++ line.message

def fetching (url : Text) : LogLine :=
  ⟨.info, .documentation, "Fetching documentation from ".toList ++ url⟩

def parsed (records : Nat) : LogLine :=
  ⟨.debug, .documentation, "Parsed ".toList ++ ofNat records ++ " documentation records".toList⟩

def extracted (examples : Nat) : LogLine :=
  ⟨.debug, .extract, "Extracted ".toList ++ ofNat examples ++ " examples".toList⟩

def running (name : Text) : LogLine := ⟨.debug, .runner, "Running doctest ".toList ++ name⟩

def waiting : LogLine := ⟨.debug, .waiting, "Using selector: EpollSelector".toList⟩

variable [Language]

def starting (test : DocTest) : List LogLine :=
  running test.name :: List.replicate test.loops waiting

def unsuccess? (outcome : Outcome) : Option LogLine :=
  let line (verb : String) : LogLine :=
    ⟨.info, .runner, "Doctest ".toList ++ outcome.name ++ verb.toList ++ outcome.message⟩
  match outcome.status with
  | .passed => none
  | .failed => some (line " failed: ")
  | .error => some (line " raised: ")

def ofOutcome (test : DocTest) (outcome : Outcome) : List LogLine :=
  starting test ++ (unsuccess? outcome).toList

def closing (outcomes : List Outcome) : List LogLine :=
  [extracted outcomes.length,
    ⟨.debug, .runner, "Ran ".toList ++ ofNat outcomes.length ++ " doctests, ".toList ++
      ofNat (unsuccessful outcomes).length ++ " failed".toList⟩]

end LogLine

end CommandLine

end DocExamples
