import DocExamples.Collector.Options
import DocExamples.DocTest
import DocExamples.Documentation.Source

namespace DocExamples.Collector

open Text Files Documentation Console

/-- What a session's configuration file sets. -/
structure Configuration where
  usings : List Text
  comment : Text
  deriving DecidableEq, Repr

def Configuration.standard : Configuration :=
  { usings := [], comment := Expectation.defaultComment }

inductive Failure
  | inaccessible (path : Text) (error : AccessError)
  | load (error : LoadError)
  deriving DecidableEq, Repr

/-- The modules that examples import: those of the configuration, then those of the options. -/
def usings (options : Options) (configuration : Configuration) : List Text :=
  configuration.usings ++ options.usings.map (·.shown)

def comment (options : Options) (configuration : Configuration) : Text :=
  match options.comment with
  | some (.text token) => if token.isEmpty then configuration.comment else token
  | some .nothing | none => configuration.comment

def looksLikeDocumentation (tree : Tree) (path : Path) : Except Failure Bool :=
  match readText tree path with
  | .error (.access error) => .error (.inaccessible path.text error)
  | .error (.undecodable error) => .error (.load (.undecodable error))
  | .ok text => (isDocumentation text).mapError fun error => .load (.unparsed error)

/-- The doctests of a file; `none` if it is not collected. -/
def collect (tree : Tree) (options : Options) (configuration : Configuration) (path : Path) :
    Except Failure (Option (List DocTest)) := do
  if !options.enabled || path.suffix ≠ ".xml".toList then return none
  if !(← looksLikeDocumentation tree path) then return none
  let text ← (readFile tree path).mapError .load
  let records ← (parse text).mapError fun error => .load (.unparsed error)
  return some (DocTest.ofRecords records (some (.ofUsings (usings options configuration)))
    (comment options configuration))

def title (test : DocTest) : Text := "[xml-doctest] ".toList ++ test.name

/-- What is said of a doctest that does not pass. -/
def explain (name : Text) : DocTestFailure → Text
  | .verification (.differentLines expected actual) =>
    let shown (lines : List Text) : List Text := lines.map (times 4 [' '] ++ quote ·)
    joinWith ['\n'] (["Output of ".toList ++ name ++ " does not match.".toList, "Expected:".toList] ++
      shown expected ++ ["Actual:".toList] ++ shown actual)
  | .verification (.writtenToStderr stderr) => name ++ " wrote to stderr:\n".toList ++ stderr
  | .execution description written =>
    trimEnd isBlank (name ++ " raised ".toList ++ description ++ '\n' :: written.err)

variable [Language]

def report? (test : DocTest) : Act (Option Text) := do
  match ← test.run with
  | .ok () => return none
  | .error failure => return some (explain test.name failure)

end DocExamples.Collector
