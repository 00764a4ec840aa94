import DocExamples.CommandLine.Command
import DocExamples.CommandLine.Report
import DocExamples.Documentation.Source
import DocExamples.Settings
import DocExamples.TestModule.Generation

namespace DocExamples.CommandLine

open Text Files Documentation Console

inductive Crash
  | settings (error : SettingsError)
  | load (error : LoadError)
  | script (cause : Script.Cause)
  | console (problem : Problem)
  | output (path : Text) (error : AccessError)

def Crash.message : Crash → Text
  | settings error => error.message
  | load error => error.message
  | script cause => cause.text
  | console problem => problem.message
  | output path error => error.message path

/-- What a command leaves: the texts that it prints, its exit status, and the error that ended it. -/
structure Result where
  out : Text
  err : Text
  exit : Nat
  crash : Option Crash

namespace Result

def usage : String := "Usage: (list | run | generate) SOURCE [OPTIONS]\n"

def usageError : Result := { out := [], err := usage.toList, exit := 2, crash := none }

def reported (message : Text) : Result :=
  { out := [], err := withoutControls ("Error: ".toList ++ message ++ ['\n']), exit := 1, crash := none }

def crashed (crash : Crash) : Result := { out := [], err := [], exit := 1, crash := some crash }

/-- An interrupted program has an exit status of its own. -/
def interrupted : Result := { out := [], err := [], exit := 130, crash := none }

def ofSettingsError (error : SettingsError) : Result :=
  if error.isReported then reported error.message else crashed (.settings error)

def ofLoadError (error : LoadError) : Result :=
  if error.isReported then reported error.message else crashed (.load error)

def ofProblem : Problem → Result
  | .raised cause =>
    if cause.type = .keyboardInterrupt then interrupted else crashed (.script cause)
  | problem => crashed (.console problem)

def ofFailure : TestModule.Failure → Result
  | .load error => ofLoadError error
  | .compile cause => crashed (.script cause)

/-- A result with lines of the log before what it prints on standard error. -/
def afterLog (lines : List LogLine) (result : Result) : Result :=
  { result with err := unlines (lines.map LogLine.text) ++ result.err }

end Result

def exitStatus (complains : Bool) : Nat := if complains then 1 else 0

def listing (format : Format) (es : List Example) : Text :=
  match format with
  | .plain => unlines (es.map (·.name))
  | .json layout => (examplesJson es).render layout ++ ['\n']

def listExamples (tree : Tree) (fetch : Fetch) (source : Text) (format : Format) : Result :=
  match load tree fetch (.ofText source) with
  | .error error => .ofLoadError error
  | .ok records =>
    { out := withoutControls (listing format (Example.ofRecords records))
      err := []
      exit := 0
      crash := none }

def Format.outcomes (format : Format) (outcomes : List Outcome) : Text :=
  match format with
  | .plain => unlines (outcomesLines outcomes)
  | .json layout => (outcomesJson outcomes).render layout ++ ['\n']

variable [Language]

/-- The outcomes of tests that run one after another, and the test that ended the run by a problem. -/
def runTests (console : Console) : List DocTest → List Outcome × Option (DocTest × Problem)
  | [] => ([], none)
  | test :: tests =>
    match test.outcome.run console with
    | (.ok outcome, console) =>
      let (outcomes, problem) := runTests console tests
      (outcome :: outcomes, problem)
    | (.error problem, _) => ([], some (test, problem))

def reportTests (format : Format) (verbose : Bool) (tests : List DocTest) : Result :=
  let (outcomes, problem) := runTests .initial tests
  let logged (lines : List LogLine) : List LogLine :=
    if verbose then (List.zipWith LogLine.ofOutcome tests outcomes).flatten ++ lines else []
  match problem with
  | some (test, problem) => (Result.ofProblem problem).afterLog (logged (LogLine.starting test))
  | none =>
    Result.afterLog (logged (LogLine.closing outcomes))
      { out := withoutControls (format.outcomes outcomes)
        err := []
        exit := exitStatus (!(unsuccessful outcomes).isEmpty)
        crash := none }

def fetchLines : Source → List LogLine
  | .address url => [.fetching url]
  | .file _ => []

def chosenSettings (tree : Tree) (choice : SettingsChoice) : Except SettingsError Settings :=
  (Settings.load tree choice.file).map fun settings =>
    settings.override choice.usings choice.comment choice.className

def runExamples (tree : Tree) (fetch : Fetch) (source : Text) (choice : SettingsChoice)
    (format : Format) (verbose : Bool) : Result :=
  let logged (lines : List LogLine) : List LogLine := if verbose then lines else []
  match chosenSettings tree choice with
  | .error error => .ofSettingsError error
  | .ok settings =>
    Result.afterLog (logged (fetchLines (.ofText source)))
      (match load tree fetch (.ofText source) with
      | .error error => .ofLoadError error
      | .ok records =>
        (reportTests format verbose (DocTest.ofRecords records (some (.ofUsings settings.usings))
          settings.comment)).afterLog (logged [.parsed records.length]))

/-- Prints the text of a module, or writes it to a file, which has to be new unless it is forced. -/
def deliver (tree : Tree) (output : Option Path) (force : Bool) (source : Text) : Result × Tree :=
  match output with
  | none => ({ out := withoutControls source, err := [], exit := 0, crash := none }, tree)
  | some path =>
    match tree.hasEntry path with
    | .error error => (.crashed (.output path.text error), tree)
    | .ok isThere =>
      if isThere && !force then
        let message := "File exists: ".toList ++ path.text ++ " (use --force to overwrite)\n".toList
        ({ out := [], err := withoutControls message, exit := 1, crash := none }, tree)
      else
        match tree.write path (Utf8.encode source) with
        | .ok tree => ({ out := [], err := [], exit := 0, crash := none }, tree)
        | .error error => (.crashed (.output path.text error), tree)

/-- Reports on a generated module and delivers it. Diagnostics are printed first, and make the command
fail. -/
def deliverGenerated (tree : Tree) (output : Option Path) (force : Bool)
    (generated : TestModule.Generated) : Result × Tree :=
  let complaints := withoutControls (unlines (generated.diagnostics.map (·.text)))
  match generated.source with
  | none => ({ out := [], err := complaints, exit := 1, crash := none }, tree)
  | some source =>
    let (result, tree) := deliver tree output force source
    ({ result with
      err := complaints ++ result.err
      exit := max result.exit (exitStatus (!generated.diagnostics.isEmpty)) }, tree)

def generateModule (tree : Tree) (fetch : Fetch) (source : Path) (choice : SettingsChoice)
    (output : Option Path) (force : Bool) : Result × Tree :=
  match chosenSettings tree choice with
  | .error error => (.ofSettingsError error, tree)
  | .ok settings =>
    let options : TestModule.Options :=
      { className := settings.className, usings := settings.usings, comment := settings.comment }
    match TestModule.ofSource tree fetch options (.file source) source.text with
    | .error failure => (.ofFailure failure, tree)
    | .ok generated => deliverGenerated tree output force generated

def Command.execute (tree : Tree) (fetch : Fetch) : Command → Result × Tree
  | list source format => (listExamples tree fetch source format, tree)
  | run source choice format verbose => (runExamples tree fetch source choice format verbose, tree)
  | generate source choice output force => generateModule tree fetch source choice output force

def execute (tree : Tree) (fetch : Fetch) (arguments : List Text) : Result × Tree :=
  match Command.ofArguments? arguments with
  | some command => command.execute tree fetch
  | none => (.usageError, tree)

end DocExamples.CommandLine
