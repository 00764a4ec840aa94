import DocExamples.Example.Expectation
import DocExamples.Example.Extraction
import DocExamples.Text.Margin
import DocExamples.Text.Quoted

namespace DocExamples.TestModule

open Text

def step : Text := times 4 [' ']

def testedCode (e : Example) : Text := trim isBlank (dedentCode e.code)

def testedLines (comment : Text) (e : Example) : List Text :=
  comparableLines (Expectation.read comment e.code).lines

/-- The statement that names the code: one literal, or one for each line of it. -/
def codeAssignment (code : Text) : List Text :=
  let lines := wholeLines code
  if lines.length < 2 then ["code = ".toList ++ quote code]
  else "code = (".toList :: lines.map (fun line => step ++ quote line) ++ [[')']]

def methodLines (comment name : Text) (e : Example) : List Text :=
  let file := "<doctest ".toList ++ e.name ++ ['>']
  [("def ".toList ++ name ++ "(self):".toList), step ++ quote e.name] ++
    (codeAssignment (testedCode e)).map (step ++ ·) ++
    [step ++ "with ConsoleRedirector() as redirector:".toList,
      step ++ step ++ "ExecutionContext(code, filename=".toList ++ quote file ++
        ").run(dict(globals()))".toList,
      [],
      step ++ "assert redirector.captured_err == \"\"".toList,
      step ++ "assert comparable_lines(split_lines(redirector.captured_out)) == [".toList] ++
    (testedLines comment e).map (fun line => step ++ step ++ quote line ++ [',']) ++
    [step ++ [']']]

def method (comment name : Text) (e : Example) : Text :=
  indentLines step (joinWith ['\n'] (methodLines comment name e))

def header : List Text :=
  ["# ------------------------------------------------------------------",
    "# <auto-generated>",
    "#     This code was generated by xmldoctest.",
    "# </auto-generated>",
    "# ------------------------------------------------------------------"].map String.toList

def imports : List Text :=
  ["from xmldoctest.capture import ConsoleRedirector",
    "from xmldoctest.context import ExecutionContext",
    "from xmldoctest.lines import comparable_lines, split_lines"].map String.toList

def usingLines (usings : List Text) : List Text :=
  if usings.isEmpty then [] else [] :: usings.map ("import ".toList ++ ·)

def render (className : Text) (usings methods : List Text) : Text :=
  let body := if methods.isEmpty then step ++ "pass".toList else joinWith ['\n', '\n'] methods
  joinWith ['\n'] (header ++ imports ++ usingLines usings ++
    [[], [], "class ".toList ++ className ++ [':'], body, []])

end DocExamples.TestModule
