import DocExamples.Console.Action
import DocExamples.Language
import DocExamples.Text.Margin

namespace DocExamples

open Text Script Console

/-- A piece of code and the name of the file it counts as. -/
structure Snippet where
  code : Text
  fileName : Text
  deriving DecidableEq, Repr

/-- How running code ends: it completes, it fails by an error that is told, or an error leaves the run. -/
inductive Ending
  | completed
  | failed (cause : Cause)
  | escaped (cause : Cause)
  deriving DecidableEq, Repr

/-- The ending with an error, or without one. An error that is contained is told by its text; where it has none,
the error that comes up instead leaves the run. -/
def Ending.of : Option Thrown → Ending
  | none => .completed
  | some thrown =>
    if thrown.type.isContained then
      match thrown.text with
      | .ok text => .failed ⟨thrown.type, text⟩
      | .error other => .escaped other
    else .escaped thrown.shown

variable [Language]

namespace Snippet

def warn (snippet : Snippet) (world : World) : Option Thrown × World :=
  let code := dedentCode snippet.code
  if snippet.fileName.contains '\x00' || code.contains '\x00' then (none, world)
  else Language.warn snippet.fileName code world

/-- Compiles a snippet without its margin, and runs it: the error with which that ends, if any. -/
def run (snippet : Snippet) (world : World) : Option Thrown × World :=
  match snippet.warn world with
  | (some thrown, world) => (some thrown, world)
  | (none, world) =>
    match compile snippet.fileName (dedentCode snippet.code) with
    | .error refusal => (some (.ofCause (.ofRefusal snippet.fileName refusal)), world)
    | .ok program => Language.run snippet.fileName program world

def waits (snippet : Snippet) : Bool :=
  match compile snippet.fileName (dedentCode snippet.code) with
  | .error _ => false
  | .ok program => Language.waits program

def countWaiting : List Snippet → World → Nat
  | [], _ => 0
  | snippet :: snippets, world =>
    (if snippet.waits then 1 else 0) +
      match snippet.run world with
      | (none, world) => countWaiting snippets world
      | _ => 0

/-- Runs snippets in order, up to the first one that ends with an error. -/
def runAll : List Snippet → World → Option Thrown × World
  | [], world => (none, world)
  | snippet :: snippets, world =>
    match snippet.run world with
    | (none, world) => runAll snippets world
    | ended => ended

end Snippet

/-- A snippet, alone or after the snippets of another context. -/
inductive Context
  | root (snippet : Snippet)
  | extend (parent : Context) (snippet : Snippet)
  deriving DecidableEq, Repr

namespace Context

def preamble (code : Text) : Context := .root ⟨code, "<preamble>".toList⟩

def importCode (names : List Text) : Text :=
  names.flatMap fun name => "import ".toList ++ name ++ ['\n']

def ofUsings (names : List Text) : Context := preamble (importCode names)

def defaultFileName : Text := "<doctest>".toList

def last : Context → Snippet
  | root snippet => snippet
  | extend _ snippet => snippet

def parent? : Context → Option Context
  | root _ => none
  | extend parent _ => some parent

/-- The snippets from the root on. -/
def chain : Context → List Snippet
  | root snippet => [snippet]
  | extend parent snippet => parent.chain ++ [snippet]

def source (context : Context) : Text :=
  joinWith ['\n'] (context.chain.map fun snippet => dedentCode snippet.code)

def run (context : Context) (world : World) : Ending × World :=
  let (thrown, world) := Snippet.runAll context.chain world
  (.of thrown, world)

/-- Runs the chain at the console in a namespace: how it ends, and the namespace after it. -/
def act (context : Context) (space : Language.Space) : Act (Ending × Language.Space) :=
  Act.onStreams fun streams =>
    let (ending, world) := context.run { space, streams }
    ((ending, world.space), world.streams)

end Context

end DocExamples
