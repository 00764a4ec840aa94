import DocExamples.Documentation.Source
import DocExamples.Example.MethodName
import DocExamples.Language
import DocExamples.TestModule.Diagnostic
import DocExamples.TestModule.Layout

namespace DocExamples.TestModule

open Text Script Documentation Files

structure Options where
  className : Text
  usings : List Text
  comment : Text
  deriving DecidableEq, Repr

/-- The text of a generated module, if one was generated, and what is wrong with its source. -/
structure Generated where
  source : Option Text
  diagnostics : List Diagnostic
  deriving DecidableEq, Repr

def Generated.isClean (generated : Generated) : Bool := generated.diagnostics.isEmpty

def Generated.refused (diagnostic : Diagnostic) : Generated :=
  { source := none, diagnostics := [diagnostic] }

inductive Failure
  | load (error : LoadError)
  | compile (cause : Cause)
  deriving DecidableEq, Repr

def suffixed (name : Text) (n : Nat) : Text := name ++ '_' :: ofNat n

/-- The name itself if it is free, or the first free one with a number from 2 on. -/
def freeName (taken : List Text) (name : Text) : Text :=
  if taken.contains name then
    (((List.range (taken.length + 1)).map fun i => suffixed name (i + 2)).find?
      fun candidate => !taken.contains candidate).getD name
  else name

/-- Gives each name a free one, in order. -/
def distinctNames (taken : List Text) : List Text → List Text
  | [] => []
  | name :: names =>
    let free := freeName taken name
    free :: distinctNames (free :: taken) names

variable [Language]

/-- What keeps an example from being compiled, if anything does. A NUL in its code is an error that
ends the generation. What the compiler has to say besides goes to the generator's own standard error. -/
def check (e : Example) : Except Cause (Option Diagnostic) :=
  let file := "<doctest>".toList
  match compile file (testedCode e) with
  | .ok _ => .ok none
  | .error (.fault error) => .ok (some (.brokenExample e.name error))
  | .error refusal => .error (.ofRefusal file refusal)

def sift : List Example → Except Cause (List Example × List Diagnostic)
  | [] => .ok ([], [])
  | e :: es =>
    match check e, sift es with
    | .error cause, _ => .error cause
    | _, .error cause => .error cause
    | .ok none, .ok (sound, diagnostics) => .ok (e :: sound, diagnostics)
    | .ok (some diagnostic), .ok (sound, diagnostics) => .ok (sound, diagnostic :: diagnostics)

def methods (comment : Text) (es : List Example) : List Text :=
  List.zipWith (method comment) (distinctNames [] (es.map (MethodName.collectable ·.name))) es

def ofRecords (options : Options) (records : List Record) : Except Cause Generated :=
  match checkClassName options.className with
  | some diagnostic => .ok (.refused diagnostic)
  | none =>
    (sift (Example.ofRecords records)).map fun (sound, diagnostics) =>
      { source := some (render options.className options.usings (methods options.comment sound))
        diagnostics }

/-- The test module of a source that is shown as `shown`. -/
def ofSource (tree : Tree) (fetch : Fetch) (options : Options) (source : Source) (shown : Text) :
    Except Failure Generated :=
  match load tree fetch source with
  | .ok records => (ofRecords options records).mapError .compile
  | .error (.missing _) => .ok (.refused (.missingFile shown))
  | .error error => .error (.load error)

end DocExamples.TestModule
