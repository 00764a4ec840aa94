import DocExamples.Script.Grammar

namespace DocExamples.TestModule

open Text Script

inductive Diagnostic
  | missingFile (path : Text)
  | invalidClassName (name : Text)
  | uncollectableClassName (name : Text)
  | brokenExample (name : Text) (error : CompileError)
  deriving DecidableEq, Repr

namespace Diagnostic

def id : Diagnostic → String
  | missingFile _ => "DOCTEST0001"
  | invalidClassName _ => "DOCTEST0002"
  | uncollectableClassName _ => "DOCTEST0003"
  | brokenExample _ _ => "DOCTEST0004"

def title : Diagnostic → String
  | missingFile _ => "Missing XML documentation file"
  | invalidClassName _ => "Class name must be a valid identifier"
  | uncollectableClassName _ => "Class name must start with Test"
  | brokenExample _ _ => "Example code does not compile"

def message : Diagnostic → Text
  | missingFile path => "Add the documentation file ".toList ++ path
  | invalidClassName name => "Rename ".toList ++ name
  | uncollectableClassName name => "Rename ".toList ++ name ++ " to Test".toList ++ name
  | brokenExample name error =>
    "Fix ".toList ++ name ++ ": ".toList ++ error.fault.message ++ " (line ".toList ++
      ofNat error.line ++ [')']

def text (diagnostic : Diagnostic) : Text :=
  diagnostic.id.toList ++ ": ".toList ++ diagnostic.title.toList ++ ". ".toList ++ diagnostic.message

end Diagnostic

/-- What is wrong with the name of a test class, if anything is. Tests are collected from classes
whose names start with `Test`. -/
def checkClassName (name : Text) : Option Diagnostic :=
  if !isIdentifier name || keywords.contains name then some (.invalidClassName name)
  else if !"Test".toList.isPrefixOf name then some (.uncollectableClassName name)
  else none

end DocExamples.TestModule
