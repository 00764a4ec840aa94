import DocExamples.Text.Basic

namespace DocExamples.Documentation

/-- A code block; it is run when it is marked as a doctest. -/
structure CodeBlock where
  text : Text
  doctest : Bool
  deriving DecidableEq, Repr

structure Section where
  name : Option Text
  blocks : List CodeBlock
  deriving DecidableEq, Repr

structure Record where
  name : Text
  examples : List Section
  deriving DecidableEq, Repr

end DocExamples.Documentation
