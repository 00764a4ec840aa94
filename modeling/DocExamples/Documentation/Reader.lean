import DocExamples.Documentation.Record
import DocExamples.Markup.Tree

namespace DocExamples.Documentation

open Text Markup

inductive ReadError
  /-- The markup is rejected. -/
  | rejectedMarkup
  /-- A number in the markup has too many digits. -/
  | overlongNumber (digits : Nat)
  /-- The markup holds no `doc` element. -/
  | noDocElement
  deriving DecidableEq, Repr

namespace ReadError

def message : ReadError → Text
  | rejectedMarkup => "The markup was rejected.".toList
  | overlongNumber digits => limitMessage digits
  | noDocElement => "Not an XML documentation file, no <doc> element found.".toList

def ofFault : Fault → ReadError
  | .unknownSection => rejectedMarkup
  | .overlongNumber digits => overlongNumber digits

end ReadError

def CodeBlock.ofElement (element : Tag × Content) : CodeBlock :=
  { text := element.2.prose
    doctest := element.1.attribute? "doctest".toList == some "true".toList }

def Section.ofElement (element : Tag × Content) : Section :=
  { name := element.1.attribute? "name".toList
    blocks := (element.2.childrenNamed "code".toList).map CodeBlock.ofElement }

def Record.ofElement (element : Tag × Content) : Record :=
  { name := (element.1.attribute? "name".toList).getD []
    examples := (element.2.findAll "example".toList).map Section.ofElement }

def hasDoc (tree : Content) : Bool := !(tree.findAll "doc".toList).isEmpty

/-- The records of a tree: one for each `member` element at any depth. -/
def recordsOf (tree : Content) : List Record :=
  (tree.findAll "member".toList).map Record.ofElement

def readTree (text : Text) : Except ReadError Content := (Content.ofText text).mapError .ofFault

def isDocumentation (text : Text) : Except ReadError Bool := (readTree text).map hasDoc

def parse (text : Text) : Except ReadError (List Record) := do
  let tree ← readTree text
  if hasDoc tree then .ok (recordsOf tree) else .error .noDocElement

end DocExamples.Documentation
