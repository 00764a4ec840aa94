import DocExamples.Text.Lines

namespace DocExamples

open Text

/-- An example's code before its output marker, and the output lines expected of it. -/
structure Expectation where
  exercised : Text
  lines : List Text
  deriving DecidableEq, Repr

namespace Expectation

def defaultComment : Text := ['#']

def markerWord : Text := "Output:".toList

/-- What is left of a text after each run of spaces and tabs it starts with, the longest run first. -/
def afterIndents : Text → List Text
  | [] => [[]]
  | c :: text => if isIndent c then afterIndents text ++ [c :: text] else [c :: text]

def afterLineEnd? : Text → Option Text
  | [] => some []
  | '\n' :: text => some text
  | '\r' :: '\n' :: text => some text
  | _ => none

/-- What follows the rest of a marker line after its indentation. -/
def afterMarkerBody? (comment text : Text) : Option Text := do
  let word ← after? comment text
  let stop ← after? markerWord (word.dropWhile isIndent)
  afterLineEnd? (stop.dropWhile isIndent)

/-- What follows a marker line with which the text starts: an indentation, the comment token, the
word `Output:`, spaces and tabs around them, and the line's end. -/
def afterMarker? (comment text : Text) : Option Text :=
  (afterIndents text).findSome? (afterMarkerBody? comment)

/-- The text before and after the first marker line; `fresh` says that the text starts a line. -/
def splitFrom (comment : Text) : (fresh : Bool) → Text → Option (Text × Text)
  | fresh, [] => if fresh then (afterMarker? comment []).map ([], ·) else none
  | fresh, c :: text =>
    match if fresh then afterMarker? comment (c :: text) else none with
    | some rest => some ([], rest)
    | none => (splitFrom comment (c == '\n') text).map fun (before, rest) => (c :: before, rest)

def splitAtMarker? (comment code : Text) : Option (Text × Text) :=
  splitFrom comment true code

def markerSpan? (comment code : Text) : Option (Nat × Nat) :=
  (splitAtMarker? comment code).map fun (before, rest) =>
    (before.length, code.length - rest.length)

/-- A comment's text: leading white space, the comment token and one space are taken off. -/
def stripComment (comment line : Text) : Text :=
  let body := line.dropWhile isBlank
  match after? comment body with
  | none => body
  | some (' ' :: rest) => rest
  | some rest => rest

/-- Splits an example at its output marker. Without a marker all of it is exercised, and a single
empty line is expected. -/
def read (comment code : Text) : Expectation :=
  let (exercised, remainder) := (splitAtMarker? comment code).getD (code, [])
  { exercised, lines := (splitLines remainder).map (stripComment comment) }

end Expectation

end DocExamples
