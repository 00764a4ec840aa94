import DocExamples.Text.Lines

namespace DocExamples.Text

def isHollow (line : Text) : Bool := line.all isIndent

def commonStart : Text → Text → Text
  | a :: as, b :: bs => if a = b then a :: commonStart as bs else []
  | _, _ => []

/-- The longest run of spaces and tabs with which every line that is not hollow starts. -/
def margin (lines : List Text) : Text :=
  match (lines.filter fun line => !isHollow line).map (·.takeWhile isIndent) with
  | [] => []
  | indent :: rest => rest.foldl commonStart indent

/-- A hollow line becomes empty, any other line loses the margin. -/
def dropMargin (m line : Text) : Text :=
  if isHollow line then [] else line.drop m.length

def dedentLines (lines : List Text) : List Text :=
  lines.map (dropMargin (margin lines))

def dedent (t : Text) : Text :=
  joinWith ['\n'] (dedentLines (pieces '\n' t))

/-- Characters that, at the end of a line, open a block or continue the line on the next one. -/
def opensNext (c : Char) : Bool :=
  c == '\\' || c == ':' || c == '(' || c == '[' || c == '\x7b' || c == ','

/-- The first line of a block stands right after its opening tag when it starts with a character
other than white space, does not reach into the next line, and something follows it. -/
def startsInTag (first rest : Text) : Bool :=
  (first.head?.any fun c => !isBlank c) &&
    !((trimEnd isBlank first).getLast?.any opensNext) &&
    !rest.all isBlank

/-- Removes the common indentation of a block of code. A first line that stands right after its
opening tag keeps its place and is left out of the common indentation. -/
def dedentCode (code : Text) : Text :=
  match cutAt? '\n' code with
  | some (first, rest) =>
    if startsInTag first rest then first ++ '\n' :: dedent rest else dedent code
  | none => dedent code

end DocExamples.Text
