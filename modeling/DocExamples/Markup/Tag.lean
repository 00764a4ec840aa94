import DocExamples.Markup.Reference
import DocExamples.Text.Case

namespace DocExamples.Markup

open Text

structure Tag where
  name : Text
  attributes : List (Text × Text)
  deriving DecidableEq, Repr

def Tag.attribute? (tag : Tag) (name : Text) : Option Text :=
  tag.attributes.reverse.lookup name

/-- A place in the source: the character before it and the text after it. -/
structure Place where
  before : Char
  rest : Text
  deriving DecidableEq, Repr

namespace Place

def past (place : Place) (run rest : Text) : Place :=
  { before := run.getLastD place.before, rest }

/-- The place after white space and slashes, but before a slash that `>` follows. -/
def skipGaps (before : Char) : Text → Place
  | [] => ⟨before, []⟩
  | c :: text =>
    if isBlank c || (c == '/' && text.head? != some '>') then skipGaps c text
    else ⟨before, c :: text⟩

end Place

namespace Tag

def inName (c : Char) : Bool := !(isMarkupBlank c || c == '/' || c == '>' || c == '\x00')

def inAttributeName (c : Char) : Bool := !(isBlank c || c == '/' || c == '=' || c == '>')

def inBareValue (c : Char) : Bool := !(isBlank c || c == '>')

def isQuote (c : Char) : Bool := c == '\x27' || c == '\x22'

/-- An attribute's name may start after a quote, white space or a slash, with any character other
than white space, a slash and `>`. -/
def startsAttribute (place : Place) : Bool :=
  (isQuote place.before || isBlank place.before || place.before == '/') &&
    place.rest.head?.any fun c => !(isBlank c || c == '/' || c == '>')

/-- The value after the equals signs `signs` and the white space `gap`. A quote that is not closed
makes no quoted value: the value is then empty before it if there is white space, else it is a bare
one that starts at the last of several equals signs. -/
def valueAfter? (place : Place) (signs gap rest : Text) : Option (Text × Place) :=
  let bare (start : Text) :=
    let run := start.takeWhile inBareValue
    some (run, place.past run (start.dropWhile inBareValue))
  match rest with
  | q :: inner =>
    if isQuote q then
      match cutAt? q inner with
      | some (value, rest) => some (value, { before := q, rest })
      | none =>
        if !gap.isEmpty then some ([], place.past gap (q :: inner))
        else if signs.length ≥ 2 then bare ('=' :: q :: inner)
        else none
    else bare rest
  | [] => bare rest

/-- The value that an attribute's name is given, if an equals sign follows it. -/
def value? (place : Place) : Option (Text × Place) :=
  let text := place.rest.dropWhile isBlank
  let signs := text.takeWhile (· == '=')
  let text := text.dropWhile (· == '=')
  let gap := text.takeWhile isBlank
  if signs.isEmpty then none
  else valueAfter? (place.past (signs ++ gap) []) signs gap (text.dropWhile isBlank)

/-- Reads attributes one after another, with references in their values; the fuel bounds their number. -/
def attributesFrom : (fuel : Nat) → Place → List (Text × Text) × Place
  | 0, place => ([], place)
  | fuel + 1, place =>
    if startsAttribute place then
      let name := place.rest.take 1 ++ place.rest.tail.takeWhile inAttributeName
      let named := place.past name (place.rest.tail.dropWhile inAttributeName)
      let (value, valued) := (value? named).getD ([], named)
      let (attributes, last) := attributesFrom fuel (Place.skipGaps valued.before valued.rest)
      ((lower name, value) :: attributes, last)
    else ([], place)

/-- Attributes with the references in their values replaced, or how many digits of the first number with too
many there are. -/
def decodeValues : List (Text × Text) → Except Nat (List (Text × Text))
  | [] => .ok []
  | (name, value) :: attributes => do
    let value ← Reference.decode value
    return (name, value) :: (← decodeValues attributes)

inductive Reading
  /-- A tag, whether it closes itself, and what follows it. -/
  | tag (tag : Tag) (selfClosing : Bool) (rest : Text)
  /-- The tag is broken off by a character that cannot stand in it, and is data. -/
  | broken (rest : Text)
  /-- The source ends, or seems to end, inside the tag. -/
  | incomplete
  /-- A number in an attribute's value has too many digits. -/
  | overlong (digits : Nat)
  deriving DecidableEq, Repr

/-- What is read when the values of the attributes can be. -/
def Reading.decoding (attributes : List (Text × Text)) (reading : List (Text × Text) → Reading) : Reading :=
  match decodeValues attributes with
  | .ok attributes => reading attributes
  | .error digits => .overlong digits

/-- Reads a start tag from after its `<`, where its name starts. -/
def read (text : Text) : Reading :=
  let name := text.takeWhile inName
  let rest := text.dropWhile inName
  let gap := rest.takeWhile fun c => isBlank c || c == '/'
  let start : Place := (Place.mk '<' []).past (name ++ gap) (rest.drop gap.length)
  let (attributes, last) := attributesFrom text.length start
  match last.rest with
  | [] => .incomplete
  | '>' :: rest =>
    .decoding attributes (.tag ⟨lower name, ·⟩ (attributes.isEmpty && gap.getLast? == some '/') rest)
  | '/' :: '>' :: rest => .decoding attributes (.tag ⟨lower name, ·⟩ true rest)
  | c :: rest =>
    if isAsciiLetter c || c == '=' || c == '/' then .incomplete
    else .decoding attributes fun _ => .broken (c :: rest)

end Tag

end DocExamples.Markup
