import DocExamples.Markup.Tag

namespace DocExamples.Markup

open Text

inductive Fault
  /-- A marked section without a known name. -/
  | unknownSection
  /-- A reference by a number with too many digits. -/
  | overlongNumber (digits : Nat)
  deriving DecidableEq, Repr

inductive AsideKind
  | comment
  | instruction
  | declaration
  | cdata
  deriving DecidableEq, Repr

inductive Token
  | data (text : Text)
  | start (tag : Tag) (selfClosing : Bool)
  | stop (name : Text)
  | aside (kind : AsideKind) (text : Text)
  deriving DecidableEq, Repr

namespace Token

/-- The element whose content is read as it stands, up to its end tag. -/
inductive RawElement
  | script
  | style
  deriving DecidableEq, Repr

def RawElement.name : RawElement → Text
  | script => "script".toList
  | style => "style".toList

def RawElement.ofName? (name : Text) : Option RawElement :=
  if name = script.name then some script else if name = style.name then some style else none

inductive Reading
  /-- Tokens, the raw element that is open afterwards, and the rest. -/
  | tokens (tokens : List Token) (raw : Option RawElement) (rest : Text)
  /-- The source ends inside the construct. -/
  | incomplete
  | fails (fault : Fault)

/-- Text before the first `opening` that is followed by white space, `middle` in the same way, and
`>`; and what follows the `>`. -/
def cutClose? (opening : Text) (middle : Option Char) : Text → Option (Text × Text)
  | [] => none
  | c :: text =>
    let closed := do
      let rest ← after? opening (c :: text)
      let rest := rest.dropWhile isBlank
      let rest ← match middle with
        | none => some rest
        | some m => (after? [m] rest).map (·.dropWhile isBlank)
      after? ['>'] rest
    match closed with
    | some rest => some ([], rest)
    | none => (cutClose? opening middle text).map fun (before, rest) => (c :: before, rest)

def readAside (kind : AsideKind) : Option (Text × Text) → Reading
  | some (text, rest) => .tokens [.aside kind text] none rest
  | none => .incomplete

/-- Whether a text starts with `word`, given in lower case, in any case. -/
def startsWithAnyCase (word text : Text) : Bool :=
  (text.take word.length).map Char.toLower == word

def inSectionName (c : Char) : Bool :=
  c.isAlphanum || c == '-' || c == '_' || c == '.'

def closedByTwo : List Text := ["temp", "cdata", "ignore", "include", "rcdata"].map String.toList

def closedByOne : List Text := ["if", "else", "endif"].map String.toList

def sectionAside : Option (Text × Text) → Reading
  | some (text, rest) =>
    if startsWithAnyCase "cdata[".toList text then
      .tokens [.aside .cdata (text.drop 6)] none rest
    else .tokens [.aside .declaration text] none rest
  | none => .incomplete

/-- Reads a marked section from after its `<![`. -/
def readSection (text : Text) : Reading :=
  match text with
  | [] => .incomplete
  | c :: _ =>
    if isAsciiLetter c then
      let name := text.takeWhile inSectionName
      let word := name.map Char.toLower
      if ((text.drop name.length).dropWhile isBlank).isEmpty then .incomplete
      else if closedByTwo.contains word then sectionAside (cutClose? [']'] (some ']') text)
      else if closedByOne.contains word then sectionAside (cutClose? [']'] none text)
      else .fails .unknownSection
    else .fails .unknownSection

def readDeclaration (text : Text) : Reading :=
  match text with
  | '-' :: '-' :: text => readAside .comment (cutClose? ['-', '-'] none text)
  | '[' :: text => readSection text
  | text =>
    if startsWithAnyCase "doctype".toList text then
      readAside .declaration (cutAt? '>' (text.drop 7))
    else readAside .comment (cutAt? '>' text)

def inEndName (c : Char) : Bool :=
  c.isAlphanum || c == '-' || c == '.' || c == ':' || c == '_'

def plainEnd? (text : Text) : Option (Text × Text) :=
  let text := text.dropWhile isBlank
  if text.head?.any isAsciiLetter then
    (after? ['>'] ((text.dropWhile inEndName).dropWhile isBlank)).map fun rest =>
      (lower (text.takeWhile inEndName), rest)
  else none

def readEnd (text : Text) : Reading :=
  match cutAt? '>' text with
  | none => .incomplete
  | some (inside, rest) =>
    match plainEnd? text with
    | some (name, rest) => .tokens [.stop name] none rest
    | none =>
      match inside with
      | [] => .tokens [] none rest
      | c :: _ =>
        if isAsciiLetter c then .tokens [.stop (lower (inside.takeWhile Tag.inName))] none rest
        else .tokens [.aside .comment inside] none rest

/-- Reads an end tag inside a raw element: any but the element's own is data. -/
def readRawEnd (raw : RawElement) (text : Text) : Reading :=
  match cutAt? '>' text with
  | none => .incomplete
  | some (inside, rest) =>
    match plainEnd? text with
    | some (name, rest) =>
      if name = raw.name then .tokens [.stop name] none rest
      else .tokens [.data ('<' :: '/' :: inside ++ ['>'])] (some raw) rest
    | none => .tokens [.data ('<' :: '/' :: inside ++ ['>'])] (some raw) rest

def readStart (text : Text) : Reading :=
  match Tag.read text with
  | .tag tag selfClosing rest =>
    .tokens [.start tag selfClosing] (if selfClosing then none else RawElement.ofName? tag.name) rest
  | .broken rest => .tokens [.data ('<' :: text.take (text.length - rest.length))] none rest
  | .incomplete => .incomplete
  | .overlong digits => .fails (.overlongNumber digits)

/-- Reads what follows a `<` outside raw elements; `none` where the source ends right there. -/
def readMarkup? (text : Text) : Option Reading :=
  match text with
  | [] => none
  | '/' :: text => some (readEnd text)
  | '?' :: text => some (readAside .instruction (cutAt? '>' text))
  | '!' :: text => some (readDeclaration text)
  | c :: text =>
    if isAsciiLetter c then some (readStart (c :: text))
    else some (.tokens [.data ['<']] none (c :: text))

inductive ReferenceReading
  /-- Data, and the rest after it. -/
  | data (text rest : Text)
  /-- The pass stops after the data, with the rest still to be read. -/
  | stop (text rest : Text)
  | fails (fault : Fault)

/-- Reads a number from after its `&#`. It has to be followed by a character that is no hexadecimal
digit. -/
def readNumber (text : Text) : ReferenceReading :=
  let hex := text.head? == some 'x' || text.head? == some 'X'
  let digits := if hex then text.tail.takeWhile isHexDigit else text.takeWhile isAsciiDigit
  let rest := if hex then text.tail.dropWhile isHexDigit else text.dropWhile isAsciiDigit
  if !digits.isEmpty && rest.head?.any (fun c => !isHexDigit c) then
    match Reference.readDigits hex digits with
    | .ok n => .data [Reference.ofNumber n] (Reference.dropSemicolon rest).2
    | .error digits => .fails (.overlongNumber digits)
  else if text.contains ';' then .stop ['&', '#'] text
  else .stop [] ('&' :: '#' :: text)

def inReferenceName (c : Char) : Bool := c.isAlphanum || c == '-' || c == '.'

/-- The longest start of a name that a hyphen or a full stop follows in it. -/
def nameBeforePoint (name : Text) : Text :=
  ((name.reverse.dropWhile fun c => c.isAlphanum).drop 1).reverse

/-- Reads what follows an ampersand; `final` says that this is the second pass. -/
def readReference (final : Bool) (text : Text) : ReferenceReading :=
  match text with
  | [] => .stop [] ['&']
  | '#' :: text => readNumber text
  | c :: text =>
    if isAsciiLetter c then
      let run := (c :: text).takeWhile inReferenceName
      let rest := (c :: text).dropWhile inReferenceName
      let name := if rest.isEmpty then nameBeforePoint run else run
      if name.isEmpty then
        .stop [] (if final && text.isEmpty then [c] else '&' :: c :: text)
      else .data (Reference.ofName name) (Reference.dropSemicolon ((c :: text).drop name.length)).2
    else .data ['&'] (c :: text)

/-- The data that an incomplete construct makes in the second pass, and the rest: everything up to
and with the next `>`, else up to the next `<`, else the character `<` alone. -/
def salvage (text : Text) : Text × Text :=
  match cutAt? '>' text with
  | some (inside, rest) => ('<' :: inside ++ ['>'], rest)
  | none =>
    match cutAt? '<' text with
    | some (inside, rest) => ('<' :: inside, '<' :: rest)
    | none => (['<'], text)

/-- The data of a raw element up to its end tag, and the rest from that end tag on. -/
def cutRaw? (raw : RawElement) : Text → Option (Text × Text)
  | [] => none
  | c :: text =>
    let here := do
      let rest ← after? ['<', '/'] (c :: text)
      let rest := rest.dropWhile isBlank
      if (rest.take raw.name.length).map foldChar == raw.name then
        after? ['>'] ((rest.drop raw.name.length).dropWhile isBlank)
      else none
    if here.isSome then some ([], c :: text)
    else (cutRaw? raw text).map fun (before, rest) => (c :: before, rest)

/-- What a pass has read: its tokens, the raw element that is open, and the rest of the source. -/
structure Pass where
  tokens : List Token
  raw : Option RawElement
  rest : Text

def Pass.after (pass : Pass) (tokens : List Token) : Pass :=
  { pass with tokens := tokens ++ pass.tokens }

def ofData (text : Text) : List Token := if text.isEmpty then [] else [.data text]

def isSpecial (c : Char) : Bool := c == '<' || c == '&'

inductive Step
  | stops (pass : Pass)
  | fails (fault : Fault)
  /-- The pass has read tokens and goes on. -/
  | goes (tokens : List Token) (raw : Option RawElement) (rest : Text)

def rawStep (raw : RawElement) (text : Text) : Step :=
  match cutRaw? raw text with
  | none => .stops ⟨[], some raw, text⟩
  | some (before, rest) =>
    match readRawEnd raw (rest.drop 2) with
    | .tokens tokens raw rest => .goes (ofData before ++ tokens) raw rest
    | .incomplete | .fails _ => .stops ⟨ofData before, some raw, rest⟩

/-- A step over a reference, from after its ampersand; `final` says that this is the second pass. -/
def referenceStep (final : Bool) (before : List Token) (text : Text) : Step :=
  match readReference final text with
  | .data value rest => .goes (before ++ ofData value) none rest
  | .stop value rest => .stops ⟨before ++ ofData value, none, rest⟩
  | .fails fault => .fails fault

def markupStep (final : Bool) (before : List Token) (text : Text) : Step :=
  match readMarkup? text with
  | none => .stops ⟨before, none, ['<']⟩
  | some (.tokens tokens raw rest) => .goes (before ++ tokens) raw rest
  | some (.fails fault) => .fails fault
  | some .incomplete =>
    if final then .goes (before ++ [.data (salvage text).1]) none (salvage text).2
    else .stops ⟨before, none, '<' :: text⟩

def plainStep (final : Bool) (text : Text) : Step :=
  let before := ofData (text.takeWhile fun c => !isSpecial c)
  match text.dropWhile fun c => !isSpecial c with
  | [] => .stops ⟨before, none, []⟩
  | c :: rest => if c = '&' then referenceStep final before rest else markupStep final before rest

def step (final : Bool) : Option RawElement → Text → Step
  | some raw, text => rawStep raw text
  | none, text => plainStep final text

/-- One pass over the source, or the first fault in it. The fuel bounds the number of constructs. -/
def readPass (final : Bool) : (fuel : Nat) → Option RawElement → Text → Except Fault Pass
  | 0, raw, text => .ok ⟨[], raw, text⟩
  | fuel + 1, raw, text =>
    match step final raw text with
    | .stops pass => .ok pass
    | .fails fault => .error fault
    | .goes tokens raw rest => (readPass final fuel raw rest).map (·.after tokens)

/-- The tokens of a document, or why a text is none. What the second pass leaves is data, but inside a raw
element it is dropped. -/
def ofText (text : Text) : Except Fault (List Token) := do
  let first ← readPass false text.length none text
  let second ← readPass true first.rest.length first.raw first.rest
  return first.tokens ++ second.tokens ++ if second.raw.isSome then [] else ofData second.rest

end Token

end DocExamples.Markup
