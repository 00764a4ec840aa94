import DocExamples.Script.Fault

namespace DocExamples.Script

open Text

inductive Token
  | name (text : Text)
  | int (value : Nat)
  | str (text : Text)
  /-- A string with a fault in its escapes. -/
  | brokenStr (fault : Fault)
  | op (text : Text)
  | newline
  | indent
  | dedent
  | stop
  deriving DecidableEq, Repr

structure Lexeme where
  token : Token
  line : Nat
  depth : Nat
  deriving DecidableEq, Repr

inductive Finish
  /-- At the end of the script. -/
  | complete
  /-- At a fault that is reported even if an earlier token cannot stand where it does. -/
  | raised (error : CompileError)
  /-- At a fault that is reported only when everything before it can stand where it does. The bracket
  that is open there, if one is, comes with its line. -/
  | stopped (error : CompileError) (bracket : Option (Char × Nat))
  deriving DecidableEq, Repr

structure Lexing where
  lexemes : List Lexeme
  finish : Finish
  deriving DecidableEq, Repr

/-- An open level of indentation: its columns with tabs of eight and of one. -/
structure Level where
  column : Nat
  narrow : Nat
  deriving DecidableEq, Repr

/-- The white space that lines joined by backslashes start with: the columns that it reaches, and the
column before the first backslash, which counts for all the lines. Nought stands for none. -/
structure Lead where
  level : Level
  kept : Nat
  deriving DecidableEq, Repr

/-- Where the reader is: the line, the open levels of indentation, the open brackets, and how a line has
started. -/
structure Position where
  line : Nat
  levels : List Level
  brackets : List (Char × Nat)
  lead : Lead
  deriving DecidableEq, Repr

namespace Lexing

def isLineBlank (c : Char) : Bool := c == ' ' || c == '\t' || c == '\x0c'

/-- The columns to which the white space at the start of a line reaches. -/
def indentation : Level → Text → Level
  | level, c :: text =>
    if c = ' ' then indentation ⟨level.column + 1, level.narrow + 1⟩ text
    else if c = '\t' then indentation ⟨(level.column / 8 + 1) * 8, level.narrow + 1⟩ text
    else if c = '\x0c' then indentation ⟨0, 0⟩ text
    else level
  | level, [] => level

def noLead : Lead := ⟨⟨0, 0⟩, 0⟩

def leadPast (lead : Lead) (text : Text) : Lead :=
  { lead with level := indentation lead.level text }

def leadJoined (lead : Lead) : Lead :=
  { lead with kept := if lead.kept = 0 then lead.level.column else lead.kept }

def leadLevel (lead : Lead) : Level :=
  if lead.kept = 0 then lead.level else ⟨lead.kept, lead.kept⟩

/-- The levels that are left, and how many are closed, when a line starts at a smaller column. -/
def closeLevels (column : Nat) : List Level → Nat × List Level
  | [] => (0, [])
  | level :: levels =>
    if column < level.column then
      let (closed, left) := closeLevels column levels
      (closed + 1, left)
    else (0, level :: levels)

def mostLevels : Nat := 100

def mostBrackets : Nat := 200

/-- The tokens of a change of indentation and the levels open after it, or the fault in it. -/
def changeLevel (level : Level) (levels : List Level) : Except Fault (List Token × List Level) :=
  match levels with
  | [] => .ok ([], [level])
  | top :: _ =>
    if level.column = top.column then
      if level.narrow = top.narrow then .ok ([], levels) else .error .mixedTabs
    else if level.column > top.column then
      if mostLevels ≤ levels.length then .error .tooManyLevels
      else if level.narrow ≤ top.narrow then .error .mixedTabs
      else .ok ([.indent], level :: levels)
    else
      let (closed, left) := closeLevels level.column levels
      match left with
      | [] => .error .unknownDedent
      | top :: _ =>
        if level.column ≠ top.column then .error .unknownDedent
        else if level.narrow ≠ top.narrow then .error .mixedTabs
        else .ok (List.replicate closed .dedent, left)

/-- A string literal that has been read: what stands inside its quotes, the rest of the script and the
line it ends in. -/
structure Literal where
  inside : Text
  rest : Text
  line : Nat

/-- The value of the hexadecimal digits of an escape after its letter, as many as the letter asks for,
or how many there are. -/
def escapeNumber (count : Nat) (text : Text) : Except Nat Nat :=
  let digits := (text.takeWhile isHexDigit).take count
  if digits.length = count then .ok (numeral 16 digits) else .error digits.length

/-- What follows a backslash in a string: the text that it makes and the number of characters that
belong to it, or how far it goes and why it makes none. A backslash that starts no escape stays. -/
def readEscape (text : Text) : Except (Nat × String) (Text × Nat) :=
  let numbered (count : Nat) (kind : String) : Except (Nat × String) (Text × Nat) :=
    match escapeNumber count text.tail with
    | .ok n =>
      if 0x10FFFF < n then .error (1 + count, "illegal Unicode character")
      else .ok ([if n.isValidChar then Char.ofNat n else '\uFFFD'], 1 + count)
    | .error found => .error (1 + found, "truncated \\" ++ kind ++ " escape")
  match text with
  | [] => .ok (['\\'], 0)
  | c :: rest =>
    if c = 'n' then .ok (['\n'], 1)
    else if c = 't' then .ok (['\t'], 1)
    else if c = 'r' then .ok (['\r'], 1)
    else if c = 'a' then .ok (['\x07'], 1)
    else if c = 'b' then .ok (['\x08'], 1)
    else if c = 'f' then .ok (['\x0c'], 1)
    else if c = 'v' then .ok (['\x0b'], 1)
    else if c = '\n' then .ok ([], 1)
    else if c = '\\' || c = '\x27' || c = '\x22' then .ok ([c], 1)
    else if c = 'x' then numbered 2 "xXX"
    else if c = 'u' then numbered 4 "uXXXX"
    else if c = 'U' then numbered 8 "UXXXXXXXX"
    else if c = 'N' then
      match cutAt? '\x7d' rest with
      | some ('\x7b' :: name, _) => .error (name.length + 3, "unknown Unicode character name")
      | _ => .error (1, "malformed \\N character escape")
    else if '0' ≤ c && c ≤ '7' then
      let digits := (text.takeWhile fun c => '0' ≤ c && c ≤ '7').take 3
      .ok ([Char.ofNat (numeral 8 digits)], digits.length)
    else if c.toNat < 0x80 then .ok (['\\', c], 1)
    else .ok (['\\'], 0)

/-- The text that the inside of a string literal stands for. `position` counts what has been read: a
character beyond ASCII counts as ten, a backslash before one as six. The fuel bounds the number of
characters. -/
def unescape : (fuel position : Nat) → Text → Except Fault Text
  | 0, _, text => .ok text
  | _, _, [] => .ok []
  | fuel + 1, position, c :: text =>
    if c = '\\' then
      match readEscape text with
      | .ok (value, count) =>
        let width := if count = 0 then 6 else 1 + count
        (unescape fuel (position + width) (text.drop count)).map (value ++ ·)
      | .error (count, reason) => .error (.invalidEscape position (position + 1 + count) reason)
    else
      (unescape fuel (position + (if c.toNat < 0x80 then 1 else 10)) text).map (c :: ·)

def stringToken (inside : Text) : Token :=
  match unescape inside.length 0 inside with
  | .ok text => .str text
  | .error fault => .brokenStr fault

def Literal.after (taken : Text) (literal : Literal) : Literal :=
  { literal with inside := taken ++ literal.inside }

/-- Reads a string from after its opening quotes; the fuel bounds the number of its characters. -/
def readString (quote : Char) (triple : Bool) (first : Nat) :
    (fuel line : Nat) → Text → Except CompileError Literal
  | 0, line, _ => .error ⟨if triple then .unterminatedBlock line else .unterminatedString line, first⟩
  | _, line, [] =>
    .error ⟨if triple then .unterminatedBlock (line - 1) else .unterminatedString (line - 1), first⟩
  | fuel + 1, line, c :: text =>
    if c = quote && (!triple || text.take 2 == [quote, quote]) then
      .ok ⟨[], if triple then text.drop 2 else text, line⟩
    else if c = '\n' && !triple then .error ⟨.unterminatedString line, first⟩
    else if c = '\\' then
      (readString quote triple first fuel (if text.head? = some '\n' then line + 1 else line)
        text.tail).map (·.after (c :: text.take 1))
    else
      (readString quote triple first fuel (if c = '\n' then line + 1 else line) text).map
        (·.after [c])

/-- The digits of a kind at the start of a text, single underscores between them left out, and the
rest; or what stands after an underscore in the place of a digit. -/
def digitRun (isDigit : Char → Bool) : Text → Except (Option Char) (Text × Text)
  | [] => .ok ([], [])
  | '_' :: c :: text =>
    if isDigit c then (digitRun isDigit text).map fun (digits, rest) => (c :: digits, rest)
    else .error (some c)
  | '_' :: [] => .error none
  | c :: text =>
    if isDigit c then (digitRun isDigit text).map fun (digits, rest) => (c :: digits, rest)
    else .ok ([], c :: text)

def closingOf (opening : Char) : Char :=
  if opening = '(' then ')' else if opening = '[' then ']' else '\x7d'

/-- Operators of several characters, longer ones first. -/
def longOperators : List Text :=
  ["//=", "**=", "<<=", ">>=", "...", "==", "!=", "<=", ">=", "//", "**", "<<", ">>", "->", "+=",
    "-=", "*=", "/=", "%=", "&=", "|=", "^=", "@=", ":="].map String.toList

def readOperator (c : Char) (text : Text) : Text × Text :=
  match longOperators.find? (·.isPrefixOf (c :: text)) with
  | some operator => (operator, text.drop (operator.length - 1))
  | none => ([c], text)

def isQuote (c : Char) : Bool := c == '\x27' || c == '\x22'

def startsName (c : Char) : Bool := c.isAlpha || c == '_' || c.toNat ≥ 0x80

def inName (c : Char) : Bool := startsName c || c.isDigit

def wordsAfterNumber : List Text :=
  ["and", "else", "for", "if", "in", "is", "not", "or"].map String.toList

/-- Whether a number may end before a text. A letter beyond ASCII starts another token. -/
def mayEndNumber (rest : Text) : Bool :=
  !rest.head?.any (fun c => startsName c && c.toNat < 0x80) || wordsAfterNumber.any (·.isPrefixOf rest)

def digitFault (base : Nat) (kind : String) : Option Char → Fault
  | some c => if base ≠ 16 && c.isDigit then .invalidDigit c kind else .invalidNumber kind
  | none => .invalidNumber kind

/-- Reads a number in digits of a kind, after the mark of its base. -/
def readBased (base : Nat) (kind : String) (text : Text) : Except Fault (Nat × Text) :=
  let inBase (c : Char) : Bool :=
    if base = 16 then isHexDigit c else c.isDigit && c.toNat - 48 < base
  match digitRun inBase text with
  | .error c => .error (digitFault base kind c)
  | .ok ([], rest) => .error (digitFault base kind rest.head?)
  | .ok (digits, rest) =>
    if rest.head?.any fun c => base ≠ 16 && c.isDigit then .error (digitFault base kind rest.head?)
    else if mayEndNumber rest then .ok (numeral base digits, rest)
    else .error (.invalidNumber kind)

/-- Reads a number. One in decimal digits starts with nought only if it is nought. -/
def readNumber (text : Text) : Except Fault (Nat × Text) :=
  match text with
  | '0' :: mark :: rest =>
    if mark = 'x' || mark = 'X' then readBased 16 "hexadecimal" rest
    else if mark = 'o' || mark = 'O' then readBased 8 "octal" rest
    else if mark = 'b' || mark = 'B' then readBased 2 "binary" rest
    else readDecimal
  | _ => readDecimal
where
  readDecimal : Except Fault (Nat × Text) :=
    match digitRun Char.isDigit text with
    | .error _ => .error (.invalidNumber "decimal")
    | .ok (digits, rest) =>
      if digits.head? = some '0' && digits.any (· != '0') then .error .leadingZeros
      else if digits.head? ≠ some '0' && mostDigits < digits.length then
        .error (.overlongNumber digits.length)
      else if mayEndNumber rest then .ok (numeral 10 digits, rest)
      else .error (.invalidNumber "decimal")

/-- Marks before a string: `r` makes backslashes stand for themselves, `u` changes nothing. -/
def stringMarks : List Text := ["r", "R", "u", "U"].map String.toList

/-- The first character of a name that cannot stand where it does. -/
def misplaced? : Text → Option Char
  | [] => none
  | c :: rest => if startsIdentifier c then rest.find? fun c => !continuesIdentifier c else some c

/-- The string literal with which a text starts, if it does: whether backslashes stand for themselves in
it, and the text from its quotes on. -/
def stringStart? (text : Text) : Option (Bool × Text) :=
  let mark := text.takeWhile inName
  let rest := text.dropWhile inName
  if (mark.isEmpty || stringMarks.contains mark) && rest.head?.any isQuote then
    some (mark.map Char.toLower == ['r'], rest)
  else none

def readToken (c : Char) (rest : Text) : Except Fault (Token × Text) :=
  if startsName c then
    match misplaced? (c :: rest.takeWhile inName) with
    | some c => .error (if isPrintable c then .invalidCharacter c else .unprintableCharacter c)
    | none => .ok (.name (c :: rest.takeWhile inName), rest.dropWhile inName)
  else if c.isDigit then
    (readNumber (c :: rest)).map fun (value, rest) => (.int value, rest)
  else if isPrintable c then
    .ok (.op (readOperator c rest).1, (readOperator c rest).2)
  else .error (.unprintableCharacter c)

def before (lexing : Lexing) (lexemes : List Lexeme) : Lexing :=
  { lexing with lexemes := lexemes ++ lexing.lexemes }

/-- What one step of the reading comes to: its end, or lexemes and where it goes on; `fresh` says that a
line starts there. -/
inductive Step
  | ends (lexing : Lexing)
  | goes (lexemes : List Lexeme) (fresh : Bool) (here : Position) (rest : Text)

def endTokens (levels : List Level) : List Token :=
  List.replicate (levels.length - 1) .dedent ++ [.stop]

/-- The end of a script inside a line. -/
def cutShort (here : Position) : Lexing :=
  match here.brackets with
  | (opening, line) :: _ => ⟨[], .stopped ⟨.neverClosed opening, line⟩ (some (opening, line))⟩
  | [] => ⟨[], .stopped ⟨.unexpectedEnd, here.line⟩ none⟩

def joinStep (fresh : Bool) (here : Position) (rest : Text) : Step :=
  match rest with
  | '\n' :: rest =>
    if rest.isEmpty then .ends (cutShort here)
    else .goes [] fresh { here with line := here.line + 1 } rest
  | _ => .ends ⟨[], .stopped ⟨.brokenContinuation, here.line⟩ here.brackets.head?⟩

/-- A step at the start of a line. -/
def freshStep (here : Position) (text : Text) : Step :=
  let rest := text.dropWhile isLineBlank
  let lead := leadPast here.lead text
  match rest with
  | [] => .ends ⟨(endTokens here.levels).map fun token => ⟨token, here.line - 1, 0⟩, .complete⟩
  | c :: after =>
    if c = '#' || c = '\n' then
      .goes [] true { here with line := here.line + 1, lead := noLead }
        ((rest.dropWhile (· != '\n')).drop 1)
    else if c = '\\' then joinStep true { here with lead := leadJoined lead } after
    else
      match changeLevel (leadLevel lead) here.levels with
      | .error fault => .ends ⟨[], .stopped ⟨fault, here.line⟩ none⟩
      | .ok (tokens, levels) =>
        .goes (tokens.map fun token => ⟨token, here.line, 0⟩) false { here with levels, lead := noLead }
          rest

def stringStep (isRaw : Bool) (here : Position) (text : Text) : Step :=
  match text with
  | [] => .ends (cutShort here)
  | quote :: rest =>
    let triple := rest.take 2 == [quote, quote]
    let inside := if triple then rest.drop 2 else rest
    match readString quote triple here.line (inside.length + 1) here.line inside with
    | .error error => .ends ⟨[], .raised error⟩
    | .ok literal =>
      let token := if isRaw then .str literal.inside else stringToken literal.inside
      .goes [⟨token, here.line, here.brackets.length⟩] false { here with line := literal.line }
        literal.rest

def openStep (here : Position) (c : Char) (rest : Text) : Step :=
  if mostBrackets ≤ here.brackets.length then .ends ⟨[], .raised ⟨.tooManyBrackets, here.line⟩⟩
  else
    .goes [⟨.op [c], here.line, here.brackets.length + 1⟩] false
      { here with brackets := (c, here.line) :: here.brackets } rest

def closeStep (here : Position) (c : Char) (rest : Text) : Step :=
  match here.brackets with
  | [] => .ends ⟨[], .raised ⟨.unmatched c, here.line⟩⟩
  | (opening, line) :: outer =>
    if closingOf opening = c then
      .goes [⟨.op [c], here.line, outer.length⟩] false { here with brackets := outer } rest
    else
      let fault := .mismatched c opening (if line = here.line then none else some line)
      .ends ⟨[], .raised ⟨fault, here.line⟩⟩

def tokenStep (here : Position) (c : Char) (rest : Text) : Step :=
  match stringStart? (c :: rest) with
  | some (isRaw, literal) => stringStep isRaw here literal
  | none =>
    if c = '(' || c = '[' || c = '\x7b' then openStep here c rest
    else if c = ')' || c = ']' || c = '\x7d' then closeStep here c rest
    else
      match readToken c rest with
      | .error fault => .ends ⟨[], .raised ⟨fault, here.line⟩⟩
      | .ok (token, rest) => .goes [⟨token, here.line, here.brackets.length⟩] false here rest

def innerStep (here : Position) (text : Text) : Step :=
  let below := { here with line := here.line + 1 }
  match text with
  | [] => .ends (cutShort here)
  | c :: rest =>
    if isLineBlank c then .goes [] false here rest
    else if c = '#' then .goes [] false here (rest.dropWhile (· != '\n'))
    else if c = '\n' then
      if here.brackets.isEmpty then .goes [⟨.newline, here.line, 0⟩] true below rest
      else .goes [] false below rest
    else if c = '\\' then joinStep false here rest
    else tokenStep here c rest

def step (fresh : Bool) : Position → Text → Step :=
  if fresh then freshStep else innerStep

/-- Reads tokens from a position on. The fuel bounds the number of steps. -/
def read : (fuel : Nat) → (fresh : Bool) → Position → Text → Lexing
  | 0, _, _, _ => ⟨[], .complete⟩
  | fuel + 1, fresh, here, text =>
    match step fresh here text with
    | .ends lexing => lexing
    | .goes lexemes fresh here rest => (read fuel fresh here rest).before lexemes

/-- The tokens of a script, whose lines end at LF. A last line without one ends all the same. -/
def ofText (text : Text) : Lexing :=
  let text := if text.getLast? = some '\n' then text else text ++ ['\n']
  read (2 * text.length + 2) true { line := 1, levels := [⟨0, 0⟩], brackets := [], lead := noLead } text

end Lexing

end DocExamples.Script
