import DocExamples.Toml.Fault
import DocExamples.Toml.Value

namespace DocExamples.Toml

open Text

def fail {α : Type} (cause : Cause) (rest : Text) : Except Fault α := .error ⟨cause, rest.length⟩

def isSpace (c : Char) : Bool := c == ' ' || c == '\t'

/-- Controls, which no string and no comment may hold, but for a tab. -/
def isControl (c : Char) : Bool := (c.toNat < 0x20 && c != '\t') || c.toNat == 0x7F

def isControlInLines (c : Char) : Bool := isControl c && c != '\n'

/-- The text up to `delimiter`, which may hold no character of the class `illegal`, and what follows the
delimiter. -/
def readUntil (delimiter : Text) (illegal : Char → Bool) (text : Text) : Except Fault (Text × Text) :=
  match cut? delimiter text with
  | none => fail (.missingDelimiter delimiter) []
  | some (inside, rest) =>
    match inside.find? illegal with
    | some c => fail (.foundCharacter c) (text.dropWhile fun c => !illegal c)
    | none => .ok (inside, rest)

def readHex (count : Nat) (text : Text) : Except Fault (Text × Text) :=
  let digits := text.take count
  if digits.length = count && digits.all isHexDigit then
    let n := numeral 16 digits
    if n < 0xD800 || (0xDFFF < n && n ≤ 0x10FFFF) then .ok ([Char.ofNat n], text.drop count)
    else fail .notAScalarValue (text.drop count)
  else fail .invalidHexValue text

def escapes : List (Char × Char) :=
  [('b', '\x08'), ('t', '\t'), ('n', '\n'), ('f', '\x0c'), ('r', '\r'), ('\x22', '\x22'),
    ('\\', '\\')]

/-- Reads what follows a backslash. In a string of several lines it may end a line. -/
def readEscape (lines : Bool) (text : Text) : Except Fault (Text × Text) :=
  match text with
  | [] => fail .strayBackslash []
  | c :: rest =>
    if lines && c = '\n' then .ok ([], rest.dropWhile fun c => isSpace c || c == '\n')
    else if lines && isSpace c then
      match rest.dropWhile isSpace with
      | [] => .ok ([], [])
      | '\n' :: rest => .ok ([], rest.dropWhile fun c => isSpace c || c == '\n')
      | rest => fail .strayBackslash rest
    else if c = 'u' then readHex 4 rest
    else if c = 'U' then readHex 8 rest
    else
      match escapes.lookup c with
      | some value => .ok ([value], rest)
      | none => fail .strayBackslash rest

/-- Reads a basic string from after its opening quotes; the fuel bounds its characters. -/
def readBasic (lines : Bool) : (fuel : Nat) → Text → Except Fault (Text × Text)
  | 0, text => fail .unterminatedString text
  | _, [] => fail .unterminatedString []
  | fuel + 1, c :: text =>
    let more (value text : Text) : Except Fault (Text × Text) :=
      (readBasic lines fuel text).map fun (value', rest) => (value ++ value', rest)
    if c = '\x22' then
      if !lines then .ok ([], text)
      else
        match text with
        | '\x22' :: '\x22' :: rest => .ok ([], rest)
        | _ => more [c] text
    else if c = '\\' then
      match readEscape lines text with
      | .ok (value, rest) => more value rest
      | .error fault => .error fault
    else if (if lines then isControlInLines c else isControl c) then
      fail (.illegalCharacter c) (c :: text)
    else more [c] text

/-- Up to two quotes right after the end of a string of several lines belong to it. -/
def readTail (quote : Char) (text : Text) : Text × Text :=
  let tail := (text.takeWhile (· == quote)).take 2
  (tail, text.drop tail.length)

def readLiteral (text : Text) : Except Fault (Text × Text) := readUntil ['\x27'] isControl text

def dropLineFeed : Text → Text
  | '\n' :: text => text
  | text => text

/-- A string of several lines, read from after its opening quotes. -/
def readLines (quote : Char) (text : Text) : Except Fault (Text × Text) := do
  let text := dropLineFeed text
  let (value, rest) ←
    if quote = '\x27' then readUntil [quote, quote, quote] isControlInLines text
    else readBasic true (text.length + 1) text
  let (tail, rest) := readTail quote rest
  return (value ++ tail, rest)

def readString? (text : Text) : Option (Except Fault (Text × Text)) :=
  match text with
  | '\x22' :: '\x22' :: '\x22' :: rest => some (readLines '\x22' rest)
  | '\x27' :: '\x27' :: '\x27' :: rest => some (readLines '\x27' rest)
  | '\x22' :: rest => some (readBasic false (rest.length + 1) rest)
  | '\x27' :: rest => some (readLiteral rest)
  | _ => none

/-- Two digits with a value between bounds. -/
def twoDigits? (low high : Nat) (text : Text) : Option (Nat × Text) :=
  let digits := text.take 2
  let n := numeral 10 digits
  if digits.length = 2 && digits.all Char.isDigit && low ≤ n && n ≤ high then some (n, text.drop 2)
  else none

def afterTime? (text : Text) : Option Text := do
  let (_, rest) ← twoDigits? 0 23 text
  let (_, rest) ← twoDigits? 0 59 (← after? [':'] rest)
  let (_, rest) ← twoDigits? 0 59 (← after? [':'] rest)
  match rest with
  | '.' :: d :: more => if d.isDigit then some (more.dropWhile Char.isDigit) else some rest
  | _ => some rest

/-- What follows an offset from universal time, or the text itself without one. -/
def afterOffset (text : Text) : Text :=
  match text with
  | c :: rest =>
    if c = 'Z' || c = 'z' then rest
    else if c = '+' || c = '-' then
      (do
        let (_, rest) ← twoDigits? 0 23 rest
        let (_, rest) ← twoDigits? 0 59 (← after? [':'] rest)
        return rest).getD text
    else text
  | [] => text

def isLeapYear (year : Nat) : Bool := year % 4 == 0 && (year % 100 != 0 || year % 400 == 0)

def daysIn (year month : Nat) : Nat :=
  if month = 2 then (if isLeapYear year then 29 else 28)
  else if month = 4 || month = 6 || month = 9 || month = 11 then 30
  else 31

/-- A year, month and day as they are written. -/
def readDate? (text : Text) : Option (Nat × Nat × Nat × Text) := do
  let digits := text.take 4
  if digits.length = 4 && digits.all Char.isDigit then
    let (month, rest) ← twoDigits? 1 12 (← after? ['-'] (text.drop 4))
    let (day, rest) ← twoDigits? 1 31 (← after? ['-'] rest)
    return (numeral 10 digits, month, day, rest)
  else none

/-- A date, a date with a time, or a time, if the text starts with one. -/
def readMoment? (text : Text) : Option (Except Fault (Value × Text)) :=
  match readDate? text with
  | some (year, month, day, rest) =>
    if year = 0 || day > daysIn year month then some (fail .invalidDate text)
    else
      match rest with
      | c :: more =>
        if c = 'T' || c = 't' || c = ' ' then
          match afterTime? more with
          | some rest => some (.ok (.dateTime, afterOffset rest))
          | none => some (.ok (.date, rest))
        else some (.ok (.date, rest))
      | [] => some (.ok (.date, []))
  | none => (afterTime? text).map fun rest => .ok (.time, rest)

def digitRun (isDigit : Char → Bool) : Text → Text × Text
  | [] => ([], [])
  | c :: text =>
    if isDigit c then
      let (digits, rest) := digitRun isDigit text
      (c :: digits, rest)
    else
      match text with
      | d :: _ =>
        if c = '_' && isDigit d then digitRun isDigit text else ([], c :: text)
      | [] => ([], [c])

def digits? (isDigit : Char → Bool) (text : Text) : Option (Text × Text) :=
  if text.head?.any isDigit then some (digitRun isDigit text) else none

/-- The integer of a base whose digits follow its sign. -/
def readBased? (text : Text) : Option (Int × Text) :=
  match text with
  | '0' :: 'x' :: rest => (digits? isHexDigit rest).map fun (ds, rest) => (numeral 16 ds, rest)
  | '0' :: 'b' :: rest =>
    (digits? (fun c => c == '0' || c == '1') rest).map fun (ds, rest) => (numeral 2 ds, rest)
  | '0' :: 'o' :: rest =>
    (digits? (fun c => '0' ≤ c && c ≤ '7') rest).map fun (ds, rest) => (numeral 8 ds, rest)
  | _ => none

/-- What follows a fractional part, and what follows an exponent. -/
def afterFraction? : Text → Option Text
  | '.' :: rest => (digits? Char.isDigit rest).map (·.2)
  | _ => none

def afterExponent? : Text → Option Text
  | c :: rest =>
    if c = 'e' || c = 'E' then
      let rest := match rest with
        | '+' :: rest => rest
        | '-' :: rest => rest
        | rest => rest
      (digits? Char.isDigit rest).map (·.2)
    else none
  | [] => none

/-- The digits of a whole number: a zero alone, or a run that does not start with one. -/
def wholeDigits? : Text → Option (Text × Text)
  | '0' :: rest => some (['0'], rest)
  | text => digits? Char.isDigit text

/-- A decimal number: a fraction if a fractional part or an exponent follows its whole part. -/
def readDecimal? (text : Text) : Option (Value × Text) := do
  let (negative, unsigned) := match text with
    | '-' :: rest => (true, rest)
    | '+' :: rest => (false, rest)
    | rest => (false, rest)
  let (digits, rest) ← wholeDigits? unsigned
  let fraction := afterFraction? rest
  let exponent := afterExponent? (fraction.getD rest)
  if fraction.isNone && exponent.isNone then
    let n : Int := numeral 10 digits
    return (.integer (if negative then -n else n), rest)
  else return (.fraction, exponent.getD (fraction.getD rest))

def specials : List Text :=
  ["inf", "nan", "-inf", "+inf", "-nan", "+nan"].map String.toList

/-- A scalar value other than a string. -/
def readScalar (text : Text) : Except Fault (Value × Text) :=
  match after? "true".toList text, after? "false".toList text with
  | some rest, _ => .ok (.boolean true, rest)
  | _, some rest => .ok (.boolean false, rest)
  | none, none =>
    match readMoment? text with
    | some result => result
    | none =>
      match ((readBased? text).map fun (n, rest) => (Value.integer n, rest)).or (readDecimal? text) with
      | some result => .ok result
      | none =>
        match specials.findSome? (after? · text) with
        | some rest => .ok (.fraction, rest)
        | none => fail .invalidValue text

end DocExamples.Toml
