import DocExamples.Markup.Reference.Names
import DocExamples.Text.Number

namespace DocExamples.Markup.Reference

open Text

def replacement : Char := '\uFFFD'

/-- Printable characters that the numbers 0x80 to 0x9F stand for in code page 1252. -/
def codePage1252 : List (Nat × Char) :=
  [(0x80, '€'), (0x82, '‚'), (0x83, 'ƒ'), (0x84, '„'), (0x85, '…'), (0x86, '†'), (0x87, '‡'),
    (0x88, 'ˆ'), (0x89, '‰'), (0x8A, 'Š'), (0x8B, '‹'), (0x8C, 'Œ'), (0x8E, 'Ž'), (0x91, '‘'),
    (0x92, '’'), (0x93, '“'), (0x94, '”'), (0x95, '•'), (0x96, '–'), (0x97, '—'), (0x98, '˜'),
    (0x99, '™'), (0x9A, 'š'), (0x9B, '›'), (0x9C, 'œ'), (0x9E, 'ž'), (0x9F, 'Ÿ')]

/-- Numbers that denote no character: zero, the surrogates, and all beyond the last code point. -/
def isVoidNumber (n : Nat) : Bool :=
  n == 0 || (0xD800 ≤ n && n ≤ 0xDFFF) || 0x10FFFF < n

/-- The number in a reference, or how many digits are too many for one. -/
def readDigits (hex : Bool) (digits : Text) : Except Nat Nat :=
  if hex then .ok (numeral 16 digits) else decimal digits

/-- The character that a number stands for in text. As at the end of a numeric character reference in HTML, a
number that denotes none stands for the replacement character. -/
def ofNumber (n : Nat) : Char :=
  if isVoidNumber n then replacement else (codePage1252.lookup n).getD (Char.ofNat n)

def ofName (name : Text) : Text := (named? name).getD ('&' :: name)

/-- Controls other than white space, and noncharacters, which an attribute's value cannot name. -/
def isForbidden (n : Nat) : Bool :=
  (0x1 ≤ n && n ≤ 0x8) || n == 0xB || (0xE ≤ n && n ≤ 0x1F) || (0x7F ≤ n && n ≤ 0x9F) ||
    (0xFDD0 ≤ n && n ≤ 0xFDEF) || (n % 0x10000 == 0xFFFE || n % 0x10000 == 0xFFFF)

def numberInValue (n : Nat) : Text :=
  if isVoidNumber n then [replacement]
  else if 0x80 ≤ n && n ≤ 0x9F then [(codePage1252.lookup n).getD (Char.ofNat n)]
  else if isForbidden n then []
  else [Char.ofNat n]

/-- The longest start of a name, of `length` characters or fewer, that needs no semicolon, as the
text it stands for, and what is left of the name. -/
def barePart? (name : Text) : (length : Nat) → Option (Text × Text)
  | 0 => none
  | 1 => none
  | length + 2 =>
    match bareNamed? (name.take (length + 2)) with
    | some value => some (value, name.drop (length + 2))
    | none => barePart? name (length + 1)

/-- The text that a name stands for in an attribute's value; `ended` says that a semicolon ends it. -/
def nameInValue (name : Text) (ended : Bool) : Text :=
  let rest := if ended then [';'] else []
  match if ended then named? name else none with
  | some value => value
  | none =>
    match barePart? name name.length with
    | some (value, tail) => value ++ tail ++ rest
    | none => '&' :: name ++ rest

def endsName (c : Char) : Bool :=
  c == '\t' || c == '\n' || c == '\x0c' || c == ' ' || c == '<' || c == '&' || c == '#' || c == ';'

/-- A text without a semicolon at its start, and whether there was one. -/
def dropSemicolon : Text → Bool × Text
  | ';' :: text => (true, text)
  | text => (false, text)

/-- Reads what follows an ampersand in an attribute's value: its text, or how many digits are too many, and
the rest. -/
def readInValue? : Text → Option (Except Nat Text × Text)
  | '#' :: text =>
    let hex := (text.head? == some 'x' || text.head? == some 'X') &&
      (text.tail.head?.any isHexDigit)
    let digits := if hex then text.tail.takeWhile isHexDigit else text.takeWhile isAsciiDigit
    let rest := if hex then text.tail.dropWhile isHexDigit else text.dropWhile isAsciiDigit
    if digits.isEmpty then none
    else some ((readDigits hex digits).map numberInValue, (dropSemicolon rest).2)
  | text =>
    let name := (text.takeWhile fun c => !endsName c).take 32
    let (ended, rest) := dropSemicolon (text.drop name.length)
    if name.isEmpty then none else some (.ok (nameInValue name ended), rest)

/-- Replaces references, one after another; the fuel bounds the number of characters read. -/
def decodeFrom : (fuel : Nat) → Text → Except Nat Text
  | 0, text => .ok text
  | _, [] => .ok []
  | fuel + 1, c :: text =>
    if c = '&' then
      match readInValue? text with
      | some (value, rest) => do return (← value) ++ (← decodeFrom fuel rest)
      | none => (decodeFrom fuel text).map (c :: ·)
    else (decodeFrom fuel text).map (c :: ·)

/-- An attribute's value with its references replaced, or how many digits of the first number with too many
there are. -/
def decode (value : Text) : Except Nat Text := decodeFrom value.length value

end DocExamples.Markup.Reference
