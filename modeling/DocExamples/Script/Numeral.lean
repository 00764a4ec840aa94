import DocExamples.Text.Class
import DocExamples.Text.Number

namespace DocExamples.Script

open Text

def digitOf? (c : Char) : Option Nat :=
  match decimalDigit? c with
  | some n => some n
  | none =>
    if 'a' ≤ c && c ≤ 'z' then some (c.toNat - 0x61 + 10)
    else if 'A' ≤ c && c ≤ 'Z' then some (c.toNat - 0x41 + 10)
    else none

/-- The number that digits of a base make, with single underscores between them; `value` is that of the
digits before, and the last character before is a digit if `afterDigit`. -/
def readDigits? (base : Nat) : (afterDigit : Bool) → (value : Nat) → Text → Option Nat
  | afterDigit, value, [] => if afterDigit then some value else none
  | afterDigit, value, c :: text =>
    if c = '_' then if afterDigit then readDigits? base false value text else none
    else
      match digitOf? c with
      | some digit =>
        if digit < base then readDigits? base true (value * base + digit) text else none
      | none => none

/-- The base that the start of a number tells. -/
def prefixBase? : Text → Option Nat
  | '0' :: c :: _ =>
    if c = 'x' || c = 'X' then some 16
    else if c = 'o' || c = 'O' then some 8
    else if c = 'b' || c = 'B' then some 2
    else none
  | _ => none

/-- The number that digits make in a base; 0 stands for the base that their start tells. -/
def readNatural? (base : Nat) (text : Text) : Option Nat :=
  match prefixBase? text with
  | some told =>
    if base = 0 || base = told then
      match text.drop 2 with
      | '_' :: digits => readDigits? told false 0 digits
      | digits => readDigits? told false 0 digits
    else readDigits? base false 0 text
  | none =>
    if base = 0 then
      match text, readDigits? 10 false 0 text with
      | '0' :: _, some n => if n = 0 then some n else none
      | _, read => read
    else readDigits? base false 0 text

/-- Blanks that may stand around a number: those beyond ASCII, and of ASCII not the separators of files,
groups, records and units. -/
def isMargin (c : Char) : Bool := isBlank c && !(0x1C ≤ c.toNat && c.toNat ≤ 0x1F)

def readInteger? (base : Nat) (text : Text) : Option Int :=
  match trim isMargin text with
  | '-' :: digits => (readNatural? base digits).map fun n => -(n : Int)
  | '+' :: digits => (readNatural? base digits).map Int.ofNat
  | digits => (readNatural? base digits).map Int.ofNat

/-- How many digits stand where a text should read an integer in a base, if they are too many. In bases that
are powers of 2 they never are. -/
def overlong? (base : Nat) (text : Text) : Option Nat :=
  let digits := match trim isMargin text with
    | '-' :: digits | '+' :: digits => digits
    | digits => digits
  let base := if base = 0 then (prefixBase? digits).getD 10 else base
  let run := digits.takeWhile fun c => c == '_' || (digitOf? c).any (· < base)
  let count := (run.filter (· != '_')).length
  if [2, 4, 8, 16, 32].contains base || (readDigits? base false 0 run).isNone || count ≤ mostDigits then none
  else some count

end DocExamples.Script
