import DocExamples.Text.Class

namespace DocExamples.Text

def digit (n : Nat) : Char := Char.ofNat (if n < 10 then 0x30 + n else 0x57 + n)

/-- The last `width` hexadecimal digits of a number, in lower case. -/
def hexDigits : (width n : Nat) → Text
  | 0, _ => []
  | width + 1, n => hexDigits width (n / 16) ++ [digit (n % 16)]

def ofNat (n : Nat) : Text := (Nat.repr n).toList

def ofInt : Int → Text
  | .ofNat n => ofNat n
  | .negSucc n => '-' :: ofNat (n + 1)

def digitValue (c : Char) : Nat :=
  if c.isDigit then c.toNat - 0x30
  else if 'a' ≤ c && c ≤ 'f' then c.toNat - 0x57
  else c.toNat - 0x37

/-- The number that a sequence of digits writes in a base up to sixteen. -/
def numeral (base : Nat) (digits : Text) : Nat :=
  digits.foldl (fun n c => n * base + digitValue c) 0

/-- The most decimal digits that a number is read from or written with. -/
def mostDigits : Nat := 4300

/-- What is said of a number with more digits, and of how many if that is known. -/
def limitMessage (digits : Option Nat) : Text :=
  "Exceeds the limit (4300 digits) for integer string conversion".toList ++
    (digits.elim [] fun digits => ": value has ".toList ++ ofNat digits ++ " digits".toList) ++
    "; use sys.set_int_max_str_digits() to increase the limit".toList

/-- The decimal digits that write a number, unless they are too many. -/
def ofInt? (n : Int) : Option Text :=
  if mostDigits < (ofNat n.natAbs).length then none else some (ofInt n)

def decimal (digits : Text) : Except Nat Nat :=
  if mostDigits < digits.length then .error digits.length else .ok (numeral 10 digits)

end DocExamples.Text
