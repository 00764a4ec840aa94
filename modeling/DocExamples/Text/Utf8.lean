import DocExamples.Text.Number

namespace DocExamples.Text.Utf8

inductive Fault
  | invalidStart
  | invalidContinuation
  | unexpectedEnd
  deriving DecidableEq, Repr

/-- The offending bytes: the position of the first, its value, and how many there are. -/
structure DecodeError where
  fault : Fault
  position : Nat
  byte : UInt8
  count : Nat
  deriving DecidableEq, Repr

def Fault.message : Fault → String
  | .invalidStart => "invalid start byte"
  | .invalidContinuation => "invalid continuation byte"
  | .unexpectedEnd => "unexpected end of data"

def DecodeError.message (e : DecodeError) : Text :=
  (if e.count = 1 then
    "'utf-8' codec can't decode byte 0x".toList ++ hexDigits 2 e.byte.toNat ++
      " in position ".toList ++ ofNat e.position
  else
    "'utf-8' codec can't decode bytes in position ".toList ++ ofNat e.position ++ '-' ::
      ofNat (e.position + e.count - 1)) ++
    ": ".toList ++ e.fault.message.toList

/-- What the first byte of a character says: its own bits, and the bounds of each byte that follows. -/
def lead? (b : Nat) : Option (Nat × List (Nat × Nat)) :=
  let next := (0x80, 0xBF)
  if b < 0x80 then some (b, [])
  else if b < 0xC2 then none
  else if b < 0xE0 then some (b - 0xC0, [next])
  else if b = 0xE0 then some (0, [(0xA0, 0xBF), next])
  else if b = 0xED then some (0xD, [(0x80, 0x9F), next])
  else if b < 0xF0 then some (b - 0xE0, [next, next])
  else if b = 0xF0 then some (0, [(0x90, 0xBF), next, next])
  else if b < 0xF4 then some (b - 0xF0, [next, next, next])
  else if b = 0xF4 then some (4, [(0x80, 0x8F), next, next])
  else none

/-- Reads the bytes after a first one: the value and the rest, or the fault and the count of valid
bytes before it. -/
def followers (value count : Nat) :
    List (Nat × Nat) → List UInt8 → Except (Fault × Nat) (Nat × List UInt8)
  | [], bytes => .ok (value, bytes)
  | _ :: _, [] => .error (.unexpectedEnd, count)
  | (low, high) :: bounds, b :: bytes =>
    if low ≤ b.toNat && b.toNat ≤ high then
      followers (value * 64 + b.toNat % 64) (count + 1) bounds bytes
    else .error (.invalidContinuation, count)

/-- Decodes from a position on; the fuel bounds the number of characters. -/
def decodeFrom : (fuel position : Nat) → List UInt8 → Except DecodeError Text
  | 0, _, _ => .ok []
  | _, _, [] => .ok []
  | fuel + 1, position, b :: bytes =>
    match lead? b.toNat with
    | none => .error ⟨.invalidStart, position, b, 1⟩
    | some (value, bounds) =>
      match followers value 1 bounds bytes with
      | .error (fault, count) => .error ⟨fault, position, b, count⟩
      | .ok (value, rest) =>
        (decodeFrom fuel (position + 1 + bounds.length) rest).map (Char.ofNat value :: ·)

def decode (bytes : List UInt8) : Except DecodeError Text :=
  decodeFrom bytes.length 0 bytes

def encodeChar (c : Char) : List UInt8 :=
  let n := c.toNat
  let next (k : Nat) : UInt8 := UInt8.ofNat (0x80 + k % 64)
  if n < 0x80 then [UInt8.ofNat n]
  else if n < 0x800 then [UInt8.ofNat (0xC0 + n / 64), next n]
  else if n < 0x10000 then [UInt8.ofNat (0xE0 + n / 4096), next (n / 64), next n]
  else [UInt8.ofNat (0xF0 + n / 262144), next (n / 4096), next (n / 64), next n]

def encode (t : Text) : List UInt8 := t.flatMap encodeChar

/-- The bytes after a leading byte order mark, if there is one. -/
def dropMark : List UInt8 → List UInt8
  | 0xEF :: 0xBB :: 0xBF :: bytes => bytes
  | bytes => bytes

end DocExamples.Text.Utf8
