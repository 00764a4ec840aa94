import DocExamples.Text.Number

namespace DocExamples

/-- A JSON value without fractions; the fields of an object keep their order. -/
inductive Json
  | null
  | bool (b : Bool)
  | int (n : Int)
  | str (t : Text)
  | arr (items : List Json)
  | obj (fields : List (Text × Json))

namespace Json

open Text

private def unit (n : Nat) : Text := '\\' :: 'u' :: hexDigits 4 n

/-- What stands between the parts of a value, and whether its text is of ASCII characters only. -/
structure Layout where
  /-- What a line starts with for each bracket that is open, where items have lines of their own. -/
  indent : Option Text
  comma : Text
  colon : Text
  isAscii : Bool
  deriving DecidableEq, Repr

namespace Layout

def line : Layout :=
  { indent := none, comma := [',', ' '], colon := [':', ' '], isAscii := true }

def indented : Layout :=
  { indent := some [' ', ' '], comma := [','], colon := [':', ' '], isAscii := true }

def newLine (layout : Layout) (depth : Nat) : Text :=
  match layout.indent with
  | none => []
  | some indent => '\n' :: times depth indent

end Layout

/-- How a character stands in a JSON string; in ASCII, one beyond U+FFFF as two units. -/
def escapeChar (isAscii : Bool) (c : Char) : Text :=
  if c = '\x22' then ['\\', '\x22']
  else if c = '\\' then ['\\', '\\']
  else if c = '\n' then ['\\', 'n']
  else if c = '\r' then ['\\', 'r']
  else if c = '\t' then ['\\', 't']
  else if c = '\x08' then ['\\', 'b']
  else if c = '\x0c' then ['\\', 'f']
  else if 0x20 ≤ c.toNat && (c.toNat < 0x7F || !isAscii) then [c]
  else if c.toNat < 0x10000 then unit c.toNat
  else unit (0xD800 + (c.toNat - 0x10000) / 0x400) ++ unit (0xDC00 + (c.toNat - 0x10000) % 0x400)

def renderString (isAscii : Bool) (t : Text) : Text :=
  '\x22' :: t.flatMap (escapeChar isAscii) ++ ['\x22']

mutual

def renderAt (layout : Layout) (depth : Nat) : Json → Text
  | null => "null".toList
  | bool true => "true".toList
  | bool false => "false".toList
  | int n => ofInt n
  | str t => renderString layout.isAscii t
  | arr [] => ['[', ']']
  | arr (item :: items) =>
    '[' :: layout.newLine (depth + 1) ++ renderAt layout (depth + 1) item ++
      renderItems layout (depth + 1) items ++ layout.newLine depth ++ [']']
  | obj [] => ['\x7b', '\x7d']
  | obj ((key, value) :: fields) =>
    '\x7b' :: layout.newLine (depth + 1) ++ renderString layout.isAscii key ++ layout.colon ++
      renderAt layout (depth + 1) value ++ renderFields layout (depth + 1) fields ++
      layout.newLine depth ++ ['\x7d']

def renderItems (layout : Layout) (depth : Nat) : List Json → Text
  | [] => []
  | item :: items =>
    layout.comma ++ layout.newLine depth ++ renderAt layout depth item ++
      renderItems layout depth items

def renderFields (layout : Layout) (depth : Nat) : List (Text × Json) → Text
  | [] => []
  | (key, value) :: fields =>
    layout.comma ++ layout.newLine depth ++ renderString layout.isAscii key ++ layout.colon ++
      renderAt layout depth value ++ renderFields layout depth fields

end

def render (layout : Layout) (json : Json) : Text := renderAt layout 0 json

end Json

end DocExamples
