import DocExamples.Text.Number

namespace DocExamples.Text

/-- The quote is a single one, unless the text holds single quotes and no double ones. -/
def quoteMark (t : Text) : Char :=
  if t.contains '\x27' && !t.contains '\x22' then '\x22' else '\x27'

/-- How a character stands between quotes: the quote and the backslash after a backslash, the usual
controls by a letter, other characters that are not printable by their number. -/
def quoteChar (mark c : Char) : Text :=
  if c = mark || c = '\\' then ['\\', c]
  else if c = '\n' then ['\\', 'n']
  else if c = '\r' then ['\\', 'r']
  else if c = '\t' then ['\\', 't']
  else if isPrintable c then [c]
  else if c.toNat < 0x100 then '\\' :: 'x' :: hexDigits 2 c.toNat
  else if c.toNat < 0x10000 then '\\' :: 'u' :: hexDigits 4 c.toNat
  else '\\' :: 'U' :: hexDigits 8 c.toNat

def quote (t : Text) : Text :=
  quoteMark t :: t.flatMap (quoteChar (quoteMark t)) ++ [quoteMark t]

def quoteList (ts : List Text) : Text :=
  '[' :: joinWith [',', ' '] (ts.map quote) ++ [']']

end DocExamples.Text
