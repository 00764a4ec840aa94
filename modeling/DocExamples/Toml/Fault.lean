import DocExamples.Text.Quoted

namespace DocExamples.Toml

open Text

inductive Cause
  | invalidStatement
  | missingLineEnd
  | missingEquals
  | invalidKey
  | invalidValue
  | invalidDate
  | unclosedArray
  | unclosedInlineTable
  | unclosedHeader
  | unclosedArrayHeader
  | unterminatedString
  | missingDelimiter (delimiter : Text)
  | illegalCharacter (c : Char)
  | foundCharacter (c : Char)
  | strayBackslash
  | invalidHexValue
  | notAScalarValue
  | declaredTwice (key : List Text)
  | redefinedNamespace (key : List Text)
  | immutableNamespace (key : List Text)
  | duplicateInlineKey (name : Text)
  | overwrittenValue
  deriving DecidableEq, Repr

/-- How a key is shown: a single name is followed by a comma. -/
def keyText : List Text → Text
  | [name] => '(' :: quote name ++ [',', ')']
  | names => '(' :: joinWith [',', ' '] (names.map quote) ++ [')']

namespace Cause

def message : Cause → Text
  | invalidStatement => "Invalid statement".toList
  | missingLineEnd => "Expected newline or end of document after a statement".toList
  | missingEquals => "Expected '=' after a key in a key/value pair".toList
  | invalidKey => "Invalid initial character for a key part".toList
  | invalidValue => "Invalid value".toList
  | invalidDate => "Invalid date or datetime".toList
  | unclosedArray => "Unclosed array".toList
  | unclosedInlineTable => "Unclosed inline table".toList
  | unclosedHeader => "Expected ']' at the end of a table declaration".toList
  | unclosedArrayHeader => "Expected ']]' at the end of an array declaration".toList
  | unterminatedString => "Unterminated string".toList
  | missingDelimiter delimiter => "Expected ".toList ++ quote delimiter
  | illegalCharacter c => "Illegal character ".toList ++ quote [c]
  | foundCharacter c => "Found invalid character ".toList ++ quote [c]
  | strayBackslash => "Unescaped '\\' in a string".toList
  | invalidHexValue => "Invalid hex value".toList
  | notAScalarValue => "Escaped character is not a Unicode scalar value".toList
  | declaredTwice key => "Cannot declare ".toList ++ keyText key ++ " twice".toList
  | redefinedNamespace key => "Cannot redefine namespace ".toList ++ keyText key
  | immutableNamespace key => "Cannot mutate immutable namespace ".toList ++ keyText key
  | duplicateInlineKey name => "Duplicate inline table key ".toList ++ quote name
  | overwrittenValue => "Cannot overwrite a value".toList

end Cause

/-- A cause, and how many characters of the document were left where it was found. -/
structure Fault where
  cause : Cause
  left : Nat
  deriving DecidableEq, Repr

namespace Fault

/-- The line and column at the end of a text. -/
def coordinates (read : Text) : Nat × Nat :=
  (read.count '\n' + 1, (read.reverse.takeWhile (· != '\n')).length + 1)

/-- What is said of a fault of a document. -/
def message (document : Text) (fault : Fault) : Text :=
  fault.cause.message ++ " (at ".toList ++
    (if fault.left = 0 then "end of document".toList
    else
      let (line, column) := coordinates (document.take (document.length - fault.left))
      "line ".toList ++ ofNat line ++ ", column ".toList ++ ofNat column) ++ [')']

end Fault

end DocExamples.Toml
