import DocExamples.Text.Number

namespace DocExamples.Script

open Text

inductive FaultFamily
  | grammar
  | indentation
  | tabs
  deriving DecidableEq, Repr

/-- Why a script cannot be compiled. -/
inductive Fault
  | invalidSyntax
  | invalidCharacter (c : Char)
  | unprintableCharacter (c : Char)
  /-- A number, written in digits of a kind, that does not end where it has to. -/
  | invalidNumber (kind : String)
  | invalidDigit (digit : Char) (kind : String)
  | leadingZeros
  | overlongNumber (digits : Nat)
  /-- A string whose escape between two positions, the second one left out, means nothing. -/
  | invalidEscape (start stop : Nat) (reason : String)
  | brokenContinuation
  | unexpectedEnd
  /-- A string on one line without its closing quote, missed in the line `detected`. -/
  | unterminatedString (detected : Nat)
  | unterminatedBlock (detected : Nat)
  | unmatched (closing : Char)
  /-- A closing bracket of the wrong kind; the opening one stands in `line` if in another line. -/
  | mismatched (closing opening : Char) (line : Option Nat)
  | neverClosed (opening : Char)
  | cannotAssign (what : String)
  | cannotAssignHere (what : String)
  | cannotAugment (what : String)
  | comparisonMeant
  | assignmentInCall
  | positionalAfterNamed
  | repeatedName (name : Text)
  | missingComma
  | missingColon
  | missingElse
  | missingKeyColon
  | missingValue
  | trailingComma
  | missingParentheses (name : Text)
  | returnOutsideFunction
  | breakOutsideLoop
  | continueOutsideLoop
  | tooManyBrackets
  | tooManyLevels
  | tooManyLoops
  /-- A statement that opens a block, in the line `line`, without an indented block after it. -/
  | missingBlock (statement : String) (line : Nat)
  | unexpectedIndent
  | unknownDedent
  | mixedTabs
  /-- A fault in what the scripts of another language have. -/
  | other (family : FaultFamily) (message : Text)
  deriving DecidableEq, Repr

namespace Fault

def family : Fault → FaultFamily
  | missingBlock .. | unexpectedIndent | unknownDedent | tooManyLevels => .indentation
  | mixedTabs => .tabs
  | other family _ => family
  | _ => .grammar

def codePoint (c : Char) : Text :=
  (hexDigits (if c.toNat < 0x10000 then 4 else if c.toNat < 0x100000 then 5 else 6) c.toNat).map
    Char.toUpper

def message : Fault → Text
  | invalidSyntax => "invalid syntax".toList
  | invalidCharacter c => "invalid character '".toList ++ c :: "' (U+".toList ++ codePoint c ++ [')']
  | unprintableCharacter c => "invalid non-printable character U+".toList ++ codePoint c
  | invalidNumber kind => "invalid ".toList ++ kind.toList ++ " literal".toList
  | invalidDigit digit kind =>
    "invalid digit '".toList ++ digit :: "' in ".toList ++ kind.toList ++ " literal".toList
  | leadingZeros =>
    ("leading zeros in decimal integer literals are not permitted; " ++
      "use an 0o prefix for octal integers").toList
  | overlongNumber digits =>
    limitMessage (some digits) ++
      (" - Consider hexadecimal for huge integer literals " ++
        "to avoid decimal conversion limits.").toList
  | invalidEscape start stop reason =>
    "(unicode error) 'unicodeescape' codec can't decode bytes in position ".toList ++ ofNat start ++
      '-' :: ofNat (stop - 1) ++ ": ".toList ++ reason.toList
  | brokenContinuation => "unexpected character after line continuation character".toList
  | unexpectedEnd => "unexpected EOF while parsing".toList
  | unterminatedString detected =>
    "unterminated string literal (detected at line ".toList ++ ofNat detected ++ [')']
  | unterminatedBlock detected =>
    "unterminated triple-quoted string literal (detected at line ".toList ++ ofNat detected ++ [')']
  | unmatched closing => "unmatched '".toList ++ [closing, '\x27']
  | mismatched closing opening line =>
    "closing parenthesis '".toList ++ closing :: "' does not match opening parenthesis '".toList ++
      opening :: '\x27' ::
      match line with
      | some line => " on line ".toList ++ ofNat line
      | none => []
  | neverClosed opening => '\x27' :: opening :: "' was never closed".toList
  | cannotAssign what => "cannot assign to ".toList ++ what.toList
  | cannotAssignHere what =>
    "cannot assign to ".toList ++ what.toList ++ " here. Maybe you meant '==' instead of '='?".toList
  | cannotAugment what =>
    '\x27' :: what.toList ++ "' is an illegal expression for augmented assignment".toList
  | comparisonMeant => "invalid syntax. Maybe you meant '==' or ':=' instead of '='?".toList
  | assignmentInCall =>
    "expression cannot contain assignment, perhaps you meant \"==\"?".toList
  | positionalAfterNamed => "positional argument follows keyword argument".toList
  | repeatedName name => "keyword argument repeated: ".toList ++ name
  | missingComma => "invalid syntax. Perhaps you forgot a comma?".toList
  | missingColon => "expected ':'".toList
  | missingElse => "expected 'else' after 'if' expression".toList
  | missingKeyColon => "':' expected after dictionary key".toList
  | missingValue => "expression expected after dictionary key and ':'".toList
  | trailingComma => "trailing comma not allowed without surrounding parentheses".toList
  | missingParentheses name =>
    "Missing parentheses in call to '".toList ++ name ++ "'. Did you mean ".toList ++ name ++
      "(...)?".toList
  | returnOutsideFunction => "'return' outside function".toList
  | breakOutsideLoop => "'break' outside loop".toList
  | continueOutsideLoop => "'continue' not properly in loop".toList
  | tooManyBrackets => "too many nested parentheses".toList
  | tooManyLevels => "too many levels of indentation".toList
  | tooManyLoops => "too many statically nested blocks".toList
  | missingBlock statement line =>
    "expected an indented block after '".toList ++ statement.toList ++ "' statement on line ".toList ++
      ofNat line
  | unexpectedIndent => "unexpected indent".toList
  | unknownDedent => "unindent does not match any outer indentation level".toList
  | mixedTabs => "inconsistent use of tabs and spaces in indentation".toList
  | other _ message => message

end Fault

structure CompileError where
  fault : Fault
  line : Nat
  deriving DecidableEq, Repr

/-- Why a script is refused: its text, or the name of its file, holds a NUL, or it has a fault. -/
inductive Refusal
  | nulInFileName
  | nulInSource
  | fault (error : CompileError)
  deriving DecidableEq, Repr

end DocExamples.Script
