import DocExamples.Script.Fault

namespace DocExamples.Script

open Text

/-- The types of errors: those that every language of examples has, and those that programs declare. -/
inductive ErrorType
  | baseException
  | generatorExit
  | keyboardInterrupt
  | systemExit
  | baseExceptionGroup
  | exception
  | arithmeticError
  | floatingPointError
  | overflowError
  | zeroDivisionError
  | assertionError
  | attributeError
  | bufferError
  | eofError
  | exceptionGroup
  | importError
  | moduleNotFoundError
  | lookupError
  | indexError
  | keyError
  | memoryError
  | nameError
  | unboundLocalError
  | osError
  | blockingIOError
  | childProcessError
  | connectionError
  | brokenPipeError
  | connectionAbortedError
  | connectionRefusedError
  | connectionResetError
  | fileExistsError
  | fileNotFoundError
  | interruptedError
  | isADirectoryError
  | notADirectoryError
  | permissionError
  | processLookupError
  | timeoutError
  | referenceError
  | runtimeError
  | notImplementedError
  | recursionError
  | stopAsyncIteration
  | stopIteration
  | syntaxError
  | indentationError
  | tabError
  | systemError
  | typeError
  | valueError
  | unicodeError
  | unicodeDecodeError
  | unicodeEncodeError
  | unicodeTranslateError
  | warning
  | bytesWarning
  | deprecationWarning
  | encodingWarning
  | futureWarning
  | importWarning
  | pendingDeprecationWarning
  | resourceWarning
  | runtimeWarning
  | syntaxWarning
  | unicodeWarning
  | userWarning
  | declared (name : String) (isException : Bool)
  deriving DecidableEq, Repr

namespace ErrorType

def name : ErrorType → String
  | baseException => "BaseException"
  | generatorExit => "GeneratorExit"
  | keyboardInterrupt => "KeyboardInterrupt"
  | systemExit => "SystemExit"
  | baseExceptionGroup => "BaseExceptionGroup"
  | exception => "Exception"
  | arithmeticError => "ArithmeticError"
  | floatingPointError => "FloatingPointError"
  | overflowError => "OverflowError"
  | zeroDivisionError => "ZeroDivisionError"
  | assertionError => "AssertionError"
  | attributeError => "AttributeError"
  | bufferError => "BufferError"
  | eofError => "EOFError"
  | exceptionGroup => "ExceptionGroup"
  | importError => "ImportError"
  | moduleNotFoundError => "ModuleNotFoundError"
  | lookupError => "LookupError"
  | indexError => "IndexError"
  | keyError => "KeyError"
  | memoryError => "MemoryError"
  | nameError => "NameError"
  | unboundLocalError => "UnboundLocalError"
  | osError => "OSError"
  | blockingIOError => "BlockingIOError"
  | childProcessError => "ChildProcessError"
  | connectionError => "ConnectionError"
  | brokenPipeError => "BrokenPipeError"
  | connectionAbortedError => "ConnectionAbortedError"
  | connectionRefusedError => "ConnectionRefusedError"
  | connectionResetError => "ConnectionResetError"
  | fileExistsError => "FileExistsError"
  | fileNotFoundError => "FileNotFoundError"
  | interruptedError => "InterruptedError"
  | isADirectoryError => "IsADirectoryError"
  | notADirectoryError => "NotADirectoryError"
  | permissionError => "PermissionError"
  | processLookupError => "ProcessLookupError"
  | timeoutError => "TimeoutError"
  | referenceError => "ReferenceError"
  | runtimeError => "RuntimeError"
  | notImplementedError => "NotImplementedError"
  | recursionError => "RecursionError"
  | stopAsyncIteration => "StopAsyncIteration"
  | stopIteration => "StopIteration"
  | syntaxError => "SyntaxError"
  | indentationError => "IndentationError"
  | tabError => "TabError"
  | systemError => "SystemError"
  | typeError => "TypeError"
  | valueError => "ValueError"
  | unicodeError => "UnicodeError"
  | unicodeDecodeError => "UnicodeDecodeError"
  | unicodeEncodeError => "UnicodeEncodeError"
  | unicodeTranslateError => "UnicodeTranslateError"
  | warning => "Warning"
  | bytesWarning => "BytesWarning"
  | deprecationWarning => "DeprecationWarning"
  | encodingWarning => "EncodingWarning"
  | futureWarning => "FutureWarning"
  | importWarning => "ImportWarning"
  | pendingDeprecationWarning => "PendingDeprecationWarning"
  | resourceWarning => "ResourceWarning"
  | runtimeWarning => "RuntimeWarning"
  | syntaxWarning => "SyntaxWarning"
  | unicodeWarning => "UnicodeWarning"
  | userWarning => "UserWarning"
  | declared name _ => name

/-- The type that a type of errors is a kind of. -/
def base? : ErrorType → Option ErrorType
  | baseException => none
  | generatorExit | keyboardInterrupt | systemExit | baseExceptionGroup | exception =>
    some baseException
  | arithmeticError | assertionError | attributeError | bufferError | eofError | exceptionGroup
  | importError | lookupError | memoryError | nameError | osError | referenceError | runtimeError
  | stopAsyncIteration | stopIteration | syntaxError | systemError | typeError | valueError
  | warning => some exception
  | floatingPointError | overflowError | zeroDivisionError => some arithmeticError
  | moduleNotFoundError => some importError
  | indexError | keyError => some lookupError
  | unboundLocalError => some nameError
  | blockingIOError | childProcessError | connectionError | fileExistsError | fileNotFoundError
  | interruptedError | isADirectoryError | notADirectoryError | permissionError
  | processLookupError | timeoutError => some osError
  | brokenPipeError | connectionAbortedError | connectionRefusedError | connectionResetError =>
    some connectionError
  | notImplementedError | recursionError => some runtimeError
  | indentationError => some syntaxError
  | tabError => some indentationError
  | unicodeError => some valueError
  | unicodeDecodeError | unicodeEncodeError | unicodeTranslateError => some unicodeError
  | bytesWarning | deprecationWarning | encodingWarning | futureWarning | importWarning
  | pendingDeprecationWarning | resourceWarning | runtimeWarning | syntaxWarning | unicodeWarning
  | userWarning => some warning
  | declared _ isException => some (if isException then exception else baseException)

def all : List ErrorType :=
  [baseException, generatorExit, keyboardInterrupt, systemExit, baseExceptionGroup, exception,
    arithmeticError, floatingPointError, overflowError, zeroDivisionError, assertionError,
    attributeError, bufferError, eofError, exceptionGroup, importError, moduleNotFoundError,
    lookupError, indexError, keyError, memoryError, nameError, unboundLocalError, osError,
    blockingIOError, childProcessError, connectionError, brokenPipeError, connectionAbortedError,
    connectionRefusedError, connectionResetError, fileExistsError, fileNotFoundError,
    interruptedError, isADirectoryError, notADirectoryError, permissionError, processLookupError,
    timeoutError, referenceError, runtimeError, notImplementedError, recursionError,
    stopAsyncIteration, stopIteration, syntaxError, indentationError, tabError, systemError,
    typeError, valueError, unicodeError, unicodeDecodeError, unicodeEncodeError,
    unicodeTranslateError, warning, bytesWarning, deprecationWarning, encodingWarning,
    futureWarning, importWarning, pendingDeprecationWarning, resourceWarning, runtimeWarning,
    syntaxWarning, unicodeWarning, userWarning]

/-- Whether a type of errors is a kind of another one; the fuel bounds the steps between them. -/
def isKindWithin : (fuel : Nat) → ErrorType → ErrorType → Bool
  | 0, _, _ => false
  | fuel + 1, type, other =>
    type == other || type.base?.any fun base => isKindWithin fuel base other

def isKindOf (type other : ErrorType) : Bool := isKindWithin all.length type other

def isGroup (type : ErrorType) : Bool := type == baseExceptionGroup || type == exceptionGroup

def otherNames : List (String × ErrorType) := [("EnvironmentError", osError), ("IOError", osError)]

def ofName? (name : Text) : Option ErrorType :=
  (all.find? fun type => type.name.toList == name).or
    ((otherNames.find? fun entry => entry.1.toList == name).map (·.2))

/-- Errors that an example may raise and fail by. The others end the whole run. -/
def isContained (type : ErrorType) : Bool := type == systemExit || type.isKindOf exception

/-- The kind of error that the system reports by a number. -/
def ofErrorNumber? (number : Int) : Option ErrorType :=
  match number with
  | 1 | 13 => some permissionError
  | 2 => some fileNotFoundError
  | 3 => some processLookupError
  | 4 => some interruptedError
  | 10 => some childProcessError
  | 11 | 114 | 115 => some blockingIOError
  | 17 => some fileExistsError
  | 20 => some notADirectoryError
  | 21 => some isADirectoryError
  | 32 | 108 => some brokenPipeError
  | 103 => some connectionAbortedError
  | 104 => some connectionResetError
  | 110 => some timeoutError
  | 111 => some connectionRefusedError
  | _ => none

end ErrorType

/-- An error as it is shown: its type and its text. -/
structure Cause where
  type : ErrorType
  text : Text
  deriving DecidableEq, Repr

namespace Cause

def description (cause : Cause) : Text :=
  cause.type.name.toList ++ ": ".toList ++ cause.text

def familyType : FaultFamily → ErrorType
  | .grammar => .syntaxError
  | .indentation => .indentationError
  | .tabs => .tabError

/-- What is shown of a script that is refused, with the part of its file name after the last slash. -/
def ofRefusal (fileName : Text) : Refusal → Cause
  | .nulInFileName => ⟨.valueError, "embedded null character".toList⟩
  | .nulInSource => ⟨.valueError, "source code string cannot contain null bytes".toList⟩
  | .fault error =>
    { type := familyType error.fault.family
      text := error.fault.message ++ " (".toList ++ afterLast '/' fileName ++ ", line ".toList ++
        ofNat error.line ++ [')'] }

end Cause

end DocExamples.Script
