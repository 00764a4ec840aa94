import DocExamples.Console.Written
import DocExamples.Script.ErrorType

namespace DocExamples

open Text Script Console

/-- What a program finds and leaves: a namespace, with all else that its language keeps, and the two
streams. -/
structure State (Space : Type) where
  space : Space
  streams : Streams
  deriving DecidableEq, Repr

def State.written {Space : Type} (state : State Space) : Written := state.streams.written

/-- An error on its way out of a program. It may have no text: where it is asked for one, another error
comes up. -/
structure Thrown where
  type : ErrorType
  text : Except Cause Text
  deriving Repr

instance : DecidableEq Thrown
  | ⟨type, .ok text⟩, ⟨type', .ok text'⟩ => decidable_of_iff (type = type' ∧ text = text') (by simp)
  | ⟨type, .error other⟩, ⟨type', .error other'⟩ =>
    decidable_of_iff (type = type' ∧ other = other') (by simp)
  | ⟨_, .ok _⟩, ⟨_, .error _⟩ | ⟨_, .error _⟩, ⟨_, .ok _⟩ => isFalse (by simp)

namespace Thrown

def ofCause (cause : Cause) : Thrown := ⟨cause.type, .ok cause.text⟩

/-- How an error is shown, also one without a text. -/
def shown (thrown : Thrown) : Cause :=
  { type := thrown.type
    text := match thrown.text with
      | .ok text => text
      | .error _ => "<exception str() failed>".toList }

end Thrown

/-- A language of examples. -/
class Language where
  Program : Type
  Space : Type
  /-- The namespace in which an example runs when none is given. -/
  fresh : Space
  /-- Reads a program from a text without NUL. -/
  read : Text → Except CompileError Program
  /-- What the compiler does for code that it has something to say about, before it accepts or refuses it.
  As a rule it writes warnings. -/
  warn : (fileName code : Text) → State Space → Option Thrown × State Space
  /-- Runs a program that stands in a file: the error that it ends with, if any, and what it leaves. -/
  run : (fileName : Text) → Program → State Space → Option Thrown × State Space
  /-- Whether a program waits for values. -/
  waits : Program → Bool

abbrev World [Language] : Type := State Language.Space

def State.fresh [Language] : World := { space := Language.fresh, streams := .empty }

def compile [Language] (fileName code : Text) : Except Refusal Language.Program :=
  if fileName.contains '\x00' then .error .nulInFileName
  else if code.contains '\x00' then .error .nulInSource
  else (Language.read code).mapError .fault

end DocExamples
