import DocExamples.Script.Token

namespace DocExamples.Script

/-- Where a reader is: the lexemes that are left, the last one that was taken, how many were taken, and
the number of those before the furthest one that was looked at. -/
structure Cursor where
  rest : List Lexeme
  last : Option Lexeme
  taken : Nat
  far : Nat

def Cursor.ofLexemes (lexemes : List Lexeme) : Cursor :=
  { rest := lexemes, last := none, taken := 0, far := 0 }

/-- Why a reader fails. -/
inductive Failure
  /-- No rule applies. -/
  | stuck
  /-- There are no lexemes left, since the reading of tokens ended at a fault. -/
  | ended
  /-- A cause is found. Without a line it is reported where the furthest lexeme is. -/
  | found (fault : Fault) (line : Option Nat)

abbrev Reader := ExceptT Failure (StateM Cursor)

namespace Reader

def stuck {α : Type} : Reader α := throw .stuck

def found {α : Type} (fault : Fault) (line : Nat) : Reader α := throw (.found fault (some line))

def foundAtFar {α : Type} (fault : Fault) : Reader α := throw (.found fault none)

def peek : Reader Lexeme := do
  let cursor ← get
  match cursor.rest with
  | [] => throw .ended
  | lexeme :: _ =>
    set { cursor with far := max cursor.far cursor.taken }
    return lexeme

def second : Reader Token := do
  let cursor ← get
  match cursor.rest.tail with
  | [] => throw .ended
  | lexeme :: _ =>
    set { cursor with far := max cursor.far (cursor.taken + 1) }
    return lexeme.token

def skip : Reader Unit :=
  modify fun cursor =>
    { cursor with
      rest := cursor.rest.tail
      last := cursor.rest.head?
      taken := cursor.taken + 1 }

def next : Reader Token := return (← peek).token

def line : Reader Nat := return (← peek).line

def isNext (token : Token) : Reader Bool := return (← next) == token

def isOp (op : String) : Reader Bool := isNext (.op op.toList)

def isWord (word : String) : Reader Bool := isNext (.name word.toList)

def take (token : Token) : Reader Unit := do
  if ← isNext token then skip else stuck

def takeOp (op : String) : Reader Unit := take (.op op.toList)

def takeWord (word : String) : Reader Unit := take (.name word.toList)

def takeIf (token : Token) : Reader Bool := do
  if ← isNext token then
    skip
    return true
  else return false

def takeIfOp (op : String) : Reader Bool := takeIf (.op op.toList)

def goBack (start : Cursor) : Reader Unit :=
  modify fun cursor => { start with far := cursor.far }

/-- Reads, or takes nothing where no rule applies. -/
def attempt {α : Type} (reader : Reader α) : Reader (Option α) := do
  let start ← get
  tryCatch (some <$> reader) fun
    | .stuck => do
      goBack start
      return none
    | failure => throw failure

/-- What a reader would read, and where it would end; nothing is taken. -/
def ahead {α : Type} (reader : Reader α) : Reader (Option (α × Cursor)) := do
  let start ← get
  let result ← attempt do
    let value ← reader
    return (value, ← get)
  goBack start
  return result

def takenSince (start : Cursor) : Reader (List Lexeme) := do
  return start.rest.take ((← get).taken - start.taken)

/-- Reads as often as a rule applies. -/
def many {α : Type} (reader : Reader α) : (fuel : Nat) → Reader (List α)
  | 0 => return []
  | fuel + 1 => do
    match ← attempt reader with
    | some value => return value :: (← many reader fuel)
    | none => return []

end Reader

end DocExamples.Script
