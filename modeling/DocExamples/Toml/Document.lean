import DocExamples.Toml.Scalar

namespace DocExamples.Toml

open Text

def isBareKeyChar (c : Char) : Bool := c.isAlphanum || c == '-' || c == '_'

def readKeyPart (text : Text) : Except Fault (Text × Text) :=
  match text with
  | '\x27' :: rest => readLiteral rest
  | '\x22' :: rest => readBasic false (rest.length + 1) rest
  | text =>
    if text.head?.any isBareKeyChar then
      .ok (text.takeWhile isBareKeyChar, text.dropWhile isBareKeyChar)
    else fail .invalidKey text

/-- The names of a key between full stops; the fuel bounds their number. -/
def readKeyFrom : (fuel : Nat) → Text → Except Fault (Key × Text)
  | 0, text => fail .invalidKey text
  | fuel + 1, text => do
    let (part, rest) ← readKeyPart text
    match rest.dropWhile isSpace with
    | '.' :: rest =>
      let (parts, rest) ← readKeyFrom fuel (rest.dropWhile isSpace)
      return (part :: parts, rest)
    | rest => return ([part], rest)

def readKey (text : Text) : Except Fault (Key × Text) := readKeyFrom (text.length + 1) text

def afterComment (text : Text) : Except Fault Text :=
  match text with
  | '#' :: rest =>
    match (rest.takeWhile (· != '\n')).find? isControl with
    | some c => fail (.foundCharacter c) (rest.dropWhile fun c => !isControl c)
    | none => .ok (rest.dropWhile (· != '\n'))
  | text => .ok text

/-- What follows white space, line ends and comments inside an array; the fuel bounds the comments. -/
def skipInArray : (fuel : Nat) → Text → Except Fault Text
  | 0, text => .ok text
  | fuel + 1, text =>
    let text := text.dropWhile fun c => isSpace c || c == '\n'
    match text with
    | '#' :: _ =>
      match afterComment text with
      | .ok rest => skipInArray fuel rest
      | .error fault => .error fault
    | text => .ok text

/-- A mark on a key: a table that was declared, or a value written as a whole with all inside it. -/
inductive Mark
  | declared (key : Key)
  | frozen (key : Key)
  deriving DecidableEq, Repr

abbrev Marks := List Mark

namespace Marks

def isDeclared (marks : Marks) (key : Key) : Bool := marks.contains (.declared key)

/-- Whether a key leads to, or into, a value written as a whole. -/
def isFrozen (marks : Marks) (key : Key) : Bool :=
  marks.any fun
    | .frozen outer => outer.isPrefixOf key
    | .declared _ => false

/-- The marks on keys other than a key and those inside it. -/
def without (marks : Marks) (key : Key) : Marks :=
  marks.filter fun
    | .frozen inner => !key.isPrefixOf inner
    | .declared inner => !key.isPrefixOf inner

/-- The mark that a value puts on its key. -/
def ofValue (key : Key) : Value → Marks
  | .array _ | .table _ => [.frozen key]
  | _ => []

end Marks

mutual

def readValue : (fuel : Nat) → Text → Except Fault (Value × Text)
  | 0, text => fail .invalidValue text
  | fuel + 1, text =>
    match readString? text with
    | some result => result.map fun (value, rest) => (.string value, rest)
    | none =>
      match text with
      | '[' :: rest => do
        let rest ← skipInArray rest.length rest
        match rest with
        | ']' :: rest => return (.array [], rest)
        | rest =>
          let (items, rest) ← readItems fuel rest
          return (.array items, rest)
      | '\x7b' :: rest =>
        match rest.dropWhile isSpace with
        | '\x7d' :: rest => return (.table [], rest)
        | rest => do
          let (table, rest) ← readEntries fuel [] [] rest
          return (.table table, rest)
      | text => readScalar text

def readItems : (fuel : Nat) → Text → Except Fault (List Value × Text)
  | 0, text => fail .unclosedArray text
  | fuel + 1, text => do
    let (item, rest) ← readValue fuel text
    match ← skipInArray rest.length rest with
    | ']' :: rest => return ([item], rest)
    | ',' :: rest =>
      match ← skipInArray rest.length rest with
      | ']' :: rest => return ([item], rest)
      | rest =>
        let (items, rest) ← readItems fuel rest
        return (item :: items, rest)
    | rest => fail .unclosedArray rest

def readPair : (fuel : Nat) → Text → Except Fault ((Key × Value) × Text)
  | 0, text => fail .invalidKey text
  | fuel + 1, text => do
    let (key, rest) ← readKey text
    match rest with
    | '=' :: rest =>
      let (value, rest) ← readValue fuel (rest.dropWhile isSpace)
      return ((key, value), rest)
    | rest => fail .missingEquals rest

def readEntries : (fuel : Nat) → Marks → Table → Text → Except Fault (Table × Text)
  | 0, _, _, text => fail .unclosedInlineTable text
  | fuel + 1, marks, table, text => do
    let ((key, value), rest) ← readPair fuel text
    let name := key.getLastD []
    if marks.isFrozen key then fail (.immutableNamespace key) rest
    match table.modify false some key.dropLast with
    | none => fail .overwrittenValue rest
    | some _ =>
      match table.modify false (Table.add name value) key.dropLast with
      | none => fail (.duplicateInlineKey name) rest
      | some table =>
        match rest.dropWhile isSpace with
        | '\x7d' :: rest => return (table, rest)
        | ',' :: rest =>
          readEntries fuel (Marks.ofValue key value ++ marks) table (rest.dropWhile isSpace)
        | rest => fail .unclosedInlineTable rest

end

/-- A document that is being read: its tables, the marks on keys, those that are put on them by the next
header, and the header under which statements stand. -/
structure Draft where
  table : Table
  marks : Marks
  pending : Marks
  header : Key

namespace Draft

def empty : Draft := { table := [], marks := [], pending := [], header := [] }

def settle (draft : Draft) : Draft :=
  { draft with marks := draft.pending ++ draft.marks, pending := [] }

def readHeader (draft : Draft) (text : Text) : Except Fault (Draft × Text) := do
  let draft := draft.settle
  let (key, rest) ← readKey (text.dropWhile isSpace)
  if draft.marks.isDeclared key || draft.marks.isFrozen key then fail (.declaredTwice key) rest
  match draft.table.modify true some key with
  | none => fail .overwrittenValue rest
  | some table =>
    match rest with
    | ']' :: rest =>
      return ({ draft with table, marks := .declared key :: draft.marks, header := key }, rest)
    | rest => fail .unclosedHeader rest

def readArrayHeader (draft : Draft) (text : Text) : Except Fault (Draft × Text) := do
  let draft := draft.settle
  let (key, rest) ← readKey (text.dropWhile isSpace)
  if draft.marks.isFrozen key then fail (.immutableNamespace key) rest
  match draft.table.modify true (Table.addToArray (key.getLastD [])) key.dropLast with
  | none => fail .overwrittenValue rest
  | some table =>
    match rest with
    | ']' :: ']' :: rest =>
      return ({ draft with
        table, marks := .declared key :: draft.marks.without key, header := key }, rest)
    | rest => fail .unclosedArrayHeader rest

/-- The keys of the tables between a header and the name of a value. -/
def between (header key : Key) : List Key :=
  (List.range (key.length - 1)).map fun i => header ++ key.take (i + 1)

def readStatement (draft : Draft) (text : Text) : Except Fault (Draft × Text) := do
  let ((key, value), rest) ← readPair (2 * text.length + 2) text
  let parent := draft.header ++ key.dropLast
  match (between draft.header key).find? draft.marks.isDeclared with
  | some key => fail (.redefinedNamespace key) rest
  | none =>
    if draft.marks.isFrozen parent then fail (.immutableNamespace parent) rest
    match draft.table.modify true (Table.add (key.getLastD []) value) parent with
    | none => fail .overwrittenValue rest
    | some table =>
      return ({ draft with
        table
        marks := Marks.ofValue (draft.header ++ key) value ++ draft.marks
        pending := (between draft.header key).map Mark.declared ++ draft.pending }, rest)

def afterStatement (text : Text) : Except Fault Text := do
  match ← afterComment (text.dropWhile isSpace) with
  | [] => return []
  | '\n' :: rest => return rest
  | rest => fail .missingLineEnd rest

/-- Reads statements line by line; the fuel bounds the lines. -/
def readLines : (fuel : Nat) → Draft → Text → Except Fault Draft
  | 0, draft, _ => .ok draft
  | fuel + 1, draft, text =>
    match text.dropWhile isSpace with
    | [] => .ok draft
    | '\n' :: rest => readLines fuel draft rest
    | c :: rest => do
      let (draft, rest) ←
        if isBareKeyChar c || c = '\x22' || c = '\x27' then draft.readStatement (c :: rest)
        else if c = '[' then
          match rest with
          | '[' :: rest => draft.readArrayHeader rest
          | rest => draft.readHeader rest
        else if c = '#' then pure (draft, c :: rest)
        else fail .invalidStatement (c :: rest)
      readLines fuel draft (← afterStatement rest)

end Draft

/-- Text with CRLF turned into LF. -/
def unifyLineEnds : Text → Text
  | [] => []
  | '\r' :: '\n' :: text => '\n' :: unifyLineEnds text
  | c :: text => c :: unifyLineEnds text

def parse (document : Text) : Except Fault Table :=
  let text := unifyLineEnds document
  (Draft.readLines (text.length + 1) .empty text).map (·.table)

end DocExamples.Toml
