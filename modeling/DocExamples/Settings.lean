import DocExamples.Example.Expectation
import DocExamples.Files.Tree
import DocExamples.Text.Utf8
import DocExamples.Toml.Document

namespace DocExamples

open Text Files

structure Settings where
  usings : List Text
  comment : Text
  className : Text
  deriving DecidableEq, Repr

/-- Why settings cannot be read. Paths are given as they are shown. -/
inductive SettingsError
  | inaccessible (path : Text) (error : AccessError)
  /-- A path keeps settings from being looked for. -/
  | unsearchable (path : Text) (error : AccessError)
  | malformed (path document : Text) (fault : Toml.Fault)
  | undecodable (error : Utf8.DecodeError)
  /-- A value stands where a table has to be. -/
  | noTable (value : Toml.Value)
  | badUsings (path : Text)
  | badComment (path : Text)
  | badClassName (path : Text)

namespace SettingsError

def heading (path : Text) : Text :=
  "Could not read configuration from \"".toList ++ path ++ "\": ".toList

def settingMessage (name : String) (path : Text) (rule : String) : Text :=
  "Setting \"".toList ++ name.toList ++ "\" in \"".toList ++ path ++ "\" must be ".toList ++ rule.toList

def kindOf : Toml.Value → String
  | .string _ => "str"
  | .integer _ => "int"
  | .boolean _ => "bool"
  | .fraction => "float"
  | .dateTime => "datetime.datetime"
  | .date => "datetime.date"
  | .time => "datetime.time"
  | .array _ => "list"
  | .table _ => "dict"

def message : SettingsError → Text
  | inaccessible path error => heading path ++ error.message path
  | unsearchable path error => error.message path
  | malformed path document fault => heading path ++ fault.message document
  | undecodable error => error.message
  | noTable value => '\x27' :: (kindOf value).toList ++ "' object has no attribute 'get'".toList
  | badUsings path => settingMessage "usings" path "a list of module names."
  | badComment path => settingMessage "comment" path "a non-empty string."
  | badClassName path => settingMessage "class_name" path "a string."

/-- Errors that are reported to the user. The others end the program. -/
def isReported : SettingsError → Bool
  | unsearchable _ _ | undecodable _ | noTable _ => false
  | _ => true

end SettingsError

namespace Settings

def standard : Settings :=
  { usings := [], comment := Expectation.defaultComment, className := "TestDocs".toList }

def fileName : Text := "pyproject.toml".toList

/-- Given values that are not empty take the place of the settings. -/
def override (settings : Settings) (usings : List Text) (comment className : Text) : Settings :=
  { usings := if usings.isEmpty then settings.usings else usings
    comment := if comment.isEmpty then settings.comment else comment
    className := if className.isEmpty then settings.className else className }

def subtable (name : String) (table : Toml.Table) : Except SettingsError Toml.Table :=
  match table.lookup name.toList with
  | none => .ok []
  | some (.table inner) => .ok inner
  | some value => .error (.noTable value)

def strings? : List Toml.Value → Option (List Text)
  | [] => some []
  | .string text :: values => (strings? values).map (text :: ·)
  | _ :: _ => none

def usings? (table : Toml.Table) : Option (List Text) :=
  match table.lookup "usings".toList with
  | none => some standard.usings
  | some (.array items) => strings? items
  | some _ => none

def comment? (table : Toml.Table) : Option Text :=
  match table.lookup "comment".toList with
  | none => some standard.comment
  | some (.string text) => if text.isEmpty then none else some text
  | some _ => none

def className? (table : Toml.Table) : Option Text :=
  match table.lookup "class_name".toList with
  | none => some standard.className
  | some (.string text) => some text
  | some _ => none

/-- The settings in a table; those that it lacks are the standard ones. -/
def ofTable (path : Text) (table : Toml.Table) : Except SettingsError Settings :=
  match usings? table, comment? table, className? table with
  | none, _, _ => .error (.badUsings path)
  | _, none, _ => .error (.badComment path)
  | _, _, none => .error (.badClassName path)
  | some usings, some comment, some className => .ok { usings, comment, className }

/-- The settings in the content of a file. -/
def ofBytes (path : Text) (bytes : Bytes) : Except SettingsError Settings := do
  let document ← (Utf8.decode bytes).mapError .undecodable
  let table ← (Toml.parse document).mapError (.malformed path (Toml.unifyLineEnds document))
  ofTable path (← subtable "xmldoctest" (← subtable "tool" table))

/-- Where settings for a place are looked for: in it, then in the directories around it. -/
def candidates (place : Place) : List Place :=
  (List.range (place.length + 1)).reverse.map fun depth => place.take depth ++ [fileName]

def firstFile (tree : Tree) : List Place → Except SettingsError (Option Place)
  | [] => .ok none
  | file :: files =>
    match tree.follow [] file with
    | .ok place => if (tree.fileAt? place).isSome then .ok (some place) else firstFile tree files
    | .error error =>
      if error.isAbsence then firstFile tree files else .error (.unsearchable (tree.textOf file) error)

def find (tree : Tree) (place : Place) : Except SettingsError (Option Place) :=
  firstFile tree (candidates place)

def findFrom (tree : Tree) (start : Path) : Except SettingsError (Option Place) :=
  if start.text.contains '\x00' then .error (.unsearchable start.text .nulInPath)
  else
    match tree.resolve start with
    | some place => find tree place
    | none => .ok none

def ofContent (path : Text) : Except AccessError Bytes → Except SettingsError Settings
  | .ok bytes => ofBytes path bytes
  | .error .nulInPath => .error (.unsearchable path .nulInPath)
  | .error error => .error (.inaccessible path error)

/-- The settings in the file at a path, or else in the file nearest to the working directory. Without
any file they are the standard ones. -/
def load (tree : Tree) : Option Path → Except SettingsError Settings
  | some path => ofContent path.text (tree.read path)
  | none => do
    match ← find tree tree.working with
    | some file => ofContent (tree.textOf file) (tree.readAt file)
    | none => return standard

end Settings

end DocExamples
