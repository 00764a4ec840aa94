import DocExamples.CommandLine.Execution
import Mathlib.Control.Monad.Basic

namespace DocExamples

open Text Files Documentation

namespace Files.Tree

variable {tree : Tree} {path : Path} {place : Place} {parts : List Text}

theorem aboveTop_ne_nulInPath (parts : List Text) : aboveTop parts ≠ .nulInPath := by
  rw [aboveTop]
  split <;> simp

theorem follow_ne_nulInPath : tree.follow place parts ≠ .error .nulInPath := by
  fun_induction follow tree place parts <;> simp_all [aboveTop_ne_nulInPath]

theorem locate_eq_nulInPath_iff : tree.locate path = .error .nulInPath ↔ '\x00' ∈ path.text := by
  rw [locate]
  split
  · next nul => simpa using nul
  next clean =>
  have outside : '\x00' ∉ path.text := by simpa using clean
  split
  · simp [outside]
  split
  · simp [outside, follow_ne_nulInPath]
  split
  · simp [outside, follow_ne_nulInPath]
  · simp [outside, aboveTop_ne_nulInPath]

theorem readAt_ne_nulInPath : tree.readAt place ≠ .error .nulInPath := by
  unfold readAt content unlessRefused
  cases tree.fileAt? place with
  | none => cases tree.isDirectory place <;> simp [bind, Except.bind]
  | some bytes => cases tree.refusal? .read place <;> simp [bind, Except.bind]

/-- A NUL is looked for in the path alone. -/
theorem read_eq_nulInPath_iff : tree.read path = .error .nulInPath ↔ '\x00' ∈ path.text := by
  rw [← @locate_eq_nulInPath_iff tree path, read]
  cases tree.locate path with
  | error reason => simp [bind, Except.bind]
  | ok place =>
    simp only [bind, Except.bind, reduceCtorEq, iff_false]
    exact readAt_ne_nulInPath

end Files.Tree

namespace Settings

variable {α : Type} {tree : Tree} {path : Path} {shown : Text} {table inner : Toml.Table}
  {settings : Settings} {error : SettingsError}

/-- What a table says under a name, or by having nothing there. -/
def Says (table : Toml.Table) (name : String) (standard : α) (reads : Toml.Value → α → Prop)
    (value : α) : Prop :=
  match table.lookup name.toList with
  | none => value = standard
  | some given => reads given value

/-- Module names are given as an array of strings. -/
def ReadsUsings (given : Toml.Value) (names : List Text) : Prop := given = .array (names.map .string)

/-- A comment token is given as a string that is not empty. -/
def ReadsComment (given : Toml.Value) (comment : Text) : Prop := given = .string comment ∧ comment ≠ []

/-- The name of a class is given as a string. -/
def ReadsClassName (given : Toml.Value) (name : Text) : Prop := given = .string name

/-- The settings that a table gives, each one by the rule for it. -/
structure AreIn (table : Toml.Table) (settings : Settings) : Prop where
  usings : Says table "usings" standard.usings ReadsUsings settings.usings
  comment : Says table "comment" standard.comment ReadsComment settings.comment
  className : Says table "class_name" standard.className ReadsClassName settings.className

/-- The table under a name, empty where there is nothing. -/
def IsSubtable (name : String) (table inner : Toml.Table) : Prop :=
  Says table name [] (fun given inner => given = .table inner) inner

/-- The table of the settings, inside the table of a document. -/
def IsSection (table inner : Toml.Table) : Prop :=
  ∃ tool, IsSubtable "tool" table tool ∧ IsSubtable "xmldoctest" tool inner

theorem strings?_eq_some_iff {values : List Toml.Value} {texts : List Text} :
    strings? values = some texts ↔ values = texts.map .string := by
  induction values generalizing texts with
  | nil => cases texts <;> simp [strings?]
  | cons value values ih =>
    cases value with
    | string text =>
      rw [strings?, Option.map_eq_some_iff]
      constructor
      · rintro ⟨rest, read, rfl⟩
        rw [ih.mp read]
        rfl
      · intro same
        cases texts with
        | nil => cases same
        | cons first rest =>
          obtain ⟨⟨⟩, tail⟩ := List.cons.inj same
          exact ⟨rest, ih.mpr tail, rfl⟩
    | _ => cases texts <;> simp [strings?]

theorem usings?_eq_some_iff {names : List Text} :
    usings? table = some names ↔ Says table "usings" standard.usings ReadsUsings names := by
  rw [usings?, Says]
  cases table.lookup "usings".toList with
  | none => simp [eq_comm]
  | some given => cases given <;> simp [ReadsUsings, strings?_eq_some_iff]

theorem comment?_eq_some_iff {comment : Text} :
    comment? table = some comment ↔ Says table "comment" standard.comment ReadsComment comment := by
  rw [comment?, Says]
  cases table.lookup "comment".toList with
  | none => simp [eq_comm]
  | some given =>
    cases given with
    | string text =>
      cases text with
      | nil => simp [ReadsComment, eq_comm]
      | cons c text =>
        simp only [ReadsComment, List.isEmpty_cons, Bool.false_eq_true, if_false, Option.some.injEq,
          Toml.Value.string.injEq]
        exact ⟨fun same => ⟨same, by simp [← same]⟩, And.left⟩
    | _ => simp [ReadsComment]

theorem className?_eq_some_iff {name : Text} :
    className? table = some name ↔ Says table "class_name" standard.className ReadsClassName name := by
  rw [className?, Says]
  cases table.lookup "class_name".toList with
  | none => simp [eq_comm]
  | some given => cases given <;> simp [ReadsClassName]

theorem subtable_eq_ok_iff {name : String} : subtable name table = .ok inner ↔ IsSubtable name table inner := by
  rw [subtable, IsSubtable, Says]
  cases table.lookup name.toList with
  | none => simp [eq_comm]
  | some given => cases given <;> simp

/-- What keeps a table from being found is a value in its place, which is not reported. -/
theorem subtable_error {name : String} (failed : subtable name table = .error error) :
    ∃ value, error = .noTable value ∧ table.lookup name.toList = some value := by
  rw [subtable] at failed
  cases given : table.lookup name.toList with
  | none => simp [given] at failed
  | some value =>
    refine ⟨value, ?_, rfl⟩
    cases value <;> simp_all

theorem areIn_iff : AreIn table settings ↔ usings? table = some settings.usings ∧
    comment? table = some settings.comment ∧ className? table = some settings.className := by
  rw [usings?_eq_some_iff, comment?_eq_some_iff, className?_eq_some_iff]
  exact ⟨fun given => ⟨given.usings, given.comment, given.className⟩,
    fun ⟨usings, comment, className⟩ => ⟨usings, comment, className⟩⟩

theorem ofTable_eq_ok_iff : ofTable shown table = .ok settings ↔ AreIn table settings := by
  rw [areIn_iff, ofTable]
  obtain ⟨usings, comment, className⟩ := settings
  cases usings? table <;> cases comment? table <;> cases className? table <;> simp

/-- An error that names a setting for which a table breaks the rule. -/
inductive Breaks (shown : Text) (table : Toml.Table) : SettingsError → Prop
  | usings (rule : ∀ names, ¬ Says table "usings" standard.usings ReadsUsings names) :
      Breaks shown table (.badUsings shown)
  | comment (rule : ∀ comment, ¬ Says table "comment" standard.comment ReadsComment comment) :
      Breaks shown table (.badComment shown)
  | className (rule : ∀ name, ¬ Says table "class_name" standard.className ReadsClassName name) :
      Breaks shown table (.badClassName shown)

theorem breaks_of_ofTable (failed : ofTable shown table = .error error) : Breaks shown table error := by
  rw [ofTable] at failed
  cases usings : usings? table with
  | none =>
    simp only [usings, Except.error.injEq] at failed
    subst failed
    exact .usings fun names given => by simp [usings?_eq_some_iff.mpr given] at usings
  | some names =>
    cases comment : comment? table with
    | none =>
      simp only [usings, comment, Except.error.injEq] at failed
      subst failed
      exact .comment fun token given => by simp [comment?_eq_some_iff.mpr given] at comment
    | some token =>
      cases className : className? table with
      | none =>
        simp only [usings, comment, className, Except.error.injEq] at failed
        subst failed
        exact .className fun name given => by simp [className?_eq_some_iff.mpr given] at className
      | some name => simp [usings, comment, className] at failed

/-- A comment token is never empty, whether it is given or not. -/
theorem AreIn.comment_ne_nil (given : AreIn table settings) : settings.comment ≠ [] := by
  have rule := given.comment
  rw [Says] at rule
  split at rule
  · rw [rule]
    decide
  · exact rule.2

/-- Content that gives settings or an error to report: it is UTF-8, and what it has in the places of
tables is tables. -/
def IsReadable (bytes : Bytes) : Prop :=
  ∃ document, Utf8.decode bytes = .ok document ∧
    ∀ table, Toml.parse document = .ok table → ∃ inner, IsSection table inner

/-- An error that says what is wrong with content. -/
inductive Faulty (shown : Text) (bytes : Bytes) : SettingsError → Prop
  | document {document fault} (decoded : Utf8.decode bytes = .ok document)
      (parsed : Toml.parse document = .error fault) :
      Faulty shown bytes (.malformed shown (Toml.unifyLineEnds document) fault)
  | setting {document table inner error} (decoded : Utf8.decode bytes = .ok document)
      (parsed : Toml.parse document = .ok table) (isSection : IsSection table inner)
      (breaks : Breaks shown inner error) : Faulty shown bytes error

theorem Faulty.isReported {bytes : Bytes} (h : Faulty shown bytes error) : error.isReported = true := by
  cases h with
  | document => rfl
  | setting _ _ _ breaks => cases breaks <;> rfl

/-- Content that gives settings. -/
def Gives (bytes : Bytes) (settings : Settings) : Prop :=
  ∃ document table inner, Utf8.decode bytes = .ok document ∧ Toml.parse document = .ok table ∧
    IsSection table inner ∧ AreIn inner settings

/-- The settings in the table of a document. -/
def ofDocument (shown : Text) (table : Toml.Table) : Except SettingsError Settings := do
  ofTable shown (← subtable "xmldoctest" (← subtable "tool" table))

theorem ofDocument_of_tool {tool : Toml.Table} (outer : subtable "tool" table = .ok tool) :
    ofDocument shown table = (subtable "xmldoctest" tool).bind (ofTable shown) := by
  rw [ofDocument, outer]
  rfl

theorem ofDocument_of_isSection (h : IsSection table inner) : ofDocument shown table = ofTable shown inner := by
  obtain ⟨tool, outer, within⟩ := h
  rw [ofDocument_of_tool (subtable_eq_ok_iff.mpr outer), subtable_eq_ok_iff.mpr within]
  rfl

theorem ofDocument_of_not_isSection (shown : Text) (h : ¬ ∃ inner, IsSection table inner) :
    ∃ value, ofDocument shown table = .error (.noTable value) := by
  cases outer : subtable "tool" table with
  | error error =>
    obtain ⟨value, rfl, -⟩ := subtable_error outer
    refine ⟨value, ?_⟩
    rw [ofDocument, outer]
    rfl
  | ok tool =>
    cases within : subtable "xmldoctest" tool with
    | error error =>
      obtain ⟨value, rfl, -⟩ := subtable_error within
      refine ⟨value, ?_⟩
      rw [ofDocument_of_tool outer, within]
      rfl
    | ok inner =>
      exact absurd ⟨inner, tool, subtable_eq_ok_iff.mp outer, subtable_eq_ok_iff.mp within⟩ h

theorem ofDocument_eq_ok_iff :
    ofDocument shown table = .ok settings ↔ ∃ inner, IsSection table inner ∧ AreIn inner settings := by
  constructor
  · intro given
    by_cases h : ∃ inner, IsSection table inner
    · obtain ⟨inner, isSection⟩ := h
      rw [ofDocument_of_isSection isSection] at given
      exact ⟨inner, isSection, ofTable_eq_ok_iff.mp given⟩
    · obtain ⟨value, failed⟩ := ofDocument_of_not_isSection shown h
      cases failed.symm.trans given
  · rintro ⟨inner, isSection, given⟩
    rw [ofDocument_of_isSection isSection]
    exact ofTable_eq_ok_iff.mpr given

theorem ofBytes_of_decode {bytes : Bytes} {document : Text} (decoded : Utf8.decode bytes = .ok document) :
    ofBytes shown bytes =
      ((Toml.parse document).mapError (.malformed shown (Toml.unifyLineEnds document))).bind
        (ofDocument shown) := by
  rw [ofBytes, decoded]
  rfl

theorem ofBytes_of_decode_error {bytes : Bytes} {reason : Utf8.DecodeError}
    (undecoded : Utf8.decode bytes = .error reason) :
    ofBytes shown bytes = .error (.undecodable reason) := by
  rw [ofBytes, undecoded]
  rfl

theorem faulty_of_ofBytes {bytes : Bytes} (readable : IsReadable bytes)
    (failed : ofBytes shown bytes = .error error) : Faulty shown bytes error := by
  obtain ⟨document, decoded, sections⟩ := readable
  rw [ofBytes_of_decode decoded] at failed
  cases parsed : Toml.parse document with
  | error fault =>
    rw [parsed] at failed
    cases failed
    exact .document decoded parsed
  | ok table =>
    obtain ⟨inner, isSection⟩ := sections table parsed
    rw [parsed] at failed
    change ofDocument shown table = .error error at failed
    rw [ofDocument_of_isSection isSection] at failed
    exact .setting decoded parsed isSection (breaks_of_ofTable failed)

theorem exists_unreported {bytes : Bytes} (shown : Text) (unreadable : ¬ IsReadable bytes) :
    ∃ error, ofBytes shown bytes = .error error ∧ error.isReported = false := by
  cases decoded : Utf8.decode bytes with
  | error reason => exact ⟨_, ofBytes_of_decode_error decoded, rfl⟩
  | ok document =>
    obtain ⟨table, parsed, missing⟩ :
        ∃ table, Toml.parse document = .ok table ∧ ¬ ∃ inner, IsSection table inner := by
      by_contra none
      refine unreadable ⟨document, decoded, fun table parsed => ?_⟩
      by_contra missing
      exact none ⟨table, parsed, missing⟩
    obtain ⟨value, failed⟩ := ofDocument_of_not_isSection shown missing
    refine ⟨.noTable value, ?_, rfl⟩
    rw [ofBytes_of_decode decoded, parsed]
    exact failed

theorem ofBytes_eq_ok_iff {bytes : Bytes} : ofBytes shown bytes = .ok settings ↔ Gives bytes settings := by
  cases decoded : Utf8.decode bytes with
  | error reason => simp [ofBytes_of_decode_error decoded, Gives, decoded]
  | ok document =>
    rw [ofBytes_of_decode decoded]
    cases parsed : Toml.parse document with
    | error fault => simp [Except.mapError, Except.bind, Gives, decoded, parsed]
    | ok table => simpa [Except.mapError, Except.bind, Gives, decoded, parsed] using ofDocument_eq_ok_iff

/-- A settings file of which every error is one to report. -/
structure IsSound (tree : Tree) (path : Path) : Prop where
  noNul : '\x00' ∉ path.text
  readable : ∀ bytes, tree.read path = .ok bytes → IsReadable bytes

/-- Without a NUL in the path, what keeps a file from being opened is reported. -/
theorem load_of_read_error {reason : AccessError} (noNul : '\x00' ∉ path.text)
    (closed : tree.read path = .error reason) :
    load tree (some path) = .error (.inaccessible path.text reason) := by
  have other : reason ≠ .nulInPath := by
    rintro rfl
    exact noNul (Tree.read_eq_nulInPath_iff.mp closed)
  rw [load, closed]
  cases reason <;> simp_all [ofContent]

theorem load_of_nul (nul : '\x00' ∈ path.text) :
    load tree (some path) = .error (.unsearchable path.text .nulInPath) := by
  rw [load, Tree.read_eq_nulInPath_iff.mpr nul, ofContent]

theorem load_of_read {bytes : Bytes} (found : tree.read path = .ok bytes) :
    load tree (some path) = ofBytes path.text bytes := by
  rw [load, found, ofContent]

theorem load_isReported_iff :
    (∀ error, load tree (some path) = .error error → error.isReported = true) ↔ IsSound tree path := by
  by_cases nul : '\x00' ∈ path.text
  · rw [load_of_nul nul]
    refine ⟨fun reported => ?_, fun sound => absurd nul sound.noNul⟩
    cases reported _ rfl
  cases opened : tree.read path with
  | error reason =>
    rw [load_of_read_error nul opened]
    refine ⟨fun _ => ⟨nul, fun bytes found => ?_⟩, ?_⟩
    · cases opened.symm.trans found
    · rintro - error ⟨⟩
      rfl
  | ok bytes =>
    rw [load_of_read opened]
    constructor
    · intro reported
      refine ⟨nul, fun other found => ?_⟩
      cases opened.symm.trans found
      by_contra unreadable
      obtain ⟨error, failed, silent⟩ := exists_unreported path.text unreadable
      exact absurd (reported error failed) (by simp [silent])
    · intro sound error failed
      exact (faulty_of_ofBytes (sound.readable bytes opened) failed).isReported

theorem load_eq_ok_iff :
    load tree (some path) = .ok settings ↔ ∃ bytes, tree.read path = .ok bytes ∧ Gives bytes settings := by
  cases opened : tree.read path with
  | error reason =>
    by_cases nul : '\x00' ∈ path.text
    · simp [load_of_nul nul]
    · simp [load_of_read_error nul opened]
  | ok bytes => simp [load_of_read opened, ofBytes_eq_ok_iff]

end Settings

namespace CommandLine

variable {tree : Tree} {fetch : Fetch} {choice : SettingsChoice} {error : SettingsError}

/-- A command that needs settings answers an error to report with its message. -/
theorem answers_of_isReported [Language] (failed : Settings.load tree choice.file = .error error)
    (reported : error.isReported = true) :
    (∀ source format verbose, runExamples tree fetch source choice format verbose =
      .reported error.message) ∧
    ∀ source output force, generateModule tree fetch source choice output force =
      (.reported error.message, tree) := by
  have chosen : chosenSettings tree choice = .error error := by
    rw [chosenSettings, failed]
    rfl
  have answer : Result.ofSettingsError error = .reported error.message := if_pos reported
  constructor
  · intro source format verbose
    rw [runExamples, chosen]
    exact answer
  · intro source output force
    rw [generateModule, chosen, ← answer]

/-- What comes of reading settings from the file at a path. Every error is one to report exactly when the
path holds no NUL, the content is UTF-8, and what a TOML document has in the places of the two tables is
tables. Settings come of nothing but a section that keeps to the rules, so that the comment token is never
empty, and an error that comes of a readable file says which rule is broken. Commands answer an error to
report with its message. -/
theorem settings_report_iff [Language] (tree : Tree) (fetch : Fetch) (path : Path) :
    ((∀ error, Settings.load tree (some path) = .error error → error.isReported = true) ↔
      Settings.IsSound tree path) ∧
    (∀ settings, Settings.load tree (some path) = .ok settings ↔
      ∃ bytes, tree.read path = .ok bytes ∧ Settings.Gives bytes settings) ∧
    (∀ settings, Settings.load tree (some path) = .ok settings → settings.comment ≠ []) ∧
    (∀ bytes error, tree.read path = .ok bytes → Settings.IsReadable bytes →
      Settings.load tree (some path) = .error error → Settings.Faulty path.text bytes error) ∧
    ∀ choice error, Settings.load tree choice.file = .error error → error.isReported = true →
      (∀ source format verbose, runExamples tree fetch source choice format verbose =
        .reported error.message) ∧
      ∀ source output force, generateModule tree fetch source choice output force =
        (.reported error.message, tree) := by
  refine ⟨Settings.load_isReported_iff, fun settings => Settings.load_eq_ok_iff, ?_, ?_, ?_⟩
  · intro settings loaded
    obtain ⟨bytes, -, document, table, inner, -, -, -, given⟩ := Settings.load_eq_ok_iff.mp loaded
    exact given.comment_ne_nil
  · intro bytes error found readable failed
    rw [Settings.load_of_read found] at failed
    exact Settings.faulty_of_ofBytes readable failed
  · intro choice error
    exact answers_of_isReported

/-- What comes of settings in a tree that has nothing but a file with them: the settings, or whether the
error is reported and its message. -/
def readSettings (content : Bytes) : Except (Bool × Text) Settings :=
  let tree : Tree := { top := [], files := [([Settings.fileName], content)], directories := [], working := [] }
  (Settings.load tree (some (.ofText Settings.fileName))).mapError fun error =>
    (error.isReported, error.message)

/-- Content that is not UTF-8, and a value in the place of a table, end a command by an error that is not
reported. -/
theorem readSettings_unreported :
    readSettings [0xFF] = .error
      (false, "'utf-8' codec can't decode byte 0xff in position 0: invalid start byte".toList) ∧
    readSettings (Utf8.encode "tool = 1\n".toList) =
      .error (false, "'int' object has no attribute 'get'".toList) ∧
    readSettings (Utf8.encode "tool.xmldoctest = []\n".toList) =
      .error (false, "'list' object has no attribute 'get'".toList) := by
  decide +kernel

end CommandLine

end DocExamples
