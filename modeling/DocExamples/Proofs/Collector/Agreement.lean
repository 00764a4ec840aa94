import DocExamples.Collector
import DocExamples.Proofs.CommandLine.Payload
import DocExamples.Proofs.DocTest.Result
import DocExamples.Proofs.Documentation.LineEnds
import DocExamples.Proofs.Text.Utf8

namespace DocExamples.Collector

open Text Files Documentation Console Markup CommandLine

variable {tree : Tree} {fetch : Fetch} {path : Path} {bytes : Bytes} {text : Text} {content : Content}
  {options : Options} {configuration : Configuration}

/-- The content of a file is decoded if it is UTF-8, with a mark or without one, or if it is a mark cut short. -/
theorem exists_decodeFile_iff : (∃ text, decodeFile bytes = .ok text) ↔
    isCutMark bytes = true ∨ ∃ text, Utf8.decode bytes = .ok text := by
  rw [← Utf8.exists_decode_dropMark_iff, decodeFile]
  by_cases cut : isCutMark bytes = true
  · simp [cut]
  · rw [if_neg cut]
    cases Utf8.decode (Utf8.dropMark bytes) <;> simp [cut, Except.map]

/-- The doctests of records, for the imports and the comment token of a session. -/
def doctests (options : Options) (configuration : Configuration) (records : List Record) : List DocTest :=
  DocTest.ofRecords records (some (.ofUsings (usings options configuration))) (comment options configuration)

theorem looksLikeDocumentation_eq (stored : tree.read path = .ok bytes)
    (decoded : decodeFile bytes = .ok text) (parsed : Content.ofText? text = some content) :
    looksLikeDocumentation tree path = .ok (hasDoc content) := by
  rw [looksLikeDocumentation, readText_of_read stored, decoded]
  dsimp only [Except.mapError]
  rw [isDocumentation, readTree_of_ofText? parsed]
  rfl

theorem collect_eq (enabled : options.enabled = true) (suffix : path.suffix = ".xml".toList)
    (stored : tree.read path = .ok bytes) (decoded : decodeFile bytes = .ok text)
    (parsed : Content.ofText? text = some content) :
    collect tree options configuration path =
      .ok (if hasDoc content then some (doctests options configuration (recordsOf content)) else none) := by
  rw [collect, enabled, suffix, looksLikeDocumentation_eq stored decoded parsed]
  cases isDoc : hasDoc content with
  | false => rfl
  | true =>
    have read : readFile tree path = .ok text := by
      rw [readFile_of_read stored, decoded]
      rfl
    have records : parse text = .ok (recordsOf content) := by
      rw [parse_of_ofText? parsed]
      exact if_pos isDoc
    rw [read]
    change ((parse text).mapError fun error => Failure.load (.unparsed error)).bind _ = _
    rw [records]
    rfl

/-- A command ends well and prints a value as JSON, in which a list has objects with some names. -/
def PrintsNames (result : CommandLine.Result) (layout : Json.Layout) (list : Text) (names : List Text) :
    Prop :=
  result.crash = none ∧
    ∃ payload : Json, result.out = payload.render layout ++ ['\n'] ∧ payload.namesIn? list = some names

variable {source : Text} {records : List Record} {layout : Json.Layout} {choice : SettingsChoice}
  {settings : Settings}

theorem PrintsNames.afterLog {result : CommandLine.Result} {list : Text} {names : List Text}
    (h : PrintsNames result layout list names) (lines : List LogLine) :
    PrintsNames (result.afterLog lines) layout list names := h

/-- A session that collects files and imports a module before each example. -/
def stopOptions : Options := { enabled := true, usings := [.text "sys".toList], comment := none }

end DocExamples.Collector
