import DocExamples.CommandLine.Execution
import DocExamples.Proofs.Documentation.Loading
import DocExamples.Script.Language

namespace DocExamples.CommandLine

open Text Files Documentation Markup

variable {tree : Tree} {fetch : Fetch} {error : LoadError}

theorem listExamples_of_isReported {source : Text}
    (failed : load tree fetch (.ofText source) = .error error) (reported : error.isReported = true)
    (format : Format) : listExamples tree fetch source format = .reported error.message := by
  rw [listExamples, failed]
  dsimp only
  rw [Result.ofLoadError, if_pos reported]

theorem runExamples_of_isReported [Language] {source : Text} {choice : SettingsChoice} {settings : Settings}
    (failed : load tree fetch (.ofText source) = .error error) (reported : error.isReported = true)
    (chosen : chosenSettings tree choice = .ok settings) (format : Format) (verbose : Bool) :
    runExamples tree fetch source choice format verbose =
      .afterLog (if verbose then fetchLines (.ofText source) else []) (.reported error.message) := by
  rw [runExamples, chosen, failed]
  dsimp only
  rw [Result.ofLoadError, if_pos reported]

/-- What a generator answers to an error. There is a diagnostic for a missing file. -/
def generatorAnswer (path : Path) : LoadError → Result
  | .missing _ =>
    { out := []
      err := withoutControls (unlines [(TestModule.Diagnostic.missingFile path.text).text])
      exit := 1
      crash := none }
  | error => .reported error.message

theorem generateModule_of_isReported [Language] {path : Path} {choice : SettingsChoice} {settings : Settings}
    (failed : load tree fetch (.file path) = .error error) (reported : error.isReported = true)
    (chosen : chosenSettings tree choice = .ok settings) (output : Option Path) (force : Bool) :
    generateModule tree fetch path choice output force = (generatorAnswer path error, tree) := by
  rw [generateModule, chosen]
  dsimp only
  rw [TestModule.ofSource, failed]
  cases error <;> simp_all [Result.ofFailure, Result.ofLoadError, deliverGenerated,
    TestModule.Generated.refused, generatorAnswer]

/-- What comes of loading documentation, where requests fail as requests only. Every error is one to report
exactly when the system lets the source be looked at, it is UTF-8 where it is fetched, and its text is a
document. A text is none only if it holds the start of a marked section or a number with too many digits. The
commands answer an error to report with its message, or a generator with a diagnostic, and with the exit
status one. -/
theorem commands_report_iff [Language] (tree : Tree) (fetch : Fetch) (requests : OnlyRequestsFail fetch) :
    (∀ source, (∀ error, load tree fetch source = .error error → error.isReported = true) ↔
      IsSound tree fetch source) ∧
    (∀ text, Content.ofText? text = none →
      "<![".toList <:+: text ∨ ∃ count, Reference.HoldsOverlong text count) ∧
    (∀ source error, load tree fetch (.ofText source) = .error error → error.isReported = true →
      (∀ format, listExamples tree fetch source format = .reported error.message) ∧
      ∀ choice settings format verbose, chosenSettings tree choice = .ok settings →
        runExamples tree fetch source choice format verbose =
          .afterLog (if verbose then fetchLines (.ofText source) else []) (.reported error.message)) ∧
    (∀ path error, load tree fetch (.file path) = .error error → error.isReported = true →
      ∀ choice settings output force, chosenSettings tree choice = .ok settings →
        generateModule tree fetch path choice output force = (generatorAnswer path error, tree)) := by
  refine ⟨load_isReported_iff requests, ?_, ?_, ?_⟩
  · intro text rejected
    cases found : Token.ofText text with
    | error fault =>
      have isIn := Token.isFoundIn_of_ofText found
      cases fault with
      | unknownSection => exact .inl isIn
      | overlongNumber count => exact .inr ⟨count, isIn⟩
    | ok tokens =>
      rw [Content.ofText?, Content.ofText, found] at rejected
      cases rejected
  · intro source error failed reported
    refine ⟨listExamples_of_isReported failed reported, ?_⟩
    intro choice settings format verbose chosen
    exact runExamples_of_isReported failed reported chosen format verbose
  · intro path error failed reported choice settings output force chosen
    exact generateModule_of_isReported failed reported chosen output force

/-- A tree with a documentation file that holds a marked section without a known name, one that may not be read,
and a directory in which nothing may be found. -/
def sectionTree : Tree :=
  { top := []
    files := [(["d.xml".toList], Utf8.encode "<doc><![x[ ]]></doc>".toList),
      (["p.xml".toList], Utf8.encode "<doc></doc>".toList)]
    directories := [["p".toList]]
    working := []
    refusal? access place :=
      if (access = .read ∧ place = ["p.xml".toList]) ∨ place = ["p".toList] then
        some ⟨13, "Permission denied".toList⟩
      else none }

/-- A network on which every content is the byte of an accented letter in another encoding. -/
def latinFetch : Fetch := fun _ => .ok [0xE9]

theorem latinFetch_onlyRequestsFail : OnlyRequestsFail latinFetch := by
  intro request kind message failed
  cases failed

/-- A missing file is reported by each command, and so is one that may not be read; a file with rejected markup
is not sound. -/
theorem latinFetch_commands_report :
    OnlyRequestsFail latinFetch ∧
    ¬ IsSound sectionTree latinFetch (.ofText "d.xml".toList) ∧
    load sectionTree latinFetch (.ofText "e.xml".toList) = .error (.missing "e.xml".toList) ∧
    listExamples sectionTree latinFetch "e.xml".toList .plain =
      .reported "Missing XML documentation file \"e.xml\".".toList ∧
    generateModule sectionTree latinFetch (.ofText "e.xml".toList) ⟨none, [], [], []⟩ none false =
      (generatorAnswer (.ofText "e.xml".toList) (.missing "e.xml".toList), sectionTree) ∧
    listExamples sectionTree latinFetch "p.xml".toList .plain =
      .reported ("Could not read documentation file \"p.xml\": ".toList ++
        "[Errno 13] Permission denied: 'p.xml'".toList) := by
  obtain ⟨sound, -, list, generate⟩ :=
    commands_report_iff sectionTree latinFetch latinFetch_onlyRequestsFail
  have missing : load sectionTree latinFetch (.ofText "e.xml".toList) =
      .error (.missing "e.xml".toList) := by decide +kernel
  have closed : load sectionTree latinFetch (.ofText "p.xml".toList) =
      .error (.unreadable "p.xml".toList (.access (.refused ⟨13, "Permission denied".toList⟩))) := by
    decide +kernel
  have rejected : load sectionTree latinFetch (.ofText "d.xml".toList) =
      .error (.unparsed .rejectedMarkup) := by decide +kernel
  have chosen : ∃ settings, chosenSettings sectionTree ⟨none, [], [], []⟩ = .ok settings :=
    ⟨_, rfl⟩
  obtain ⟨settings, chosen⟩ := chosen
  refine ⟨latinFetch_onlyRequestsFail, ?_, missing, (list _ _ missing rfl).1 .plain,
    generate _ _ missing rfl _ settings none false chosen, (list _ _ closed rfl).1 .plain⟩
  intro found
  exact absurd ((sound _).mpr found _ rejected) (by decide)

/-- Content that is not UTF-8, markup that is rejected, a name that is too long and a directory in which nothing
may be found end a command by an error that is not reported. -/
theorem listExamples_crashes :
    let ends (source : Text) (error : LoadError) : Prop :=
      load sectionTree latinFetch (.ofText source) = .error error ∧
        (listExamples sectionTree latinFetch source .plain).crash = some (.load error)
    ends "http://host/d.xml".toList (.undecodable ⟨.unexpectedEnd, 0, 0xE9, 1⟩) ∧
    ends "d.xml".toList (.unparsed .rejectedMarkup) ∧
    ends (List.replicate 256 'x') (.inaccessible (List.replicate 256 'x') .nameTooLong) ∧
    ends "p/d.xml".toList (.inaccessible "p/d.xml".toList (.refused ⟨13, "Permission denied".toList⟩)) := by
  intro ends
  have endsWith {source : Text} {error : LoadError}
      (failed : load sectionTree latinFetch (.ofText source) = .error error)
      (silent : error.isReported = false) : ends source error := by
    refine ⟨failed, ?_⟩
    rw [listExamples, failed]
    simp [Result.ofLoadError, silent, Result.crashed]
  exact ⟨endsWith (by decide +kernel) rfl, endsWith (by decide +kernel) rfl, endsWith (by decide +kernel) rfl,
    endsWith (by decide +kernel) rfl⟩

end DocExamples.CommandLine
