import DocExamples.Proofs.CommandLine.Printing
import DocExamples.Proofs.Files.Writing

namespace DocExamples.CommandLine

open Text Files Documentation TestModule

variable {tree : Tree} {fetch : Fetch} {source path : Path} {choice : SettingsChoice}
  {settings : Settings} {generated : Generated} {output : Option Path} {force : Bool} {place : Place}

/-- A command comes to generate a module, or diagnostics that keep it from that, by some settings. -/
structure Generates (tree : Tree) (fetch : Fetch) (source : Path) (choice : SettingsChoice)
    (settings : Settings) (generated : Generated) : Prop where
  chosen : chosenSettings tree choice = .ok settings
  made : ofSource tree fetch ⟨settings.className, settings.usings, settings.comment⟩ (.file source)
    source.text = .ok generated

/-- A file is written where there is none, or over one if that is forced. -/
def MayWrite (tree : Tree) (place : Place) (force : Bool) : Prop :=
  tree.fileAt? place = none ∨ force = true

theorem Generates.run (h : Generates tree fetch source choice settings generated) (output : Option Path)
    (force : Bool) : generateModule tree fetch source choice output force =
      deliverGenerated tree output force generated := by
  rw [generateModule, h.chosen]
  dsimp only
  rw [h.made]

theorem Generates.unique {settings' : Settings} {generated' : Generated}
    (h : Generates tree fetch source choice settings generated)
    (h' : Generates tree fetch source choice settings' generated') : generated' = generated := by
  obtain rfl : settings' = settings := Except.ok.inj (h'.chosen.symm.trans h.chosen)
  exact Except.ok.inj (h'.made.symm.trans h.made)

/-- A command that fails and prints nothing on standard output. -/
structure Result.IsFailure (result : Result) : Prop where
  out : result.out = []
  exit : result.exit = 1

theorem isFailure_reported (message : Text) : (Result.reported message).IsFailure := ⟨rfl, rfl⟩

theorem isFailure_crashed (crash : Crash) : (Result.crashed crash).IsFailure := ⟨rfl, rfl⟩

theorem isFailure_ofSettingsError (error : SettingsError) : (Result.ofSettingsError error).IsFailure := by
  rw [Result.ofSettingsError]
  split
  · exact isFailure_reported _
  · exact isFailure_crashed _

theorem isFailure_ofFailure (failure : Failure) : (Result.ofFailure failure).IsFailure := by
  cases failure with
  | compile cause => exact isFailure_crashed _
  | load error =>
    rw [Result.ofFailure, Result.ofLoadError]
    split
    · exact isFailure_reported _
    · exact isFailure_crashed _

/-- A command that stops before anything is generated fails in the same way with every output. -/
theorem run_of_stops (stops : ∀ settings generated, ¬ Generates tree fetch source choice settings generated) :
    ∃ result : Result, result.IsFailure ∧
      ∀ output force, generateModule tree fetch source choice output force = (result, tree) := by
  cases chosen : chosenSettings tree choice with
  | error error =>
    refine ⟨.ofSettingsError error, isFailure_ofSettingsError error, fun output force => ?_⟩
    rw [generateModule, chosen]
  | ok settings =>
    cases made : ofSource tree fetch ⟨settings.className, settings.usings, settings.comment⟩
        (.file source) source.text with
    | ok generated => exact absurd ⟨chosen, made⟩ (stops settings generated)
    | error failure =>
      refine ⟨.ofFailure failure, isFailure_ofFailure failure, fun output force => ?_⟩
      rw [generateModule, chosen]
      dsimp only
      rw [made]

/-- What is generated is one diagnostic, or the text of a module with a proper class name. -/
theorem Generates.cases (h : Generates tree fetch source choice settings generated) :
    (∃ diagnostic, generated = .refused diagnostic) ∨
      checkClassName settings.className = none ∧ ∃ es diagnostics, generated =
        ⟨some (render settings.className settings.usings (methods settings.comment es)), diagnostics⟩ := by
  have made := h.made
  rw [ofSource] at made
  split at made
  · next records loaded =>
    rw [ofRecords] at made
    split at made
    · next diagnostic refused =>
      cases made
      exact .inl ⟨diagnostic, rfl⟩
    · next valid =>
      cases sifted : sift (Example.ofRecords records) with
      | error cause =>
        rw [sifted] at made
        cases made
      | ok found =>
        rw [sifted] at made
        cases made
        exact .inr ⟨valid, found.1, found.2, rfl⟩
  · cases made
    exact .inl ⟨_, rfl⟩
  · cases made

/-- A module that is refused has a diagnostic. -/
theorem Generates.diagnostics_ne_nil (h : Generates tree fetch source choice settings generated)
    (refused : generated.source = none) : generated.diagnostics ≠ [] := by
  rcases h.cases with ⟨diagnostic, rfl⟩ | ⟨-, es, diagnostics, rfl⟩
  · exact List.cons_ne_nil diagnostic []
  · cases refused

/-- All of a generated module is printed, unless an import holds a control sequence. -/
theorem Generates.isPrintedWhole_iff (h : Generates tree fetch source choice settings generated) {text : Text}
    (produced : generated.source = some text) :
    IsPrintedWhole text ↔ ∀ name ∈ settings.usings, IsPrintedWhole name := by
  rcases h.cases with ⟨diagnostic, rfl⟩ | ⟨valid, es, diagnostics, rfl⟩
  · cases produced
  · cases produced
    exact isPrintedWhole_render_iff valid fun _ => escape_not_mem_of_mem_methods

/-- How a command ends that reports nothing but the diagnostics of what it generated. -/
def closing (generated : Generated) (out : Text) : Result :=
  { out
    err := withoutControls (unlines (generated.diagnostics.map (·.text)))
    exit := exitStatus (!generated.diagnostics.isEmpty)
    crash := none }

theorem exit_closing (generated : Generated) (out : Text) :
    (closing generated out).exit = 0 ↔ generated.diagnostics = [] := by
  cases generated with
  | mk source diagnostics => cases diagnostics <;> simp [closing, exitStatus]

theorem Generates.run_of_refused (h : Generates tree fetch source choice settings generated)
    (refused : generated.source = none) (output : Option Path) (force : Bool) :
    generateModule tree fetch source choice output force = (closing generated [], tree) := by
  have reports := h.diagnostics_ne_nil refused
  rw [h.run, deliverGenerated, refused]
  simp [closing, exitStatus, reports]

section

variable {text : Text} (h : Generates tree fetch source choice settings generated)
  (produced : generated.source = some text)

include h produced

theorem Generates.run_printing (force : Bool) :
    generateModule tree fetch source choice none force =
      (closing generated (withoutControls text), tree) := by
  rw [h.run, deliverGenerated, produced]
  simp [deliver, closing]

theorem Generates.run_writing (leads : tree.LeadsTo path place) (may : MayWrite tree place force) :
    generateModule tree fetch source choice (some path) force =
      (closing generated [], tree.put place (Utf8.encode text)) := by
  have free : ((tree.fileAt? place).isSome && !force) = false := by
    rcases may with none | forced
    · simp [none]
    · simp [forced]
  have written : tree.write path (Utf8.encode text) = .ok (tree.put place (Utf8.encode text)) :=
    Tree.write_eq_ok_iff.mpr ⟨place, leads, rfl⟩
  rw [h.run, deliverGenerated, produced]
  simp [deliver, leads.hasEntry, free, written, closing]

theorem Generates.run_keeping (leads : tree.LeadsTo path place) (mayNot : ¬ MayWrite tree place force) :
    ∃ result : Result, result.IsFailure ∧ result.crash = none ∧
      generateModule tree fetch source choice (some path) force = (result, tree) := by
  obtain ⟨found, unforced⟩ := not_or.mp mayNot
  have taken : ((tree.fileAt? place).isSome && !force) = true := by
    rw [Option.isSome_iff_ne_none.mpr found, Bool.eq_false_iff.mpr unforced]
    rfl
  rw [h.run, deliverGenerated, produced]
  simp only [deliver, leads.hasEntry, taken, if_true]
  refine ⟨_, ⟨rfl, ?_⟩, rfl, rfl⟩
  cases generated.diagnostics <;> rfl

end

/-- A path that leads to no place which can be written leaves the tree as it is. -/
theorem run_of_not_leadsTo (path : Path) (nowhere : ∀ place, ¬ tree.LeadsTo path place) :
    (generateModule tree fetch source choice (some path) force).2 = tree := by
  have unwritten (bytes : Bytes) (after : Tree) : tree.write path bytes ≠ .ok after := by
    intro written
    obtain ⟨place, leads, -⟩ := Tree.write_eq_ok_iff.mp written
    exact nowhere place leads
  have kept (text : Text) : (deliver tree (some path) force text).2 = tree := by
    rw [deliver]
    split
    · rfl
    · split
      · rfl
      · split
        · next written => exact absurd written (unwritten _ _)
        · rfl
  by_cases any : ∃ settings generated, Generates tree fetch source choice settings generated
  · obtain ⟨settings, generated, h⟩ := any
    rw [h.run, deliverGenerated]
    dsimp only
    split
    · rfl
    · exact kept _
  · obtain ⟨result, -, same⟩ := run_of_stops fun settings generated h => any ⟨settings, generated, h⟩
    rw [same]

/-- How a command that writes to a place stands to the same command that prints. -/
structure WritesAsPrinted (tree : Tree) (fetch : Fetch) (source : Path) (choice : SettingsChoice)
    (force : Bool) (place : Place) (printed written : Result) (after : Tree) : Prop where
  ends : written.crash = none
  silent : written.out = []
  /-- The file gets the text of the module, which is printed but for its control sequences. -/
  writes : ∀ settings generated text, Generates tree fetch source choice settings generated →
    generated.source = some text → MayWrite tree place force →
      tree.IsPut after place (Utf8.encode text) ∧ printed.out = withoutControls text ∧
      (printed.out = text ↔ ∀ name ∈ settings.usings, IsPrintedWhole name)
  keeps : (¬ MayWrite tree place force ∨ ∀ settings generated,
    Generates tree fetch source choice settings generated → generated.source = none) → after = tree
  succeeds : written.exit = 0 ↔ MayWrite tree place force ∧
    ∃ settings generated, Generates tree fetch source choice settings generated ∧
      generated.diagnostics = []
  fails : written.exit ≠ 0 → written.exit = 1

/-- The command that writes, beside the one that prints. -/
def Agrees (tree : Tree) (fetch : Fetch) (source : Path) (choice : SettingsChoice) (force : Bool)
    (path : Path) (place : Place) : Prop :=
  WritesAsPrinted tree fetch source choice force place
    (generateModule tree fetch source choice none force).1
    (generateModule tree fetch source choice (some path) force).1
    (generateModule tree fetch source choice (some path) force).2

theorem agrees_of_stops
    (stops : ∀ settings generated, ¬ Generates tree fetch source choice settings generated)
    (ends : (generateModule tree fetch source choice output force).1.crash = none) :
    Agrees tree fetch source choice force path place := by
  obtain ⟨result, failure, same⟩ := run_of_stops stops
  rw [same] at ends
  rw [Agrees, same, same]
  refine ⟨ends, failure.out, ?_, fun _ => rfl, ?_, fun _ => failure.exit⟩
  · exact fun settings generated text h => absurd h (stops settings generated)
  · refine iff_of_false (by rw [failure.exit]; decide) ?_
    rintro ⟨-, settings, generated, h, -⟩
    exact stops settings generated h

theorem agrees_of_refused (h : Generates tree fetch source choice settings generated)
    (refused : generated.source = none) : Agrees tree fetch source choice force path place := by
  have reports := h.diagnostics_ne_nil refused
  have failed : (closing generated []).exit = 1 := by simp [closing, exitStatus, reports]
  rw [Agrees, h.run_of_refused refused, h.run_of_refused refused]
  refine ⟨rfl, rfl, ?_, fun _ => rfl, ?_, fun _ => failed⟩
  · intro settings' generated' text h' produced
    rw [h.unique h', refused] at produced
    cases produced
  · refine iff_of_false (by rw [failed]; decide) ?_
    rintro ⟨-, settings', generated', h', clean⟩
    rw [h.unique h'] at clean
    exact reports clean

theorem agrees_of_produced (h : Generates tree fetch source choice settings generated) {text : Text}
    (produced : generated.source = some text) (leads : tree.LeadsTo path place) :
    Agrees tree fetch source choice force path place := by
  rw [Agrees, h.run_printing produced]
  by_cases may : MayWrite tree place force
  · rw [h.run_writing produced leads may]
    refine ⟨rfl, rfl, ?_, ?_, ?_, ?_⟩
    · intro settings' generated' text' h' produced' _
      have same : text' = text := by
        rw [h.unique h', produced] at produced'
        exact (Option.some.inj produced').symm
      subst same
      exact ⟨Tree.isPut_put leads.parent, rfl, h'.isPrintedWhole_iff produced'⟩
    · rintro (mayNot | none)
      · exact absurd may mayNot
      · rw [none settings generated h] at produced
        cases produced
    · rw [exit_closing]
      constructor
      · exact fun clean => ⟨may, settings, generated, h, clean⟩
      · rintro ⟨-, settings', generated', h', clean⟩
        rwa [h.unique h'] at clean
    · intro failed
      cases reports : generated.diagnostics <;> simp_all [closing, exitStatus]
  · obtain ⟨result, failure, ends, same⟩ := h.run_keeping produced leads may
    rw [same]
    refine ⟨ends, failure.out, ?_, fun _ => rfl, ?_, fun _ => failure.exit⟩
    · exact fun _ _ _ _ _ may' => absurd may' may
    · exact iff_of_false (by rw [failure.exit]; decide) fun ⟨may', _⟩ => may may'

/-- Whenever a command ends by no error with some output, it does so printing the module, leaves the tree as
it is then, and succeeds exactly when there is no error to report and no diagnostic. With a path that leads
to a place for a file it ends too, and prints nothing on standard output. The file there is written exactly
when the text of a module was produced and the file is new or replacing it is forced. It holds that text,
which is printed but for control sequences, and so as it is exactly when no import holds one. Nothing else is
changed, and nothing at all in every other case. The command succeeds exactly when there is no error, no
diagnostic and no file that is kept from being replaced. With a path that leads to no such place the tree
stays as it is. -/
theorem generate_writes (ends : (generateModule tree fetch source choice output force).1.crash = none) :
    ((generateModule tree fetch source choice none force).1.crash = none ∧
      (generateModule tree fetch source choice none force).2 = tree ∧
      ((generateModule tree fetch source choice none force).1.exit = 0 ↔ ∃ settings generated,
        Generates tree fetch source choice settings generated ∧ generated.diagnostics = [])) ∧
    (∀ path place, tree.LeadsTo path place → Agrees tree fetch source choice force path place) ∧
    ∀ path, (∀ place, ¬ tree.LeadsTo path place) →
      (generateModule tree fetch source choice (some path) force).2 = tree := by
  by_cases any : ∃ settings generated, Generates tree fetch source choice settings generated
  · obtain ⟨settings, generated, h⟩ := any
    have clean_iff : generated.diagnostics = [] ↔ ∃ settings generated,
        Generates tree fetch source choice settings generated ∧ generated.diagnostics = [] := by
      constructor
      · exact fun clean => ⟨settings, generated, h, clean⟩
      · rintro ⟨settings', generated', h', clean⟩
        rwa [h.unique h'] at clean
    cases produced : generated.source with
    | none =>
      rw [h.run_of_refused produced, exit_closing]
      exact ⟨⟨rfl, rfl, clean_iff⟩, fun _ _ _ => agrees_of_refused h produced, run_of_not_leadsTo⟩
    | some text =>
      rw [h.run_printing produced, exit_closing]
      exact ⟨⟨rfl, rfl, clean_iff⟩, fun _ _ => agrees_of_produced h produced, run_of_not_leadsTo⟩
  · have stops : ∀ settings generated, ¬ Generates tree fetch source choice settings generated :=
      fun settings generated h => any ⟨settings, generated, h⟩
    refine ⟨?_, fun _ _ _ => agrees_of_stops stops ends, run_of_not_leadsTo⟩
    obtain ⟨result, failure, same⟩ := run_of_stops stops
    rw [same] at ends
    rw [same]
    refine ⟨ends, rfl, iff_of_false (by rw [failure.exit]; decide) ?_⟩
    exact fun ⟨settings, generated, h, _⟩ => stops settings generated h

/-- A tree with a documentation file only. -/
def docTree (text : String) : Tree :=
  { top := []
    files := [(["d.xml".toList], Utf8.encode text.toList)]
    directories := []
    working := [] }

/-- A network on which nothing is found. -/
def noFetch : Fetch := fun _ => .error (.failed [])

/-- A command on the only file of a tree, in which modules to import are given. -/
def generateFrom (text : String) (usings : List Text) (output : Option Path) : Result × Tree :=
  generateModule (docTree text) noFetch (.ofText "d.xml".toList) ⟨none, usings, [], []⟩ output false

/-- What comes of it, by the standard settings but for these modules. -/
def madeFrom (text : String) (usings : List Text) : Except Failure Generated :=
  let settings := Settings.standard.override usings [] []
  ofSource (docTree text) noFetch ⟨settings.className, settings.usings, settings.comment⟩
    (.file (.ofText "d.xml".toList)) "d.xml".toList

theorem exists_generates {text : String} {usings : List Text} {p : Generated → Bool}
    (made : (madeFrom text usings).toOption.any p = true) :
    ∃ generated, Generates (docTree text) noFetch (.ofText "d.xml".toList) ⟨none, usings, [], []⟩
      (.override .standard usings [] []) generated ∧ p generated = true := by
  obtain ⟨generated, found, holds⟩ := (Option.any_eq_true _ _).mp made
  exact ⟨generated, ⟨rfl, Effects.eq_ok_of_toOption found⟩, holds⟩

/-- The path of a file that is new. -/
def newPath : Path := .ofText "t.py".toList

theorem docTree_leadsTo (text : String) : (docTree text).LeadsTo newPath ["t.py".toList] :=
  ⟨rfl, rfl, rfl, rfl⟩

/-- Documentation of which the only example does not compile. -/
def faultyText : String :=
  "<doc><member name=\"m\"><example><code doctest=\"true\">x =</code></example></member></doc>"

/-- The module is written although there is a diagnostic, and the command fails. -/
theorem faultyText_writes :
    (generateFrom faultyText [] none).1.crash = none ∧
    (docTree faultyText).LeadsTo newPath ["t.py".toList] ∧
    ∃ text, (generateFrom faultyText [] none).1.out = text ∧
      (docTree faultyText).IsPut (generateFrom faultyText [] (some newPath)).2 ["t.py".toList]
        (Utf8.encode text) ∧
      (generateFrom faultyText [] (some newPath)).1.exit = 1 := by
  unfold generateFrom
  have made : (madeFrom faultyText []).toOption.any (fun generated =>
      generated.source.isSome && !generated.diagnostics.isEmpty) = true := by decide +kernel
  obtain ⟨generated, h, made⟩ := exists_generates made
  obtain ⟨produced, reports⟩ := (Bool.and_eq_true _ _).mp made
  obtain ⟨text, produced⟩ := Option.isSome_iff_exists.mp produced
  have ends : (generateModule (docTree faultyText) noFetch (.ofText "d.xml".toList)
      ⟨none, [], [], []⟩ none false).1.crash = none := by
    rw [h.run_printing produced]
    rfl
  have agrees := (generate_writes ends).2.1 _ _ (docTree_leadsTo faultyText)
  obtain ⟨put, -, whole⟩ := agrees.writes _ _ text h produced (.inl rfl)
  have printed := whole.mpr fun _ mem => absurd mem List.not_mem_nil
  refine ⟨ends, docTree_leadsTo faultyText, text, printed, put, agrees.fails fun zero => ?_⟩
  obtain ⟨-, settings', generated', h', clean⟩ := agrees.succeeds.mp zero
  rw [h.unique h'] at clean
  simp [clean] at reports

/-- An import that starts with a control sequence is written as it is, and printed without it. -/
theorem colouredImport_apart :
    (generateFrom "<doc></doc>" ["\x1b[31mos".toList] none).1.crash = none ∧
    (docTree "<doc></doc>").LeadsTo newPath ["t.py".toList] ∧
    ∃ bytes, (generateFrom "<doc></doc>" ["\x1b[31mos".toList] (some newPath)).2.fileAt?
        ["t.py".toList] = some bytes ∧
      bytes ≠ Utf8.encode (generateFrom "<doc></doc>" ["\x1b[31mos".toList] none).1.out := by
  unfold generateFrom
  have made : (madeFrom "<doc></doc>" ["\x1b[31mos".toList]).toOption.any (fun generated =>
      generated.source.any fun text => Utf8.encode text != Utf8.encode (withoutControls text)) = true := by
    decide +kernel
  obtain ⟨generated, h, made⟩ := exists_generates made
  obtain ⟨text, produced, apart⟩ := (Option.any_eq_true _ _).mp made
  have leads := docTree_leadsTo "<doc></doc>"
  rw [h.run_printing produced, h.run_writing produced leads (.inl rfl)]
  exact ⟨rfl, leads, Utf8.encode text, (Tree.isPut_put leads.parent).content, bne_iff_ne.mp apart⟩

end DocExamples.CommandLine
