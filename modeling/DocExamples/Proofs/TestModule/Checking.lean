import DocExamples.Context
import DocExamples.Proofs.Language
import DocExamples.Proofs.Script.Borders
import DocExamples.Proofs.Text.Margin
import DocExamples.Script.Language
import DocExamples.TestModule.Generation

namespace DocExamples

open Text Script Documentation

section

variable [Language]

namespace Snippet

/-- A snippet whose code is refused for a fault in it. -/
def IsRefused (snippet : Snippet) : Prop :=
  ∃ error, compile snippet.fileName (dedentCode snippet.code) = .error (.fault error)

/-- A refused snippet fails with a syntax error, unless a warning ends the compiling before, and nothing of it
runs. -/
theorem IsRefused.run {snippet : Snippet} (h : snippet.IsRefused) {world after : World}
    (warned : snippet.warn world = (none, after)) :
    ∃ cause, snippet.run world = (some (.ofCause cause), after) ∧
      cause.type.isKindOf .syntaxError = true := by
  obtain ⟨error, refused⟩ := h
  have kind (family : FaultFamily) : (Cause.familyType family).isKindOf .syntaxError = true := by
    cases family <;> decide
  refine ⟨.ofRefusal snippet.fileName (.fault error), ?_, kind _⟩
  rw [Snippet.run, warned, refused]

theorem isRefused_iff {snippet : Snippet} (file : '\x00' ∉ snippet.fileName)
    (h : '\x00' ∉ snippet.code) : snippet.IsRefused ↔ ¬ Language.Accepts (dedentCode snippet.code) := by
  rw [IsRefused, compile_of_not_mem file (not_mem_dedentCode h (by decide)), Language.Accepts]
  cases Language.read (dedentCode snippet.code) <;> simp [Except.mapError]

end Snippet

end

namespace TestModule

variable {e : Example} {es : List Example}

theorem not_mem_testedCode (h : '\x00' ∉ e.code) : '\x00' ∉ testedCode e := by
  intro mem
  have whole := takeWhile_trim_trailing isBlank (dedentCode e.code)
  refine not_mem_dedentCode h (by decide) ?_
  rw [← whole]
  exact List.mem_append_right _ (List.mem_append_left _ mem)

section

variable [Language]

/-- The diagnostic of an example whose code does not compile. -/
def diagnosis? (e : Example) : Option Diagnostic :=
  match Language.read (testedCode e) with
  | .ok _ => none
  | .error error => some (.brokenExample e.name error)

theorem check_eq (h : '\x00' ∉ e.code) : check e = .ok (diagnosis? e) := by
  have file : '\x00' ∉ "<doctest>".toList := by decide
  rw [check, compile_of_not_mem file (not_mem_testedCode h), diagnosis?]
  cases Language.read (testedCode e) <;> rfl

theorem sift_eq (h : ∀ e ∈ es, '\x00' ∉ e.code) :
    sift es = .ok (es.filter fun e => (diagnosis? e).isNone, es.filterMap diagnosis?) := by
  induction es with
  | nil => rfl
  | cons e es ih =>
    rw [sift, check_eq (h e (by simp)), ih fun e he => h e (by simp [he])]
    cases diagnosed : diagnosis? e <;> simp [diagnosed]

/-- A module of examples without NUL has the methods of those whose code compiles, and the diagnostics
of the others, in order. -/
theorem ofRecords_eq (options : Options) {records : List Record}
    (valid : checkClassName options.className = none)
    (h : ∀ e ∈ Example.ofRecords records, '\x00' ∉ e.code) :
    ofRecords options records = .ok
      { source := some (render options.className options.usings (methods options.comment
          ((Example.ofRecords records).filter fun e => (diagnosis? e).isNone)))
        diagnostics := (Example.ofRecords records).filterMap diagnosis? } := by
  rw [ofRecords, valid, sift_eq h]
  rfl

/-- A module of examples without NUL that all compile has nothing to report. -/
theorem exists_ofRecords (options : Options) {records : List Record}
    (valid : checkClassName options.className = none)
    (h : ∀ e ∈ Example.ofRecords records, '\x00' ∉ e.code)
    (clean : (Example.ofRecords records).filterMap diagnosis? = []) :
    ∃ source, ofRecords options records = .ok { source := some source, diagnostics := [] } := by
  rw [ofRecords_eq options valid h, clean]
  exact ⟨_, rfl⟩

theorem exists_diagnosis?_iff :
    (∃ error, diagnosis? e = some (.brokenExample e.name error)) ↔ ¬ Language.Accepts (testedCode e) := by
  rw [diagnosis?, Language.Accepts]
  cases Language.read (testedCode e) <;> simp

end

/-- A module reports the diagnostics of its examples in order. An example has one exactly when running it
is refused, unless the white space around its code decides whether the code compiles. -/
theorem ofRecords_reports_iff {options : Options} {records : List Record}
    (valid : checkClassName options.className = none)
    (h : ∀ e ∈ Example.ofRecords records, '\x00' ∉ e.code) :
    (∃ source, ofRecords options records =
      .ok { source := some source, diagnostics := (Example.ofRecords records).filterMap diagnosis? }) ∧
    ∀ e ∈ Example.ofRecords records, ∀ fileName : Text, '\x00' ∉ fileName →
      (((∃ error, diagnosis? e = some (.brokenExample e.name error)) ↔
          (Snippet.mk e.code fileName).IsRefused) ↔
        TrimsAlike (dedentCode e.code)) := by
  refine ⟨⟨_, ofRecords_eq options valid h⟩, fun e he fileName file => ?_⟩
  rw [exists_diagnosis?_iff, Snippet.isRefused_iff file (h e he), not_iff_not, testedCode]
  exact compiles_trim_iff _

/-- An example whose first line is indented further than the second one. -/
def indentedExample : Example :=
  { name := "Total".toList
    code := "\n  x = 1\ny = 2".toList
    record := "M:Demo.Total".toList }

/-- The member that has this example. -/
def indentedMember : Record :=
  { name := indentedExample.record
    examples := [
      { name := some indentedExample.name
        blocks := [{ text := indentedExample.code, doctest := true }] }] }

theorem indentedMember_reports :
    checkClassName "TestDocs".toList = none ∧
    Example.ofRecords [indentedMember] = [indentedExample] ∧
    '\x00' ∉ indentedExample.code ∧
    (∃ source, ofRecords ⟨"TestDocs".toList, [], "//".toList⟩ [indentedMember] =
      .ok { source := some source, diagnostics := [indentedExample].filterMap diagnosis? }) ∧
    (((∃ error, diagnosis? indentedExample = some (.brokenExample indentedExample.name error)) ↔
        (Snippet.mk indentedExample.code "<doctest Total>".toList).IsRefused) ↔
      TrimsAlike (dedentCode indentedExample.code)) := by
  have valid : checkClassName "TestDocs".toList = none := by decide +kernel
  have examples : Example.ofRecords [indentedMember] = [indentedExample] := by decide
  have noNul : ∀ e ∈ Example.ofRecords [indentedMember], '\x00' ∉ e.code := by decide
  obtain ⟨generated, same⟩ :=
    @ofRecords_reports_iff ⟨"TestDocs".toList, [], "//".toList⟩ [indentedMember] valid noNul
  rw [examples] at generated same noNul
  have member : indentedExample ∈ [indentedExample] := List.mem_singleton_self indentedExample
  exact ⟨valid, examples, noNul _ member, generated, same _ member _ (by decide)⟩

/-- The example of an indented member has no diagnostic, and running it is refused. -/
theorem indentedMember_unreported :
    ((ofRecords ⟨"TestDocs".toList, [], "//".toList⟩ [indentedMember]).toOption.map (·.diagnostics)) =
      some [] ∧
    (Snippet.mk indentedExample.code "<doctest Total>".toList).IsRefused := by
  have refused : ¬ Compiles (dedentCode indentedExample.code) := by decide +kernel
  exact ⟨by decide +kernel, (Snippet.isRefused_iff (by decide) (by decide)).mpr refused⟩

end TestModule

end DocExamples
