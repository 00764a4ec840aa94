import DocExamples.Proofs.Example.Extraction
import DocExamples.Proofs.TestModule.Sifting

namespace DocExamples

open Text Script Documentation
open List (Forall₂)

namespace Example

/-- What of an example gets into its test. -/
def content (e : Example) : Text × Text := (e.name, e.code)

end Example

namespace TestModule

variable {options : Options} {es : List Example} {record : Record}

/-- Methods are made of the names and the codes of examples. -/
theorem methods_congr {es es' : List Example} (comment : Text)
    (same : es.map Example.content = es'.map Example.content) : methods comment es = methods comment es' := by
  have made (es : List Example) : methods comment es =
      List.zipWith (fun name (content : Text × Text) => method comment name ⟨content.1, content.2, []⟩)
        (distinctNames [] ((es.map Example.content).map fun content => MethodName.collectable content.1))
        (es.map Example.content) := by
    rw [List.zipWith_map_right, List.map_map]
    rfl
  rw [made, made, same]

section

variable [Language]

/-- Code that does not compile, and the fault in it. -/
def IsFaulty (code : Text) (error : CompileError) : Prop :=
  compile "<doctest>".toList (trim isBlank (dedentCode code)) = .error (.fault error)

/-- A record of which no marked block compiles. -/
def IsBroken (record : Record) : Prop :=
  ∀ block ∈ Example.markedBlocks record, ∃ error, IsFaulty block.text error

/-- A diagnostic that names an example and the fault in its code. -/
def Reports (e : Example) (diagnostic : Diagnostic) : Prop :=
  ∃ error, IsFaulty e.code error ∧ diagnostic = .brokenExample e.name error

theorem exists_isFaulty_iff {code : Text} : (∃ error, IsFaulty code error) ↔
    '\x00' ∉ trim isBlank (dedentCode code) ∧ ¬ Language.Accepts (trim isBlank (dedentCode code)) := by
  by_cases nul : '\x00' ∈ trim isBlank (dedentCode code)
  · simp [IsFaulty, compile, nul]
  · have file : '\x00' ∉ "<doctest>".toList := by decide
    simp only [IsFaulty, compile_of_not_mem file nul, Language.Accepts, nul]
    cases Language.read (trim isBlank (dedentCode code)) <;> simp [Except.mapError]

theorem IsBroken.isFaulty (h : IsBroken record) {e : Example} (mem : e ∈ Example.ofRecord record) :
    ∃ error, IsFaulty e.code error := by
  have code : e.code ∈ (Example.ofRecord record).map (·.code) := List.mem_map_of_mem mem
  rw [Example.map_code_ofRecord] at code
  obtain ⟨block, inside, same⟩ := List.mem_map.mp code
  rw [← same]
  exact h block inside

theorem sift_append (first second : List Example) :
    sift (first ++ second) =
      match sift first, sift second with
      | .error cause, _ => .error cause
      | _, .error cause => .error cause
      | .ok (sound, above), .ok (sound', below) => .ok (sound ++ sound', above ++ below) := by
  induction first with
  | nil =>
    rw [List.nil_append, sift]
    rcases sift second with cause | ⟨sound, below⟩ <;> rfl
  | cons e first ih =>
    rw [List.cons_append, sift, sift, ih]
    rcases check e with cause | _ | diagnostic
    · rfl
    · rcases sift first with cause | ⟨sound, above⟩
      · rfl
      · rcases sift second with cause | ⟨sound', below⟩ <;> rfl
    · rcases sift first with cause | ⟨sound, above⟩
      · rfl
      · rcases sift second with cause | ⟨sound', below⟩ <;> rfl

/-- Examples none of which compiles get a diagnostic each, and no method. -/
theorem sift_of_isFaulty (h : ∀ e ∈ es, ∃ error, IsFaulty e.code error) :
    ∃ reported, sift es = .ok ([], reported) ∧ Forall₂ Reports es reported := by
  induction es with
  | nil => exact ⟨[], rfl, .nil⟩
  | cons e es ih =>
    obtain ⟨⟨error, faulty⟩, others⟩ := List.forall_mem_cons.mp h
    obtain ⟨reported, sifted, each⟩ := ih others
    have found : check e = .ok (some (.brokenExample e.name error)) := by
      rw [check, testedCode, faulty]
    refine ⟨.brokenExample e.name error :: reported, ?_, .cons ⟨error, faulty, rfl⟩ each⟩
    rw [sift, found, sifted]

theorem ofRecords_of_valid (valid : checkClassName options.className = none) (records : List Record) :
    ofRecords options records = (sift (Example.ofRecords records)).map fun (sound, diagnostics) =>
      { source := some (render options.className options.usings (methods options.comment sound))
        diagnostics } := by
  rw [ofRecords, valid]

/-- The text of a module is made of the examples that are accepted. -/
theorem source_of_valid (valid : checkClassName options.className = none) {records : List Record}
    {generated : Generated} (made : ofRecords options records = .ok generated) :
    generated.source =
      some (render options.className options.usings (methods options.comment (accepted records))) := by
  obtain ⟨_ | source, diagnostics⟩ := generated
  · rw [ofRecords_of_valid valid] at made
    cases sifted : sift (Example.ofRecords records) with
    | error cause => simp [sifted, Except.map] at made
    | ok found => simp [sifted, Except.map] at made
  · rw [source_eq made]

/-- A record whose examples get diagnostics only adds these among those of other records. -/
theorem ofRecords_between (valid : checkClassName options.className = none) {reported : List Diagnostic}
    (faults : sift (Example.ofRecord record) = .ok ([], reported)) (before after : List Record) :
    (∀ cause, ofRecords options (before ++ after) = .error cause →
      ofRecords options (before ++ record :: after) = .error cause) ∧
    ∀ generated, ofRecords options (before ++ after) = .ok generated →
      ∃ first second, ofRecords options before = .ok first ∧ ofRecords options after = .ok second ∧
        generated.diagnostics = first.diagnostics ++ second.diagnostics ∧
        ofRecords options (before ++ record :: after) =
          .ok { source := generated.source
                diagnostics := first.diagnostics ++ reported ++ second.diagnostics } := by
  have without : Example.ofRecords (before ++ after) =
      Example.ofRecords before ++ Example.ofRecords after := List.flatMap_append
  have inserted : Example.ofRecords (before ++ record :: after) =
      Example.ofRecords before ++ (Example.ofRecord record ++ Example.ofRecords after) := by
    rw [Example.ofRecords, List.flatMap_append, List.flatMap_cons]
    rfl
  simp only [ofRecords_of_valid valid, without, inserted, sift_append, faults]
  generalize sift (Example.ofRecords before) = first
  generalize sift (Example.ofRecords after) = second
  constructor
  · intro cause ended
    rcases first with _ | ⟨sound, above⟩
    · exact ended
    · rcases second with _ | ⟨sound', below⟩
      · exact ended
      · cases ended
  · intro generated made
    rcases first with _ | ⟨sound, above⟩
    · cases made
    · rcases second with _ | ⟨sound', below⟩
      · cases made
      · cases made
        refine ⟨_, _, rfl, rfl, rfl, ?_⟩
        simp [Except.map]

/-- For a valid name of the class, a record of which no marked block compiles makes one diagnostic for each of
these blocks. Among other records it leaves the text of the module as it is, and its diagnostics come
between those of the records before it and those of the records after it; an error that ends the
generation stays the same. So the text depends on nothing but the names and codes of the accepted examples. -/
theorem ofRecords_insert (valid : checkClassName options.className = none) (broken : IsBroken record) :
    (∃ reported,
      Forall₂ Reports (Example.ofRecord record) reported ∧
      (Example.ofRecord record).map (·.code) = (Example.markedBlocks record).map (·.text) ∧
      ∀ before after,
        (∀ cause, ofRecords options (before ++ after) = .error cause →
          ofRecords options (before ++ record :: after) = .error cause) ∧
        ∀ generated, ofRecords options (before ++ after) = .ok generated →
          ∃ first second, ofRecords options before = .ok first ∧ ofRecords options after = .ok second ∧
            generated.diagnostics = first.diagnostics ++ second.diagnostics ∧
            ofRecords options (before ++ record :: after) =
              .ok { source := generated.source
                    diagnostics := first.diagnostics ++ reported ++ second.diagnostics }) ∧
    ∀ records records' generated generated', ofRecords options records = .ok generated →
      ofRecords options records' = .ok generated' →
      (accepted records).map Example.content = (accepted records').map Example.content →
      generated.source = generated'.source := by
  obtain ⟨reported, faults, each⟩ := sift_of_isFaulty fun e => broken.isFaulty (e := e)
  refine ⟨⟨reported, each, Example.map_code_ofRecord record, ofRecords_between valid faults⟩, ?_⟩
  intro records records' generated generated' made made' same
  rw [source_of_valid valid made, source_of_valid valid made', methods_congr options.comment same]

end

/-- A section of three blocks, of which the marked ones do not compile; the name is the one of a sound example. -/
def brokenMember : Record :=
  { name := "M:Demo.Broken".toList
    examples := [
      { name := some "good".toList
        blocks := [⟨"\n  1 +\n".toList, true⟩, ⟨"pass".toList, false⟩, ⟨"x = ".toList, true⟩] }] }

theorem brokenMember_insert :
    checkClassName "TestDocs".toList = none ∧ IsBroken brokenMember ∧
    ∃ reported generated first second,
      reported.length = 2 ∧
      ofRecords ⟨"TestDocs".toList, [], ['#']⟩ ([codeMember "1 +".toList] ++ [codeMember "pass".toList]) =
        .ok generated ∧
      ofRecords ⟨"TestDocs".toList, [], ['#']⟩ [codeMember "1 +".toList] = .ok first ∧
      ofRecords ⟨"TestDocs".toList, [], ['#']⟩ [codeMember "pass".toList] = .ok second ∧
      ofRecords ⟨"TestDocs".toList, [], ['#']⟩
          ([codeMember "1 +".toList] ++ brokenMember :: [codeMember "pass".toList]) =
        .ok { source := generated.source
              diagnostics := first.diagnostics ++ reported ++ second.diagnostics } := by
  have valid : checkClassName "TestDocs".toList = none := by decide +kernel
  have broken : IsBroken brokenMember := by
    have faults : ∀ block ∈ Example.markedBlocks brokenMember,
        '\x00' ∉ trim isBlank (dedentCode block.text) ∧
          ¬ Compiles (trim isBlank (dedentCode block.text)) := by decide +kernel
    exact fun block inside => exists_isFaulty_iff.mpr (faults block inside)
  have noNul : ∀ e ∈ Example.ofRecords ([codeMember "1 +".toList] ++ [codeMember "pass".toList]),
      '\x00' ∉ e.code := by decide +kernel
  obtain ⟨⟨reported, each, codes, insert⟩, -⟩ :=
    @ofRecords_insert ⟨"TestDocs".toList, [], ['#']⟩ brokenMember _ valid broken
  have generated := ofRecords_eq ⟨"TestDocs".toList, [], ['#']⟩ valid noNul
  obtain ⟨first, second, above, below, -, inserted⟩ := (insert _ _).2 _ generated
  refine ⟨valid, broken, reported, _, first, second, ?_, generated, above, below, inserted⟩
  rw [← each.length_eq]
  decide +kernel

end TestModule

end DocExamples
