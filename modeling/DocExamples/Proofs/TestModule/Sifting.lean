import DocExamples.Proofs.TestModule.Definition

namespace DocExamples.TestModule

open Text Script Documentation

variable {comment : Text} {e : Example} {es : List Example}

theorem nul_mem_testedCode (h : '\x00' ∈ e.code) : '\x00' ∈ testedCode e :=
  mem_trim (by decide) (mem_dedentCode h (by decide) (by decide))

/-- The error that ends a generation. -/
def nulCause : Cause := ⟨.valueError, "source code string cannot contain null bytes".toList⟩

section

variable [Language]

/-- Examples in order, each of which has either the definition of its method or its diagnostic. -/
inductive Divided (comment : Text) : List Example → List (Text × Text) → List Diagnostic → Prop
  | nil : Divided comment [] [] []
  | method {e es next definitions diagnostics} (compiles : Language.Accepts (testedCode e))
      (defines : Defines next.1 next.2) (tells : Tells comment e next.2)
      (rest : Divided comment es definitions diagnostics) :
      Divided comment (e :: es) (next :: definitions) diagnostics
  | broken {e es error definitions diagnostics} (refused : Language.read (testedCode e) = .error error)
      (rest : Divided comment es definitions diagnostics) :
      Divided comment (e :: es) definitions (.brokenExample e.name error :: diagnostics)

theorem check_of_nul (h : '\x00' ∈ e.code) : check e = .error nulCause := by
  have file : "<doctest>".toList.contains '\x00' = false := by decide
  have nul : (testedCode e).contains '\x00' = true := List.contains_iff_mem.mpr (nul_mem_testedCode h)
  rw [check, compile, file, nul]
  rfl

/-- One NUL among the examples is enough for an error. -/
theorem sift_of_nul (h : ∃ e ∈ es, '\x00' ∈ e.code) : sift es = .error nulCause := by
  induction es with
  | nil => simp at h
  | cons e es ih =>
    by_cases here : '\x00' ∈ e.code
    · rw [sift, check_of_nul here]
    · obtain ⟨other, mem, nul⟩ := h
      have later : other ∈ es := by
        rcases List.mem_cons.mp mem with rfl | later
        · exact absurd nul here
        · exact later
      rw [sift, check_eq here, ih ⟨other, later, nul⟩]

theorem diagnosis?_eq_none_iff : diagnosis? e = none ↔ Language.Accepts (testedCode e) := by
  rw [diagnosis?, Language.Accepts]
  cases Language.read (testedCode e) <;> simp

/-- The induction is on the examples, with the names that the methods before them took. -/
theorem divided_definitionsFrom (comment : Text) (taken : List Text) (es : List Example) :
    Divided comment es (definitionsFrom comment taken (es.filter fun e => (diagnosis? e).isNone))
      (es.filterMap diagnosis?) := by
  induction es generalizing taken with
  | nil => exact .nil
  | cons e es ih =>
    cases read : Language.read (testedCode e) with
    | ok program =>
      have sound : diagnosis? e = none := by rw [diagnosis?, read]
      have word := all_isWord_methodName taken e.name
      rw [List.filter_cons_of_pos (by rw [sound]; rfl), List.filterMap_cons_none sound]
      exact .method (diagnosis?_eq_none_iff.mp sound) ⟨readingOf comment word e, rfl⟩
        (tells_method comment word e) (ih _)
    | error error =>
      have found : diagnosis? e = some (.brokenExample e.name error) := by rw [diagnosis?, read]
      rw [List.filter_cons_of_neg (by simp [found]), List.filterMap_cons_some found]
      exact .broken read (ih taken)

/-- For a valid name of the class a generation has a result exactly when no example holds a NUL. In each
result the examples are divided, in order, into those with a method, under a name of its own, and those with
a diagnostic. -/
theorem ofRecords_divides {options : Options} {records : List Record}
    (valid : checkClassName options.className = none) :
    ((∃ generated, ofRecords options records = .ok generated) ↔
      ∀ e ∈ Example.ofRecords records, '\x00' ∉ e.code) ∧
    (∀ generated, ofRecords options records = .ok generated →
      ∃ definitions : List (Text × Text),
        generated.source = some (render options.className options.usings (definitions.map Prod.snd)) ∧
        (definitions.map Prod.fst).Nodup ∧
        Divided options.comment (Example.ofRecords records) definitions generated.diagnostics) ∧
    ∀ cause, ofRecords options records = .error cause → cause = nulCause := by
  by_cases clean : ∀ e ∈ Example.ofRecords records, '\x00' ∉ e.code
  · have result := ofRecords_eq options valid clean
    refine ⟨⟨fun _ => clean, fun _ => ⟨_, result⟩⟩, ?_, ?_⟩
    · intro generated same
      cases result.symm.trans same
      refine ⟨_, ?_, ?_, divided_definitionsFrom options.comment [] _⟩
      · rw [map_snd_definitionsFrom]
        rfl
      · rw [map_fst_definitionsFrom]
        exact nodup_distinctNames [] _
    · intro cause same
      cases result.symm.trans same
  · have nul : ∃ e ∈ Example.ofRecords records, '\x00' ∈ e.code := by
      push Not at clean
      exact clean
    have result : ofRecords options records = .error nulCause := by
      rw [ofRecords, valid, sift_of_nul nul]
      rfl
    refine ⟨⟨?_, fun free => absurd free clean⟩, ?_, ?_⟩
    · rintro ⟨generated, same⟩
      cases result.symm.trans same
    · intro generated same
      cases result.symm.trans same
    · intro cause same
      cases result.symm.trans same
      rfl

end

/-- A member with a sound example and, after it, one with a code. -/
def codeMember (code : Text) : Record :=
  { name := "M:Demo.Code".toList
    examples := [("good".toList, "pass".toList), ("bad".toList, code)].map fun (name, text) =>
      { name := some name, blocks := [{ text, doctest := true }] } }

theorem codeMember_divides :
    checkClassName "TestDocs".toList = none ∧
    ∃ generated definitions,
      ofRecords ⟨"TestDocs".toList, [], ['#']⟩ [codeMember "1 +".toList] = .ok generated ∧
      generated.source = some (render "TestDocs".toList [] (definitions.map Prod.snd)) ∧
      (definitions.map Prod.fst).Nodup ∧
      Divided ['#'] (Example.ofRecords [codeMember "1 +".toList]) definitions generated.diagnostics := by
  have valid : checkClassName "TestDocs".toList = none := by decide +kernel
  have noNul : ∀ e ∈ Example.ofRecords [codeMember "1 +".toList], '\x00' ∉ e.code := by decide +kernel
  obtain ⟨result, divides, -⟩ :=
    @ofRecords_divides _ ⟨"TestDocs".toList, [], ['#']⟩ [codeMember "1 +".toList] valid
  obtain ⟨generated, same⟩ := result.mpr noNul
  obtain ⟨definitions, divided⟩ := divides generated same
  exact ⟨valid, generated, definitions, same, divided⟩

/-- A NUL in one example ends the generation, also of the sound example before it. -/
theorem codeMember_nul_fails :
    checkClassName "TestDocs".toList = none ∧
    ofRecords ⟨"TestDocs".toList, [], ['#']⟩ [codeMember ['\x00']] = .error nulCause ∧
    ¬ ∃ generated definitions,
      ofRecords ⟨"TestDocs".toList, [], ['#']⟩ [codeMember ['\x00']] = .ok generated ∧
      generated.source = some (render "TestDocs".toList [] (definitions.map Prod.snd)) ∧
      Divided ['#'] (Example.ofRecords [codeMember ['\x00']]) definitions generated.diagnostics := by
  have valid : checkClassName "TestDocs".toList = none := by decide +kernel
  have nul : ∃ e ∈ Example.ofRecords [codeMember ['\x00']], '\x00' ∈ e.code := by decide +kernel
  have fails : ofRecords ⟨"TestDocs".toList, [], ['#']⟩ [codeMember ['\x00']] = .error nulCause := by
    rw [ofRecords, valid, sift_of_nul nul]
    rfl
  refine ⟨valid, fails, ?_⟩
  rintro ⟨generated, definitions, same, -⟩
  cases fails.symm.trans same

end DocExamples.TestModule
