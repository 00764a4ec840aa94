import DocExamples.Proofs.Example.Acceptance
import DocExamples.Proofs.Example.MethodName
import DocExamples.Proofs.TestModule.Checking
import DocExamples.Proofs.TestModule.Method
import DocExamples.Proofs.TestModule.Names

namespace DocExamples

open Text Script Script.Lexing Documentation

theorem verify_ok_iff (expected : List Text) (stdout stderr : Text) :
    verify expected stdout stderr = .ok () ↔
      stderr = [] ∧ comparableLines (splitLines stdout) = comparableLines expected := by
  by_cases silent : stderr = []
  · rw [silent, verify_eq_ok_iff]
    simp
  · simp [verify, silent]

namespace TestModule

/-- A line of a method, which the indentation of its class moves. -/
structure IsRow (line : Text) : Prop where
  inLine : InLine line
  visible : ∃ c ∈ line, isBlank c = false

variable {line lead tail name comment : Text} {e : Example}

theorem IsRow.after (h : IsRow line) (hl : InLine lead) : IsRow (lead ++ line) := by
  obtain ⟨c, mem, visible⟩ := h.visible
  exact ⟨hl.append h.inLine, c, List.mem_append_right lead mem, visible⟩

theorem IsRow.before (h : IsRow line) (ht : InLine tail) : IsRow (line ++ tail) := by
  obtain ⟨c, mem, visible⟩ := h.visible
  exact ⟨h.inLine.append ht, c, List.mem_append_left tail mem, visible⟩

theorem isRow_quote (t : Text) : IsRow (quote t) := by
  refine ⟨quote_inLine t, quoteMark t, List.mem_cons_self, ?_⟩
  rcases isQuote_iff.mp (isQuote_quoteMark t) with same | same <;> rw [same] <;> rfl

theorem inLine_step : InLine step := by decide

theorem inLine_name (h : name.all isWord = true) : InLine name :=
  InLine.of_all h (by decide +kernel)

theorem isRow_of_mem_codeAssignment {code row : Text} (h : row ∈ codeAssignment code) : IsRow row := by
  rw [codeAssignment] at h
  split at h
  · obtain rfl := List.mem_singleton.mp h
    exact (isRow_quote code).after (by decide)
  · simp only [List.mem_append, List.mem_cons, List.mem_map, List.not_mem_nil, or_false] at h
    rcases h with (rfl | ⟨line, -, rfl⟩) | rfl
    · exact ⟨by decide, 'c', by decide, rfl⟩
    · exact (isRow_quote line).after inLine_step
    · exact ⟨by decide, ')', by decide, rfl⟩

/-- The lines of a method above its empty line. -/
def aboveLines (name : Text) (e : Example) : List Text :=
  [("def ".toList ++ name ++ "(self):".toList), step ++ quote e.name] ++
    (codeAssignment (testedCode e)).map (step ++ ·) ++
    [step ++ "with ConsoleRedirector() as redirector:".toList,
      step ++ step ++ "ExecutionContext(code, filename=".toList ++
        quote ("<doctest ".toList ++ e.name ++ ['>']) ++ ").run(dict(globals()))".toList]

/-- The lines of a method below its empty line. -/
def belowLines (comment : Text) (e : Example) : List Text :=
  [step ++ "assert redirector.captured_err == \"\"".toList,
    step ++ "assert comparable_lines(split_lines(redirector.captured_out)) == [".toList] ++
    (testedLines comment e).map (fun line => step ++ step ++ quote line ++ [',']) ++
    [step ++ [']']]

theorem methodLines_eq (comment name : Text) (e : Example) :
    methodLines comment name e = aboveLines name e ++ [] :: belowLines comment e := by
  simp only [methodLines, aboveLines, belowLines, List.append_assoc, List.cons_append,
    List.nil_append]

theorem isRow_of_mem_aboveLines (h : name.all isWord = true) (mem : line ∈ aboveLines name e) :
    IsRow line := by
  simp only [aboveLines, List.mem_append, List.mem_cons, List.mem_map, List.not_mem_nil,
    or_false] at mem
  rcases mem with ((rfl | rfl) | ⟨row, code, rfl⟩) | rfl | rfl
  · have first : IsRow "def ".toList := ⟨by decide, 'd', by decide, rfl⟩
    exact (first.before (inLine_name h)).before (by decide)
  · exact (isRow_quote e.name).after inLine_step
  · exact (isRow_of_mem_codeAssignment code).after inLine_step
  · have row : IsRow "with ConsoleRedirector() as redirector:".toList :=
      ⟨by decide, 'w', by decide, rfl⟩
    exact row.after inLine_step
  · exact ((isRow_quote _).after (by decide)).before (by decide)

theorem isRow_of_mem_belowLines (mem : line ∈ belowLines comment e) : IsRow line := by
  simp only [belowLines, List.mem_append, List.mem_cons, List.mem_map, List.not_mem_nil,
    or_false] at mem
  rcases mem with ((rfl | rfl) | ⟨expected, -, rfl⟩) | rfl
  · exact ⟨by decide, 'a', by decide, rfl⟩
  · exact ⟨by decide, 'a', by decide, rfl⟩
  · exact ((isRow_quote expected).after (by decide)).before (by decide)
  · exact ⟨by decide, ']', by decide, rfl⟩

theorem map_leadLine {lines : List Text} (h : ∀ line ∈ lines, IsRow line) :
    lines.map (leadLine lead) = lines.map (lead ++ ·) := by
  apply List.map_congr_left
  intro line mem
  obtain ⟨c, inside, visible⟩ := (h line mem).visible
  exact leadLine_of_mem inside visible

/-- A method is its first line and the lines of its body, indented below it. -/
theorem method_eq (comment : Text) (h : name.all isWord = true) (e : Example) :
    method comment name e ++ ['\n'] =
      step ++ ("def ".toList ++ name ++ "(self):".toList) ++
        '\n' :: printed (bodyLines (partsOf comment e) (testedCode e)) := by
  have above : ∀ line ∈ aboveLines name e, IsRow line := fun _ => isRow_of_mem_aboveLines h
  have below : ∀ line ∈ belowLines comment e, IsRow line := fun _ => isRow_of_mem_belowLines
  have inLine : ∀ line ∈ methodLines comment name e, InLine line := by
    intro line mem
    rw [methodLines_eq, List.mem_append, List.mem_cons] at mem
    rcases mem with mem | rfl | mem
    · exact (above line mem).inLine
    · exact fun c hc => absurd hc List.not_mem_nil
    · exact (below line mem).inLine
  have rows : (methodLines comment name e).map (leadLine step) =
      (aboveLines name e).map (step ++ ·) ++ [] :: (belowLines comment e).map (step ++ ·) := by
    rw [methodLines_eq, List.map_append, List.map_cons, map_leadLine above, map_leadLine below]
    rfl
  have filled : (methodLines comment name e).map (leadLine step) ≠ [] := by
    rw [rows]
    simp
  rw [method, indentLines_joinWith step inLine, joinWith_newline filled, rows]
  simp only [aboveLines, belowLines, bodyLines, partsOf, runLines, assertLines, printed,
    List.map_append, List.map_cons, List.map_nil, List.map_map, Function.comp_def,
    List.flatMap_append, List.flatMap_cons, List.flatMap_nil, List.append_assoc, List.cons_append,
    List.nil_append, List.append_nil]

/-- A method that has been read: its name, the tokens of its body, and its literals as they are written. -/
structure Reading (text : Text) where
  name : Text
  body : Text
  parts : MethodParts
  literals : List Text
  text_eq : text ++ ['\n'] =
    step ++ ("def ".toList ++ name ++ "(self):".toList) ++ '\n' :: body
  isWord : name.all Text.isWord = true
  complete : (Lexing.ofText body).finish = .complete
  tokens_eq : (Lexing.ofText body).tokens = parts.tokens
  spells : Spells true start body parts.tokens literals

/-- What is read in the method of an example. -/
def readingOf (comment : Text) (h : name.all Text.isWord = true) (e : Example) :
    Reading (method comment name e) where
  name := name
  body := printed (bodyLines (partsOf comment e) (testedCode e))
  parts := partsOf comment e
  literals := literals (partsOf comment e)
  text_eq := method_eq comment h e
  isWord := h
  complete := ((spells_bodyLines comment e).ofText (getLast?_printed (by simp [bodyLines]))).1
  tokens_eq := ((spells_bodyLines comment e).ofText (getLast?_printed (by simp [bodyLines]))).2
  spells := spells_bodyLines comment e

/-- A method that says of an example what a doctest of it verifies: no literal goes beyond its line, the
literals are the texts of the example, and the assertions accept what is verified. -/
def Tells (comment : Text) (e : Example) (text : Text) : Prop :=
  ∃ reading : Reading text,
    (∀ literal ∈ reading.literals, InLine literal) ∧
    reading.parts.docstring = e.name ∧
    reading.parts.code.flatten = trim isBlank (dedentCode e.code) ∧
    Reader.ReadAs reading.parts.code (trim isBlank (dedentCode e.code)) ∧
    reading.parts.file = "<doctest ".toList ++ e.name ++ ['>'] ∧
    reading.parts.lines = comparableLines (Expectation.read comment e.code).lines ∧
    ∀ (preamble : Context) (stdout stderr : Text), reading.parts.Accepts stdout stderr ↔
      verify (DocTest.make e.name e.code preamble comment).expected stdout stderr = .ok ()

theorem tells_method (comment : Text) (h : name.all Text.isWord = true) (e : Example) :
    Tells comment e (method comment name e) := by
  have joined : (literalsOf (testedCode e)).flatten = testedCode e := flatten_literalsOf _
  have readAs := Reader.readAs_flatten (literalsOf_ne_nil (testedCode e))
  rw [joined] at readAs
  refine ⟨readingOf comment h e, fun _ => inLine_of_mem_literals, rfl, joined, readAs, rfl, rfl, ?_⟩
  intro preamble stdout stderr
  rw [verify_ok_iff]
  rfl

theorem all_isWord_ofNat (n : Nat) : (ofNat n).all Text.isWord = true := by
  rw [List.all_eq_true]
  intro c mem
  have digit := isDigit_of_mem_ofNat mem
  simp [Text.isWord, Char.isAlphanum, digit]

theorem all_isWord_freeName (taken : List Text) (h : name.all Text.isWord = true) :
    (freeName taken name).all Text.isWord = true := by
  have numbered (n : Nat) : (suffixed name n).all Text.isWord = true := by
    have underscore : Text.isWord '_' = true := rfl
    rw [suffixed, List.all_append, List.all_cons, h, all_isWord_ofNat, underscore]
    rfl
  rcases freeName_cases taken name with ⟨same, -⟩ | ⟨-, n, same, -⟩
  · rwa [same]
  · rw [same]
    exact numbered n

theorem all_isWord_methodName (taken : List Text) (name : Text) :
    (freeName taken (MethodName.collectable name)).all Text.isWord = true :=
  all_isWord_freeName taken (MethodName.all_isWord_collectable name)

/-- The definitions of methods for examples, under names that are free besides those taken. -/
def definitionsFrom (comment : Text) (taken : List Text) (es : List Example) : List (Text × Text) :=
  let names := distinctNames taken (es.map (MethodName.collectable ·.name))
  names.zip (List.zipWith (method comment) names es)

theorem map_snd_definitionsFrom (comment : Text) (taken : List Text) (es : List Example) :
    (definitionsFrom comment taken es).map Prod.snd =
      List.zipWith (method comment) (distinctNames taken (es.map (MethodName.collectable ·.name))) es := by
  refine List.map_snd_zip ?_
  rw [List.length_zipWith]
  exact Nat.min_le_left _ _

/-- What the method of each example is, under whichever name is free for it, all of the methods are. The
induction is on the examples, with the names that the methods before them took. -/
theorem forall₂_definitionsFrom {comment : Text} {holds : Example → Text × Text → Prop}
    (each : ∀ taken e, holds e (freeName taken (MethodName.collectable e.name),
      method comment (freeName taken (MethodName.collectable e.name)) e))
    (taken : List Text) (es : List Example) :
    List.Forall₂ holds es (definitionsFrom comment taken es) := by
  induction es generalizing taken with
  | nil => exact .nil
  | cons e es ih => exact .cons (each taken e) (ih _)

/-- Each of the examples gets the method that says what a doctest verifies. -/
theorem tells_methods (comment : Text) (taken : List Text) (es : List Example) :
    List.Forall₂ (Tells comment) es
      (List.zipWith (method comment)
        (distinctNames taken (es.map (MethodName.collectable ·.name))) es) := by
  rw [← map_snd_definitionsFrom, List.forall₂_map_right_iff]
  exact forall₂_definitionsFrom
    (fun taken e => tells_method comment (all_isWord_methodName taken e.name) e) taken es

/-- The examples that are tested are those that are checked without a diagnostic. -/
theorem sift_sound [Language] {es sound : List Example} {diagnostics : List Diagnostic}
    (h : sift es = .ok (sound, diagnostics)) :
    sound = es.filter fun e => decide (check e = .ok none) := by
  induction es generalizing sound diagnostics with
  | nil =>
    cases h
    rfl
  | cons e es ih =>
    rw [sift] at h
    cases checked : check e with
    | error cause => simp [checked] at h
    | ok found =>
      cases sifted : sift es with
      | error cause => simp [checked, sifted] at h
      | ok others =>
        cases found with
        | none =>
          simp only [checked, sifted, Except.ok.injEq, Prod.mk.injEq] at h
          rw [← h.1, ih sifted]
          simp [checked]
        | some diagnostic =>
          simp only [checked, sifted, Except.ok.injEq, Prod.mk.injEq] at h
          rw [← h.1, ih sifted]
          simp [checked]

/-- A generated module has a method for each example without a diagnostic, and each says of its example
what a doctest verifies of it. -/
theorem ofRecords_tells [Language] {options : Options} {records : List Record} {source : Text}
    {diagnostics : List Diagnostic}
    (generated : ofRecords options records = .ok { source := some source, diagnostics }) :
    ∃ emitted : List Text,
      source = render options.className options.usings emitted ∧
      List.Forall₂ (Tells options.comment)
        ((Example.ofRecords records).filter fun e => decide (check e = .ok none)) emitted := by
  rw [ofRecords] at generated
  split at generated
  · cases generated
  · cases sifted : sift (Example.ofRecords records) with
    | error cause => simp [sifted, Except.map] at generated
    | ok found =>
      simp only [sifted, Except.map, Except.ok.injEq, Generated.mk.injEq, Option.some.injEq] at generated
      refine ⟨methods options.comment found.1, generated.1.symm, ?_⟩
      rw [← sift_sound sifted]
      exact tells_methods options.comment [] found.1

/-- An example with both quotes, backslashes and line boundaries in its name, its code and its output. -/
def separatedExample : Example :=
  { name := "it's \"\\\u2028".toList
    code := "\n    x = 1  # it's \"\\\u2028\n    print(x)\n    # Output:\n    # a\u2029'\"\n".toList
    record := "M:Demo.Separated".toList }

/-- The member that has this example. -/
def separatedMember : Record :=
  { name := separatedExample.record
    examples := [
      { name := some separatedExample.name
        blocks := [{ text := separatedExample.code, doctest := true }] }] }

theorem separatedMember_tells : ∃ source,
    ofRecords ⟨"TestDocs".toList, [], ['#']⟩ [separatedMember] =
      .ok { source := some source, diagnostics := [] } ∧
    ∃ emitted, source = render "TestDocs".toList [] emitted ∧
      List.Forall₂ (Tells ['#']) [separatedExample] emitted := by
  have valid : checkClassName "TestDocs".toList = none := by decide +kernel
  have noNul : ∀ e ∈ Example.ofRecords [separatedMember], '\x00' ∉ e.code := by decide +kernel
  have sound : (Example.ofRecords [separatedMember]).filter (fun e => decide (check e = .ok none)) =
      [separatedExample] := by decide +kernel
  have clean : (Example.ofRecords [separatedMember]).filterMap diagnosis? = [] := by decide +kernel
  obtain ⟨source, generated⟩ := exists_ofRecords ⟨"TestDocs".toList, [], ['#']⟩ valid noNul clean
  have tells := ofRecords_tells generated
  rw [sound] at tells
  exact ⟨source, generated, tells⟩

end TestModule

end DocExamples
