import DocExamples.Proofs.Example.MethodName
import DocExamples.Proofs.Script.Names
import DocExamples.Proofs.TestModule.Members
import DocExamples.Proofs.Text.Class

namespace DocExamples.TestModule

open Text Script Script.Lexing Documentation MethodName MethodParts

variable {name : Text} {taken : List Text}

/-- The line with which a method starts, without its indentation. -/
def definitionLine (name : Text) : Text := "def ".toList ++ name ++ "(self):".toList

/-- The tokens of the line on which a method of a name is defined. -/
def definitionTokens (name : Text) : List Token :=
  [word "def", .name name, mark "(", word "self", mark ")", mark ":", .newline, .stop]

/-- The line on which a method is defined is read to its end, as the start of a definition. -/
def IsDefinition (name : Text) : Prop :=
  (Lexing.ofText (definitionLine name)).finish = .complete ∧
    (Lexing.ofText (definitionLine name)).tokens = definitionTokens name

/-- A name that tests are collected by, made of word characters. -/
structure IsTestName (name : Text) : Prop where
  start : "test_".toList <+: name
  isWord : name.all isWord = true

theorem IsTestName.inName (h : IsTestName name) : name.all inName = true := by
  rw [List.all_eq_true]
  exact fun c mem => inName_of_isWord (List.all_eq_true.mp h.isWord c mem)

theorem IsTestName.head? (h : IsTestName name) : name.head? = some 't' := by
  obtain ⟨tail, rfl⟩ := h.start
  rfl

theorem IsTestName.ne_nil (h : IsTestName name) : name ≠ [] := by
  rintro rfl
  cases h.head?

theorem IsTestName.not_keyword (h : IsTestName name) : name ∉ keywords := by
  have none : keywords.any ("test_".toList.isPrefixOf ·) = false := by decide +kernel
  intro mem
  have own := List.any_eq_false.mp none name mem
  exact own (List.isPrefixOf_iff_prefix.mpr h.start)

/-- What follows the name of a method on its line. -/
def parameters : Text := "(self):\n".toList

theorem getLast?_parameters (before : Text) : (before ++ parameters).getLast? = some '\n' := by
  rw [List.getLast?_append]
  rfl

theorem ofText_definitionLine (name : Text) :
    Lexing.ofText (definitionLine name) = Lexing.ofText ("def ".toList ++ name ++ parameters) := by
  have last : (definitionLine name).getLast? = some ':' := by
    rw [definitionLine, List.getLast?_append]
    rfl
  have same : definitionLine name ++ ['\n'] = "def ".toList ++ name ++ parameters := by
    rw [definitionLine, List.append_assoc]
    rfl
  rw [Lexing.ofText, Lexing.ofText, last, getLast?_parameters, if_neg (by decide), if_pos rfl, same]

/-- What a step over the name of a method comes to. -/
theorem step_name (h : IsTestName name) (rest : Text) :
    Lexing.step false start (name ++ (parameters ++ rest)) =
      match misplaced? name with
      | none => .goes [⟨.name name, 1, 0⟩] false start (parameters ++ rest)
      | some c => .ends ⟨[], .raised ⟨characterFault c, 1⟩⟩ := by
  have first : name.head?.any startsName = true := by rw [h.head?]; rfl
  exact innerStep_name start first h.inName rfl rfl

/-- An identifier is read as the name of a definition. -/
theorem isDefinition_of_identifier (h : IsTestName name) (sound : misplaced? name = none) :
    IsDefinition name := by
  have lead : Covers true start "def ".toList [word "def"] [] false start :=
    Covers.of_walk 3 fun _ => rfl
  have after : Covers false start parameters
      [mark "(", word "self", mark ")", mark ":", .newline] [] true ⟨2, [⟨0, 0⟩], [], Lexing.noLead⟩ :=
    Covers.of_walk 5 fun _ => rfl
  have named : Covers false start (name ++ parameters)
      (.name name :: [mark "(", word "self", mark ")", mark ":", .newline]) []
      true ⟨2, [⟨0, 0⟩], [], Lexing.noLead⟩ := by
    refine ⟨fun left => ?_⟩
    have move := step_name h
    simp only [sound] at move
    rw [List.append_assoc]
    exact .passes (move _) rfl (after.spells left)
  have ends : Lexing.step true ⟨2, [⟨0, 0⟩], [], Lexing.noLead⟩ [] = .ends ⟨[⟨.stop, 1, 0⟩], .complete⟩ := rfl
  have read := (lead.append named).spells (.ends ends rfl)
  rw [List.append_nil, ← List.append_assoc] at read
  rw [IsDefinition, ofText_definitionLine]
  exact read.ofText (getLast?_parameters _)

/-- A character that is misplaced in a name is the fault of the line. -/
theorem finish_of_misplaced (h : IsTestName name) {c : Char} (misplaced : misplaced? name = some c) :
    (Lexing.ofText (definitionLine name)).finish = .raised ⟨characterFault c, 1⟩ := by
  have walked : walk 3 true start ("def ".toList ++ name ++ parameters) =
      some ([word "def"], false, start, name ++ parameters) := rfl
  have move := step_name h []
  rw [List.append_nil, misplaced] at move
  obtain ⟨fuel, enough⟩ :
      ∃ fuel, 2 * ("def ".toList ++ name ++ parameters).length + 2 = fuel + 1 + 3 := by
    refine ⟨2 * (name ++ parameters).length + 6, ?_⟩
    have four : "def ".toList.length = 4 := rfl
    rw [List.append_assoc, List.length_append, four]
    omega
  rw [ofText_definitionLine, Lexing.ofText, if_pos (getLast?_parameters _), enough]
  refine (finish_read_of_walk walked).trans ?_
  rw [Lexing.read, move]

theorem isDefinition_iff (h : IsTestName name) : IsDefinition name ↔ isIdentifier name = true := by
  rw [isIdentifier_iff_misplaced? h.ne_nil]
  cases misplaced : misplaced? name with
  | none => simp [isDefinition_of_identifier h misplaced]
  | some c => simp [IsDefinition, finish_of_misplaced h misplaced]

theorem all_continuesIdentifier_suffix (n : Nat) : (suffix n).all continuesIdentifier = true := by
  rw [List.all_eq_true]
  intro c mem
  rcases List.mem_cons.mp mem with rfl | digit
  · rfl
  · simp [continuesIdentifier, isDigit_of_mem_ofNat digit]

/-- A free name is an identifier if the name is for which it stands. -/
theorem isIdentifier_freeName (taken : List Text) (filled : name ≠ []) :
    isIdentifier (freeName taken name) = isIdentifier name := by
  rcases freeName_cases taken name with ⟨same, -⟩ | ⟨-, n, same, -⟩
  · rw [same]
  · rw [same, suffixed_eq, isIdentifier_append filled, all_continuesIdentifier_suffix, Bool.and_true]

theorem collectable_ne_nil (name : Text) : collectable name ≠ [] := by
  rw [collectable_eq]
  simp

theorem isTestName_freeName (taken : List Text) (name : Text) :
    IsTestName (freeName taken (collectable name)) := by
  obtain ⟨tail, same, -⟩ := freeName_eq_append taken (collectable name)
  refine ⟨?_, all_isWord_methodName taken name⟩
  rw [same, collectable_eq, List.append_assoc]
  exact List.prefix_append _ _

/-- What no identifier may hold in the name of a method was a word character of the display name. -/
theorem mem_of_mem_freeName {c : Char} (mem : c ∈ freeName taken (collectable name))
    (stops : continuesIdentifier c = false) : c ∈ name := by
  have continued {text : Text} (all : text.all continuesIdentifier = true) : c ∉ text := by
    intro inside
    rw [List.all_eq_true.mp all c inside] at stops
    cases stops
  have spelled : c ∈ name.map spell := by
    rcases freeName_cases taken (collectable name) with ⟨same, -⟩ | ⟨-, n, same, -⟩
    · rw [same, collectable_eq] at mem
      exact (List.mem_append.mp mem).resolve_left (continued rfl)
    · rw [same, suffixed_eq, collectable_eq, List.append_assoc] at mem
      have after := (List.mem_append.mp mem).resolve_left (continued rfl)
      exact (List.mem_append.mp after).resolve_right (continued (all_continuesIdentifier_suffix n))
  obtain ⟨d, inside, rfl⟩ := List.mem_map.mp spelled
  have kept : spell d = d := by
    by_contra changed
    rcases spell_cases d with same | same
    · exact changed same
    · rw [same] at stops
      cases stops
  rwa [kept]

/-- The method of an example stands under a name that tests are collected by. Its first line is read as a
definition exactly when the name of the example is nameable, and otherwise up to a character of that name. -/
structure Heads (e : Example) (next : Text × Text) : Prop where
  defines : Defines next.1 next.2
  isTestName : IsTestName next.1
  notKeyword : next.1 ∉ keywords
  isDefinition_iff : IsDefinition next.1 ↔ IsNameable e.name
  fault : ¬ IsNameable e.name → ∃ c ∈ e.name, isWord c = true ∧ continuesIdentifier c = false ∧
    (Lexing.ofText (definitionLine next.1)).finish = .raised ⟨.invalidCharacter c, 1⟩

theorem heads_freeName {e : Example} {text : Text}
    (defines : Defines (freeName taken (collectable e.name)) text) :
    Heads e (freeName taken (collectable e.name), text) := by
  have isTestName := isTestName_freeName taken e.name
  have identifier : isIdentifier (freeName taken (collectable e.name)) = true ↔ IsNameable e.name := by
    rw [isIdentifier_freeName taken (collectable_ne_nil e.name), isIdentifier_collectable_iff]
  refine ⟨defines, isTestName, isTestName.not_keyword, (isDefinition_iff isTestName).trans identifier, ?_⟩
  intro unnameable
  have faulty : misplaced? (freeName taken (collectable e.name)) ≠ none := fun sound =>
    unnameable (identifier.mp ((isIdentifier_iff_misplaced? isTestName.ne_nil).mpr sound))
  obtain ⟨c, misplaced⟩ := Option.ne_none_iff_exists'.mp faulty
  have start : (freeName taken (collectable e.name)).head?.any startsIdentifier = true := by
    rw [isTestName.head?]
    rfl
  obtain ⟨inside, stops⟩ := continuesIdentifier_of_misplaced? start misplaced
  have word : isWord c = true := List.all_eq_true.mp isTestName.isWord c inside
  have invalid : characterFault c = .invalidCharacter c := if_pos (isPrintable_of_isWord word)
  refine ⟨c, mem_of_mem_freeName inside stops, word, stops, ?_⟩
  rw [← invalid]
  exact finish_of_misplaced isTestName misplaced

theorem forall₂_heads (comment : Text) (taken : List Text) (es : List Example) :
    List.Forall₂ Heads es (definitionsFrom comment taken es) :=
  forall₂_definitionsFrom (fun taken e =>
    heads_freeName ⟨readingOf comment (all_isWord_methodName taken e.name) e, rfl⟩) taken es

/-- A name that is made of a display name starts as the names of tests do, and is an identifier exactly when
the display name is nameable. The methods of a module are headed by such names, so that exactly the
nameable examples have a first line that is read as a definition. -/
theorem ofRecords_definitions [Language] {options : Options} {records : List Record} {source : Text}
    {diagnostics : List Diagnostic}
    (generated : ofRecords options records = .ok { source := some source, diagnostics }) :
    (∀ name, "test_".toList <+: collectable name ∧
      (isIdentifier (collectable name) = true ↔ IsNameable name)) ∧
    ∃ definitions : List (Text × Text),
      source = render options.className options.usings (definitions.map Prod.snd) ∧
      List.Forall₂ Heads (accepted records) definitions := by
  refine ⟨fun name => ⟨?_, isIdentifier_collectable_iff name⟩,
    definitionsFrom options.comment [] (accepted records), ?_, forall₂_heads _ _ _⟩
  · rw [collectable_eq]
    exact List.prefix_append _ _
  · rw [map_snd_definitionsFrom]
    exact source_eq generated

theorem namedMember_definitions : ∃ source,
    ofRecords ⟨"TestDocs".toList, [], ['#']⟩ [namedMember ["a b".toList, "½".toList]] =
      .ok { source := some source, diagnostics := [] } ∧
    ((isIdentifier (collectable "a b".toList) = true ↔ IsNameable "a b".toList) ∧
      (isIdentifier (collectable "½".toList) = true ↔ IsNameable "½".toList)) ∧
    ∃ definitions : List (Text × Text),
      source = render "TestDocs".toList [] (definitions.map Prod.snd) ∧
      List.Forall₂ Heads (accepted [namedMember ["a b".toList, "½".toList]]) definitions := by
  have valid : checkClassName "TestDocs".toList = none := by decide +kernel
  have noNul : ∀ e ∈ Example.ofRecords [namedMember ["a b".toList, "½".toList]], '\x00' ∉ e.code := by
    decide +kernel
  have clean : (Example.ofRecords [namedMember ["a b".toList, "½".toList]]).filterMap diagnosis? = [] := by
    decide +kernel
  obtain ⟨source, generated⟩ := exists_ofRecords ⟨"TestDocs".toList, [], ['#']⟩ valid noNul clean
  obtain ⟨names, heads⟩ := ofRecords_definitions generated
  exact ⟨source, generated, ⟨(names _).2, (names _).2⟩, heads⟩

/-- A superscript digit is a word character, so that the name of a method keeps it, and the line that
should define the method is no definition. -/
theorem superscriptMember_undefined : ∃ source,
    ofRecords ⟨"TestDocs".toList, [], ['#']⟩ [namedMember ["²".toList]] =
      .ok { source := some source, diagnostics := [] } ∧
    isIdentifier (collectable "²".toList) = false ∧
    source = render "TestDocs".toList [] (methods ['#'] (accepted [namedMember ["²".toList]])) ∧
    methodNames (accepted [namedMember ["²".toList]]) = ["test_²".toList] ∧
    (Lexing.ofText (definitionLine "test_²".toList)).finish = .raised ⟨.invalidCharacter '²', 1⟩ := by
  have valid : checkClassName "TestDocs".toList = none := by decide +kernel
  have noNul : ∀ e ∈ Example.ofRecords [namedMember ["²".toList]], '\x00' ∉ e.code := by decide +kernel
  have clean : (Example.ofRecords [namedMember ["²".toList]]).filterMap diagnosis? = [] := by
    decide +kernel
  obtain ⟨source, generated⟩ := exists_ofRecords ⟨"TestDocs".toList, [], ['#']⟩ valid noNul clean
  have unnamed : isIdentifier (collectable "²".toList) = false := by decide +kernel
  have names : methodNames (accepted [namedMember ["²".toList]]) = ["test_²".toList] := by decide +kernel
  have fault : (Lexing.ofText (definitionLine "test_²".toList)).finish =
      .raised ⟨.invalidCharacter '²', 1⟩ := by decide +kernel
  have text := source_eq generated
  exact ⟨source, generated, unnamed, text, names, fault⟩

end DocExamples.TestModule
