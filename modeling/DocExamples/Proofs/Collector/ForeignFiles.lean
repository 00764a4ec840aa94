import DocExamples.Proofs.Collector.Agreement

namespace DocExamples.Collector

open Text Files Documentation Markup

/-- Whether a session collects a file: one that it looks into, and that looks like documentation. -/
def isCollected (tree : Tree) (options : Options) (path : Path) : Except Failure Bool :=
  if !options.enabled || path.suffix ≠ ".xml".toList then .ok false else looksLikeDocumentation tree path

/-- A file that a session looks into: it is asked to, and the file is named as XML. -/
structure IsOffered (options : Options) (path : Path) : Prop where
  enabled : options.enabled = true
  suffix : path.suffix = ".xml".toList

/-- Content that can be looked into: it is UTF-8, or a byte order mark cut short, and its text is a document. -/
structure IsReadable (bytes : Bytes) : Prop where
  decoded : isCutMark bytes = true ∨ ∃ text, Utf8.decode bytes = .ok text
  accepted : ∀ text, decodeFile bytes = .ok text → Content.ofText? text ≠ none

/-- How a session fails on content: by a byte that is not of UTF-8, or by the fault of a document that is found
in its text, which is a marked section that is rejected or a number with too many digits. -/
inductive FailsOn (bytes : Bytes) : Failure → Prop
  | undecodable {error : Utf8.DecodeError} (found : decodeFile bytes = .error error) :
    FailsOn bytes (.load (.undecodable error))
  | faulty {text : Text} {fault : Fault} (decoded : decodeFile bytes = .ok text)
    (found : Content.ofText text = .error fault) (isIn : fault.IsFoundIn text) :
    FailsOn bytes (.load (.unparsed (.ofFault fault)))

variable {tree : Tree} {path : Path} {bytes : Bytes} {text : Text} {content : Content} {options : Options}
  {configuration : Configuration} {failure : Failure}

theorem isReadable_iff : IsReadable bytes ↔
    ∃ text content, decodeFile bytes = .ok text ∧ Content.ofText? text = some content := by
  constructor
  · rintro ⟨decoded, accepted⟩
    obtain ⟨text, read⟩ := exists_decodeFile_iff.mpr decoded
    obtain ⟨content, parsed⟩ := Option.ne_none_iff_exists'.mp (accepted text read)
    exact ⟨text, content, read, parsed⟩
  · rintro ⟨text, content, read, parsed⟩
    refine ⟨exists_decodeFile_iff.mp ⟨text, read⟩, fun other same => ?_⟩
    obtain rfl := Except.ok.inj (read.symm.trans same)
    simp [parsed]

theorem FailsOn.not_isReadable (fails : FailsOn bytes failure) : ¬ IsReadable bytes := by
  rw [isReadable_iff]
  rintro ⟨text, content, read, parsed⟩
  cases fails with
  | undecodable found => cases found.symm.trans read
  | faulty decoded found =>
    obtain rfl := Except.ok.inj (decoded.symm.trans read)
    cases found.symm.trans (Effects.eq_ok_of_toOption parsed)

/-- Content is readable and has a `doc` element or none, or a session fails on it. -/
theorem looksLikeDocumentation_cases (stored : tree.read path = .ok bytes) :
    (∃ text content, decodeFile bytes = .ok text ∧ Content.ofText? text = some content ∧
      looksLikeDocumentation tree path = .ok (hasDoc content)) ∨
    ∃ failure, FailsOn bytes failure ∧ looksLikeDocumentation tree path = .error failure := by
  cases read : decodeFile bytes with
  | error error =>
    refine .inr ⟨_, .undecodable read, ?_⟩
    rw [looksLikeDocumentation, readText_of_read stored, read]
    rfl
  | ok text =>
    cases parsed : Content.ofText text with
    | error fault =>
      refine .inr ⟨_, .faulty read parsed (Token.isFoundIn_of_ofText (Effects.eq_error_of_map parsed)), ?_⟩
      rw [looksLikeDocumentation, readText_of_read stored, read]
      dsimp only [Except.mapError]
      rw [isDocumentation, readTree, parsed]
      rfl
    | ok content =>
      have parsed : Content.ofText? text = some content := by rw [Content.ofText?, parsed]; rfl
      exact .inl ⟨text, content, rfl, parsed, looksLikeDocumentation_eq stored read parsed⟩

/-- A file that a session does not look into is passed over. -/
theorem passes_over_iff :
    (!options.enabled || path.suffix ≠ ".xml".toList) = true ↔ ¬ IsOffered options path := by
  have offered : IsOffered options path ↔ options.enabled = true ∧ path.suffix = ".xml".toList :=
    ⟨fun h => ⟨h.enabled, h.suffix⟩, fun h => ⟨h.1, h.2⟩⟩
  rw [offered]
  cases options.enabled <;> simp

theorem isCollected_of_offered (offered : IsOffered options path) :
    isCollected tree options path = looksLikeDocumentation tree path :=
  if_neg fun passed => passes_over_iff.mp passed offered

theorem isCollected_of_not_offered (other : ¬ IsOffered options path) :
    isCollected tree options path = .ok false := if_pos (passes_over_iff.mpr other)

theorem exists_answer_iff (stored : tree.read path = .ok bytes) :
    (∃ answer, isCollected tree options path = .ok answer) ↔ (IsOffered options path → IsReadable bytes) := by
  by_cases offered : IsOffered options path
  · rw [isCollected_of_offered offered]
    rcases looksLikeDocumentation_cases stored with ⟨text, content, read, parsed, looks⟩ | ⟨failure, fails, looks⟩
    · have readable := isReadable_iff.mpr ⟨text, content, read, parsed⟩
      simp [looks, readable]
    · simp [looks, offered, fails.not_isReadable]
  · simp [isCollected_of_not_offered offered, offered]

theorem failsOn_of_isCollected (stored : tree.read path = .ok bytes)
    (failed : isCollected tree options path = .error failure) : FailsOn bytes failure := by
  by_cases offered : IsOffered options path
  · rw [isCollected_of_offered offered] at failed
    rcases looksLikeDocumentation_cases stored with ⟨text, content, -, -, looks⟩ | ⟨failure', fails, looks⟩
    · cases looks.symm.trans failed
    · obtain rfl := Except.error.inj (looks.symm.trans failed)
      exact fails
  · cases (isCollected_of_not_offered offered).symm.trans failed

/-- A file is collected when a session looks into it and finds a `doc` element there. -/
theorem isCollected_eq_true_iff (stored : tree.read path = .ok bytes) :
    isCollected tree options path = .ok true ↔ IsOffered options path ∧
      ∃ text content, decodeFile bytes = .ok text ∧ Content.ofText? text = some content ∧
        hasDoc content = true := by
  constructor
  · intro collected
    by_cases offered : IsOffered options path
    · rw [isCollected_of_offered offered] at collected
      rcases looksLikeDocumentation_cases stored with ⟨text, content, read, parsed, looks⟩ | ⟨failure, -, looks⟩
      · exact ⟨offered, text, content, read, parsed, Except.ok.inj (looks.symm.trans collected)⟩
      · cases looks.symm.trans collected
    · cases (isCollected_of_not_offered offered).symm.trans collected
  · rintro ⟨offered, text, content, read, parsed, isDoc⟩
    rw [isCollected_of_offered offered, looksLikeDocumentation_eq stored read parsed, isDoc]

/-- The doctests of a file are collected when the file is, and to collect them fails in no other way. -/
theorem map_isSome_collect (stored : tree.read path = .ok bytes) :
    (collect tree options configuration path).map (·.isSome) = isCollected tree options path := by
  by_cases offered : IsOffered options path
  · rw [isCollected_of_offered offered]
    rcases looksLikeDocumentation_cases stored with ⟨text, content, read, parsed, looks⟩ | ⟨failure, -, looks⟩
    · rw [collect_eq offered.enabled offered.suffix stored read parsed, looks]
      cases hasDoc content <;> rfl
    · rw [collect, offered.enabled, offered.suffix, looks]
      rfl
  · rw [isCollected_of_not_offered offered, collect, if_pos (passes_over_iff.mpr offered)]
    rfl

/-- A session answers for a file that is there exactly when it does not look into it, or when the content is
UTF-8 and a document; what is none holds the start of a marked section, or a number with too many digits. It
collects what it looks into and finds a `doc` element in, and the doctests of what it collects. -/
theorem isCollected_answers_iff (stored : tree.read path = .ok bytes) :
    ((∃ answer, isCollected tree options path = .ok answer) ↔ (IsOffered options path → IsReadable bytes)) ∧
    (∀ failure, isCollected tree options path = .error failure → FailsOn bytes failure) ∧
    (isCollected tree options path = .ok true ↔ IsOffered options path ∧
      ∃ text content, decodeFile bytes = .ok text ∧ Content.ofText? text = some content ∧
        hasDoc content = true) ∧
    ∀ configuration,
      (collect tree options configuration path).map (·.isSome) = isCollected tree options path :=
  ⟨exists_answer_iff stored, fun _ => failsOn_of_isCollected stored, isCollected_eq_true_iff stored,
    fun _ => map_isSome_collect stored⟩

def projectText : Text := "<project><name>b</name></project>".toList

/-- A tree of files that are no documentation: a project, an element and a text in another encoding, and a page
with a marked section that no markup knows. -/
def foreignTree : Tree :=
  { top := []
    files := [(["a.xml".toList], Utf8.encode projectText),
      (["b.xml".toList], [0xFF, 0xFE, 0x3C, 0x00, 0x62, 0x00, 0x2F, 0x00, 0x3E, 0x00]),
      (["b.txt".toList], [0xFF, 0xFE]), (["c.xml".toList], Utf8.encode "<p><![foo[x]]></p>".toList)]
    directories := []
    working := [] }

/-- The project can be looked into, and the text need not be. -/
theorem foreignTree_answers :
    (foreignTree.read (.ofText "a.xml".toList) = .ok (Utf8.encode projectText) ∧
      IsReadable (Utf8.encode projectText) ∧
      ∃ answer, isCollected foreignTree stopOptions (.ofText "a.xml".toList) = .ok answer) ∧
    foreignTree.read (.ofText "b.txt".toList) = .ok [0xFF, 0xFE] ∧ ¬ IsReadable [0xFF, 0xFE] ∧
      ∃ answer, isCollected foreignTree stopOptions (.ofText "b.txt".toList) = .ok answer := by
  have stored : foreignTree.read (.ofText "a.xml".toList) = .ok (Utf8.encode projectText) := by decide +kernel
  have read : decodeFile (Utf8.encode projectText) = .ok projectText := by decide +kernel
  have accepted : (Content.ofText? projectText).isSome = true := by decide +kernel
  obtain ⟨content, parsed⟩ := Option.isSome_iff_exists.mp accepted
  have readable := isReadable_iff.mpr ⟨projectText, content, read, parsed⟩
  have storedText : foreignTree.read (.ofText "b.txt".toList) = .ok [0xFF, 0xFE] := by decide +kernel
  have fails : FailsOn [0xFF, 0xFE] (.load (.undecodable ⟨.invalidStart, 0, 0xFF, 1⟩)) :=
    .undecodable (by decide +kernel)
  have other : (Path.ofText "b.txt".toList).suffix ≠ ".xml".toList := by decide +kernel
  refine ⟨⟨stored, readable, (isCollected_answers_iff stored).1.mpr fun _ => readable⟩, storedText,
    fails.not_isReadable, (isCollected_answers_iff storedText).1.mpr fun offered => ?_⟩
  exact absurd offered.suffix other

/-- A session that collects files fails on the others. -/
theorem foreignTree_fails :
    isCollected foreignTree stopOptions (.ofText "b.xml".toList) =
      .error (.load (.undecodable ⟨.invalidStart, 0, 0xFF, 1⟩)) ∧
    isCollected foreignTree stopOptions (.ofText "c.xml".toList) =
      .error (.load (.unparsed .rejectedMarkup)) := by
  decide +kernel

end DocExamples.Collector
