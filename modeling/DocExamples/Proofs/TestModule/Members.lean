import DocExamples.Proofs.Enumeration
import DocExamples.Proofs.Text.NormalForm
import DocExamples.Proofs.TestModule.Emission
import Mathlib.Data.List.Dedup

namespace DocExamples.TestModule

open Text Documentation

variable {β : Type} {members : List (Text × β)}

/-- The members of a class after one more definition, which replaces the member that has its name. -/
def define (name : Text) (value : β) : List (Text × β) → List (Text × β)
  | [] => [(name, value)]
  | member :: members =>
    if member.1 = name then (name, value) :: members else member :: define name value members

/-- The members of a class in which the definitions stand, in order, bound to the forms of their names. -/
def classMembers (normal : Normalization) (definitions : List (Text × β)) : List (Text × β) :=
  definitions.foldl (fun members next => define (normal.form next.1) next.2 members) []

theorem define_of_not_mem {name : Text} (h : name ∉ members.map Prod.fst) (value : β) :
    define name value members = members ++ [(name, value)] := by
  induction members with
  | nil => rfl
  | cons member members ih =>
    rw [List.map_cons, List.mem_cons, not_or] at h
    rw [define, if_neg (Ne.symm h.1), ih h.2]
    rfl

theorem keys_define_of_mem {name : Text} (h : name ∈ members.map Prod.fst) (value : β) :
    (define name value members).map Prod.fst = members.map Prod.fst := by
  induction members with
  | nil => exact absurd h List.not_mem_nil
  | cons member members ih =>
    rw [define]
    split
    · next same => rw [List.map_cons, List.map_cons, same]
    · next other =>
      rw [List.map_cons, List.mem_cons] at h
      rw [List.map_cons, List.map_cons, ih (h.resolve_left (Ne.symm other))]

/-- A class has one member for each of the forms that its definitions have. -/
structure Binds (forms : List Text) (members : List (Text × β)) : Prop where
  nodup : (members.map Prod.fst).Nodup
  mem_iff : ∀ form, form ∈ members.map Prod.fst ↔ form ∈ forms

theorem Binds.define {forms : List Text} (h : Binds forms members) (name : Text) (value : β) :
    Binds (forms ++ [name]) (define name value members) := by
  by_cases known : name ∈ members.map Prod.fst
  · have keys := keys_define_of_mem known value
    constructor
    · rw [keys]
      exact h.nodup
    · intro form
      rw [keys, h.mem_iff, List.mem_append, List.mem_singleton]
      constructor
      · exact .inl
      · rintro (mem | rfl)
        · exact mem
        · exact (h.mem_iff form).mp known
  · rw [define_of_not_mem known]
    constructor
    · rw [List.map_append, List.nodup_append]
      refine ⟨h.nodup, List.nodup_singleton _, ?_⟩
      intro form mem other last same
      rw [same, List.mem_singleton.mp last] at mem
      exact known mem
    · intro form
      rw [List.map_append, List.mem_append, List.mem_append, h.mem_iff]
      rfl

theorem binds_foldl (normal : Normalization) {forms : List Text} (h : Binds forms members)
    (definitions : List (Text × β)) :
    Binds (forms ++ (definitions.map Prod.fst).map normal.form)
      (definitions.foldl (fun members next => TestModule.define (normal.form next.1) next.2 members)
        members) := by
  induction definitions generalizing forms members with
  | nil => rwa [List.map_nil, List.map_nil, List.append_nil]
  | cons next definitions ih =>
    have after := ih (h.define (normal.form next.1) next.2)
    rwa [List.append_assoc] at after

theorem binds_classMembers (normal : Normalization) (definitions : List (Text × β)) :
    Binds ((definitions.map Prod.fst).map normal.form) (classMembers normal definitions) := by
  have empty : Binds [] ([] : List (Text × β)) := ⟨List.nodup_nil, fun _ => Iff.rfl⟩
  exact binds_foldl normal empty definitions

/-- A class has as many members as its definitions have forms of names. -/
theorem length_classMembers (normal : Normalization) (definitions : List (Text × β)) :
    (classMembers normal definitions).length =
      ((definitions.map Prod.fst).map normal.form).dedup.length := by
  have binds := binds_classMembers normal definitions
  have same := (List.perm_ext_iff_of_nodup binds.nodup (List.nodup_dedup _)).mpr fun form =>
    (binds.mem_iff form).trans List.mem_dedup.symm
  have lengths := same.length_eq
  rwa [List.length_map] at lengths

/-- A class keeps all that is defined in it exactly when no two definitions have one form. -/
theorem length_classMembers_eq_iff (normal : Normalization) (definitions : List (Text × β)) :
    (classMembers normal definitions).length = definitions.length ↔
      ((definitions.map Prod.fst).map normal.form).Nodup := by
  have count : definitions.length = ((definitions.map Prod.fst).map normal.form).length := by
    rw [List.length_map, List.length_map]
  rw [length_classMembers, count]
  constructor
  · intro h
    have same := (List.dedup_sublist _).eq_of_length h
    exact List.dedup_eq_self.mp same
  · intro h
    rw [h.dedup]

/-- The examples that get a test. -/
def accepted [Language] (records : List Record) : List Example :=
  (Example.ofRecords records).filter fun e => decide (check e = .ok none)

/-- The names of the tests of examples. -/
def methodNames (es : List Example) : List Text :=
  distinctNames [] (es.map (MethodName.collectable ·.name))

/-- A method that is read as a definition of a name. -/
def Defines (name text : Text) : Prop := ∃ reading : Reading text, reading.name = name

theorem length_methodNames (es : List Example) : (methodNames es).length = es.length := by
  rw [methodNames, length_distinctNames, List.length_map]

theorem map_fst_definitionsFrom (comment : Text) (es : List Example) :
    (definitionsFrom comment [] es).map Prod.fst = methodNames es := by
  refine List.map_fst_zip ?_
  rw [List.length_zipWith, ← methodNames, length_methodNames, Nat.min_self]

theorem defines_of_mem_definitionsFrom {comment : Text} {taken : List Text} {es : List Example}
    {next : Text × Text} (mem : next ∈ definitionsFrom comment taken es) : Defines next.1 next.2 := by
  have all : List.Forall₂ (fun _ next => Defines next.1 next.2) es (definitionsFrom comment taken es) :=
    forall₂_definitionsFrom
      (fun taken e => ⟨readingOf comment (all_isWord_methodName taken e.name) e, rfl⟩) taken es
  obtain ⟨e, -, defines⟩ := Enumerates.exists_mem_of_mem all.flip mem
  exact defines

/-- If the names made of display names have the form that they are written in, so have those of methods. -/
theorem form_of_mem_methodNames (normal : Normalization) {es : List Example} {name : Text}
    (h : ∀ e ∈ es, normal.form (MethodName.collectable e.name) = MethodName.collectable e.name)
    (mem : name ∈ methodNames es) : normal.form name = name := by
  obtain ⟨base, made, tail, rfl, ascii⟩ := exists_append_of_mem_distinctNames mem
  obtain ⟨e, inside, rfl⟩ := List.mem_map.mp made
  rw [normal.form_append _ tail ascii, h e inside]

theorem nodup_forms (normal : Normalization) {es : List Example}
    (h : ∀ e ∈ es, normal.form (MethodName.collectable e.name) = MethodName.collectable e.name) :
    ((methodNames es).map normal.form).Nodup := by
  have same : (methodNames es).map normal.form = methodNames es := by
    conv_rhs => rw [← List.map_id (methodNames es)]
    exact List.map_congr_left fun _ mem => form_of_mem_methodNames normal h mem
  rw [same]
  exact nodup_distinctNames [] _

/-- What is generated has the methods of the examples that get a test. -/
theorem source_eq [Language] {options : Options} {records : List Record} {source : Text}
    {diagnostics : List Diagnostic}
    (generated : ofRecords options records = .ok { source := some source, diagnostics }) :
    source = render options.className options.usings (methods options.comment (accepted records)) := by
  rw [ofRecords] at generated
  split at generated
  · cases generated
  · cases sifted : sift (Example.ofRecords records) with
    | error cause => simp [sifted, Except.map] at generated
    | ok found =>
      simp only [sifted, Except.map, Except.ok.injEq, Generated.mk.injEq, Option.some.injEq] at generated
      rw [accepted, ← sift_sound sifted]
      exact generated.1.symm

/-- A generated class is read as definitions of the names of the examples that get a test. -/
theorem exists_definitions [Language] {options : Options} {records : List Record} {source : Text}
    {diagnostics : List Diagnostic}
    (generated : ofRecords options records = .ok { source := some source, diagnostics }) :
    ∃ definitions : List (Text × Text),
      source = render options.className options.usings (definitions.map Prod.snd) ∧
      (∀ next ∈ definitions, Defines next.1 next.2) ∧
      definitions.map Prod.fst = methodNames (accepted records) := by
  refine ⟨definitionsFrom options.comment [] (accepted records), ?_, ?_, map_fst_definitionsFrom _ _⟩
  · rw [map_snd_definitionsFrom]
    exact source_eq generated
  · intro next mem
    exact defines_of_mem_definitionsFrom mem

/-- A generated class defines a method for each example that gets a test, under names that are pairwise
different. It keeps all of them exactly when the forms of the names differ too, and it does so if each name
that is made of a display name has the form that it is written in. -/
theorem ofRecords_members [Language] (normal : Normalization) {options : Options} {records : List Record}
    {source : Text} {diagnostics : List Diagnostic}
    (generated : ofRecords options records = .ok { source := some source, diagnostics }) :
    ∃ definitions : List (Text × Text),
      source = render options.className options.usings (definitions.map Prod.snd) ∧
      (∀ next ∈ definitions, Defines next.1 next.2) ∧
      definitions.length = (accepted records).length ∧
      (definitions.map Prod.fst).Nodup ∧
      ((classMembers normal definitions).length = (accepted records).length ↔
        ((definitions.map Prod.fst).map normal.form).Nodup) ∧
      ((∀ e ∈ accepted records,
          normal.form (MethodName.collectable e.name) = MethodName.collectable e.name) →
        (classMembers normal definitions).length = (accepted records).length) := by
  obtain ⟨definitions, text, reads, names⟩ := exists_definitions generated
  have count : definitions.length = (accepted records).length := by
    rw [← length_methodNames, ← names, List.length_map]
  have kept := length_classMembers_eq_iff normal definitions
  rw [count] at kept
  refine ⟨definitions, text, reads, count, ?_, kept, ?_⟩
  · rw [names]
    exact nodup_distinctNames [] _
  · intro written
    rw [kept, names]
    exact nodup_forms normal written

/-- A member with an example for each of the names. -/
def namedMember (names : List Text) : Record :=
  { name := "M:Demo.Named".toList
    examples := names.map fun name =>
      { name := some name, blocks := [{ text := "pass".toList, doctest := true }] } }

theorem numberedMember_members : ∃ source,
    ofRecords ⟨"TestDocs".toList, [], ['#']⟩ [namedMember ["a b".toList, "a_b".toList]] =
      .ok { source := some source, diagnostics := [] } ∧
    ∃ definitions : List (Text × Text),
      source = render "TestDocs".toList [] (definitions.map Prod.snd) ∧
      (∀ next ∈ definitions, Defines next.1 next.2) ∧
      (classMembers .identifier definitions).length = 2 := by
  have valid : checkClassName "TestDocs".toList = none := by decide +kernel
  have noNul : ∀ e ∈ Example.ofRecords [namedMember ["a b".toList, "a_b".toList]], '\x00' ∉ e.code := by
    decide +kernel
  have sound : (accepted [namedMember ["a b".toList, "a_b".toList]]).length = 2 := by decide +kernel
  have clean : (Example.ofRecords [namedMember ["a b".toList, "a_b".toList]]).filterMap diagnosis? = [] := by
    decide +kernel
  have written : ∀ e ∈ accepted [namedMember ["a b".toList, "a_b".toList]],
      normalForm (MethodName.collectable e.name) = MethodName.collectable e.name := by
    decide +kernel
  obtain ⟨source, generated⟩ := exists_ofRecords ⟨"TestDocs".toList, [], ['#']⟩ valid noNul clean
  obtain ⟨definitions, text, reads, -, -, -, kept⟩ := ofRecords_members .identifier generated
  exact ⟨source, generated, definitions, text, reads, (kept written).trans sound⟩

/-- The methods of names that are spelled with a ligature and with letters have different names of one form,
so that the second hides the first. -/
theorem ligatureMember_hides : ∃ source,
    ofRecords ⟨"TestDocs".toList, [], ['#']⟩ [namedMember ["\uFB01".toList, "fi".toList]] =
      .ok { source := some source, diagnostics := [] } ∧
    (accepted [namedMember ["\uFB01".toList, "fi".toList]]).length = 2 ∧
    ∃ definitions : List (Text × Text),
      source = render "TestDocs".toList [] (definitions.map Prod.snd) ∧
      (∀ next ∈ definitions, Defines next.1 next.2) ∧
      definitions.map Prod.fst = ["test_\uFB01".toList, "test_fi".toList] ∧
      (classMembers .identifier definitions).length = 1 := by
  have valid : checkClassName "TestDocs".toList = none := by decide +kernel
  have noNul : ∀ e ∈ Example.ofRecords [namedMember ["\uFB01".toList, "fi".toList]], '\x00' ∉ e.code := by
    decide +kernel
  have sound : (accepted [namedMember ["\uFB01".toList, "fi".toList]]).length = 2 := by decide +kernel
  have clean : (Example.ofRecords [namedMember ["\uFB01".toList, "fi".toList]]).filterMap diagnosis? = [] := by
    decide +kernel
  have names : methodNames (accepted [namedMember ["\uFB01".toList, "fi".toList]]) =
      ["test_\uFB01".toList, "test_fi".toList] := by decide +kernel
  have forms : (["test_\uFB01".toList, "test_fi".toList].map normalForm).dedup.length = 1 := by
    decide +kernel
  obtain ⟨source, generated⟩ := exists_ofRecords ⟨"TestDocs".toList, [], ['#']⟩ valid noNul clean
  obtain ⟨definitions, text, reads, keys⟩ := exists_definitions generated
  rw [names] at keys
  have count := length_classMembers .identifier definitions
  rw [keys] at count
  exact ⟨source, generated, sound, definitions, text, reads, keys, count.trans forms⟩

end DocExamples.TestModule
