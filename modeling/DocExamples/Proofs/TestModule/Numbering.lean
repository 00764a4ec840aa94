import DocExamples.Proofs.TestModule.Members

namespace DocExamples.TestModule

open Text Documentation

variable {taken names : List Text} {base name : Text}

/-- The search for a free name from a candidate with its number on. It ends at a candidate that is not
taken, and goes on from any other one to the next number. -/
inductive Searches (taken : List Text) (base : Text) : (candidate : Text) → (number : Nat) → Text → Prop
  | ends {candidate : Text} {number : Nat} (free : candidate ∉ taken) :
    Searches taken base candidate number candidate
  | goesOn {candidate found : Text} {number : Nat} (known : candidate ∈ taken)
      (rest : Searches taken base (suffixed base (number + 1)) (number + 1) found) :
    Searches taken base candidate number found

/-- Names that bases get one after another: each comes of a search besides the names before it, and is the
base or has the least number that is free. -/
structure Numbers (bases names : List Text) : Prop where
  length_eq : names.length = bases.length
  each : ∀ k base, bases[k]? = some base → ∃ name, names[k]? = some name ∧
    Searches (names.take k) base base 1 name ∧ IsNumbered (names.take k) base name

theorem IsNumbered.congr {earlier : List Text} (h : IsNumbered taken base name)
    (same : ∀ other, other ∈ taken ↔ other ∈ earlier) : IsNumbered earlier base name := by
  cases h with
  | plain free => exact .plain (mt (same base).mpr free)
  | @numbered n known two free least =>
    refine .numbered ((same base).mp known) two (mt (same _).mpr free) ?_
    exact fun i above below => (same _).mp (least i above below)

/-- The induction is on how many numbers there are before the one that is free. -/
theorem searches_suffixed {n : Nat} (free : suffixed base n ∉ taken)
    (least : ∀ i, 2 ≤ i → i < n → suffixed base i ∈ taken) {left i : Nat} (two : 2 ≤ i)
    (before : i + left = n) : Searches taken base (suffixed base i) i (suffixed base n) := by
  induction left generalizing i with
  | zero =>
    obtain rfl : i = n := before
    exact .ends free
  | succ left ih =>
    refine .goesOn (least i two (by omega)) (ih ?_ ?_)
    · omega
    · omega

theorem IsNumbered.searches (h : IsNumbered taken base name) : Searches taken base base 1 name := by
  cases h with
  | plain free => exact .ends free
  | @numbered n known two free least =>
    exact .goesOn known (searches_suffixed free least le_rfl (Nat.add_sub_cancel' two))

/-- A name is free besides those that were taken at first and those before it. -/
theorem getElem?_distinctNames {k : Nat} (h : names[k]? = some base) :
    (distinctNames taken names)[k]? =
      some (freeName (((distinctNames taken names).take k).reverse ++ taken) base) := by
  induction names generalizing taken k with
  | nil => simp at h
  | cons first names ih =>
    cases k with
    | zero =>
      obtain rfl : first = base := by simpa using h
      rfl
    | succ k =>
      have later := @ih (freeName taken first :: taken) k (by simpa using h)
      rw [distinctNames, List.getElem?_cons_succ, later, List.take_succ_cons, List.reverse_cons,
        List.append_assoc, List.singleton_append]

theorem numbers_distinctNames (bases : List Text) : Numbers bases (distinctNames [] bases) where
  length_eq := length_distinctNames [] bases
  each k base h := by
    refine ⟨_, getElem?_distinctNames h, ?_⟩
    have numbered := isNumbered_freeName (((distinctNames [] bases).take k).reverse ++ []) base
    have before : IsNumbered ((distinctNames [] bases).take k) base _ :=
      numbered.congr fun other => by rw [List.append_nil, List.mem_reverse]
    exact ⟨before.searches, before⟩

theorem distinctNames_append (taken names more : List Text) :
    distinctNames taken (names ++ more) = distinctNames taken names ++
      distinctNames ((distinctNames taken names).reverse ++ taken) more := by
  induction names generalizing taken with
  | nil => rfl
  | cons name names ih =>
    rw [List.cons_append, distinctNames, ih, distinctNames, List.reverse_cons, List.append_assoc,
      List.singleton_append, List.cons_append]

/-- The definitions for some examples stay as they are when further examples follow. -/
theorem definitionsFrom_append (comment : Text) (taken : List Text) (es more : List Example) :
    ∃ taken', definitionsFrom comment taken (es ++ more) =
      definitionsFrom comment taken es ++ definitionsFrom comment taken' more := by
  refine ⟨(distinctNames taken (es.map (MethodName.collectable ·.name))).reverse ++ taken, ?_⟩
  simp only [definitionsFrom, List.map_append, distinctNames_append]
  rw [List.zipWith_append, List.zip_append]
  · rw [List.length_zipWith, length_distinctNames, List.length_map, Nat.min_self]
  · rw [length_distinctNames, List.length_map]

theorem accepted_append [Language] (records more : List Record) :
    accepted (records ++ more) = accepted records ++ accepted more := by
  rw [accepted, Example.ofRecords, List.flatMap_append, List.filter_append]
  rfl

/-- What a display name is made to before it is numbered. -/
def baseNames (es : List Example) : List Text := es.map (MethodName.collectable ·.name)

/-- The methods of a generated class are numbered in the order of the examples that get a test. Their names
are pairwise different, and where further records follow, the class has the same definitions before those of
the further examples. -/
theorem ofRecords_numbers [Language] {options : Options} {records : List Record} {source : Text}
    {diagnostics : List Diagnostic}
    (generated : ofRecords options records = .ok { source := some source, diagnostics }) :
    ∃ definitions : List (Text × Text),
      source = render options.className options.usings (definitions.map Prod.snd) ∧
      (∀ next ∈ definitions, Defines next.1 next.2) ∧
      Numbers (baseNames (accepted records)) (definitions.map Prod.fst) ∧
      (definitions.map Prod.fst).Nodup ∧
      ∀ more source' diagnostics',
        ofRecords options (records ++ more) = .ok { source := some source', diagnostics := diagnostics' } →
        ∃ further : List (Text × Text),
          source' = render options.className options.usings ((definitions ++ further).map Prod.snd) ∧
          (∀ next ∈ further, Defines next.1 next.2) ∧
          Numbers (baseNames (accepted records ++ accepted more))
            ((definitions ++ further).map Prod.fst) := by
  refine ⟨definitionsFrom options.comment [] (accepted records), ?_, ?_, ?_, ?_, ?_⟩
  · rw [map_snd_definitionsFrom]
    exact source_eq generated
  · exact fun next mem => defines_of_mem_definitionsFrom mem
  · rw [map_fst_definitionsFrom]
    exact numbers_distinctNames _
  · rw [map_fst_definitionsFrom]
    exact nodup_distinctNames [] _
  · intro more source' diagnostics' extended
    obtain ⟨taken, same⟩ :=
      definitionsFrom_append options.comment [] (accepted records) (accepted more)
    refine ⟨definitionsFrom options.comment taken (accepted more), ?_, ?_, ?_⟩
    · rw [← same, map_snd_definitionsFrom, ← accepted_append]
      exact source_eq extended
    · exact fun next mem => defines_of_mem_definitionsFrom mem
    · rw [← same, map_fst_definitionsFrom]
      exact numbers_distinctNames _

/-- Display names of which some look like numbered ones. -/
def lookalikes : List Text := ["a", "a", "a 2", "a", "a_2"].map String.toList

theorem lookalikes_numbers : ∃ source source',
    ofRecords ⟨"TestDocs".toList, [], ['#']⟩ [namedMember lookalikes] =
      .ok { source := some source, diagnostics := [] } ∧
    ofRecords ⟨"TestDocs".toList, [], ['#']⟩ ([namedMember lookalikes] ++ [namedMember ["a".toList]]) =
      .ok { source := some source', diagnostics := [] } ∧
    ∃ definitions further : List (Text × Text),
      source = render "TestDocs".toList [] (definitions.map Prod.snd) ∧
      source' = render "TestDocs".toList [] ((definitions ++ further).map Prod.snd) ∧
      Numbers (["test_a", "test_a", "test_a_2", "test_a", "test_a_2"].map String.toList)
        (definitions.map Prod.fst) := by
  have valid : checkClassName "TestDocs".toList = none := by decide +kernel
  have noNul : ∀ e ∈ Example.ofRecords ([namedMember lookalikes] ++ [namedMember ["a".toList]]),
      '\x00' ∉ e.code := by decide +kernel
  have clean : (Example.ofRecords ([namedMember lookalikes] ++ [namedMember ["a".toList]])).filterMap
      diagnosis? = [] := by decide +kernel
  have noNul' : ∀ e ∈ Example.ofRecords [namedMember lookalikes], '\x00' ∉ e.code := by decide +kernel
  have clean' : (Example.ofRecords [namedMember lookalikes]).filterMap diagnosis? = [] := by
    decide +kernel
  have bases : baseNames (accepted [namedMember lookalikes]) =
      ["test_a", "test_a", "test_a_2", "test_a", "test_a_2"].map String.toList := by decide +kernel
  obtain ⟨source', extended⟩ := exists_ofRecords ⟨"TestDocs".toList, [], ['#']⟩ valid noNul clean
  obtain ⟨source, generated⟩ := exists_ofRecords ⟨"TestDocs".toList, [], ['#']⟩ valid noNul' clean'
  obtain ⟨definitions, text, -, numbers, -, grows⟩ := ofRecords_numbers generated
  obtain ⟨further, text', -, -⟩ := grows _ _ _ extended
  rw [bases] at numbers
  exact ⟨source, source', generated, extended, definitions, further, text, text', numbers⟩

end DocExamples.TestModule
