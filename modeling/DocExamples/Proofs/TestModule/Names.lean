import DocExamples.Proofs.Text.Number
import DocExamples.TestModule.Generation
import Mathlib.Data.List.Nodup
import Mathlib.Data.List.Perm.Subperm

namespace DocExamples

open Text

namespace TestModule

variable {taken names : List Text} {name : Text}

/-- What a number adds to a name. -/
def suffix (n : Nat) : Text := '_' :: ofNat n

theorem suffixed_eq (name : Text) (n : Nat) : suffixed name n = name ++ suffix n := rfl

theorem suffixed_injective (name : Text) : Function.Injective (suffixed name) := by
  intro m n h
  have same : suffix m = suffix n := List.append_cancel_left h
  exact ofNat_inj (List.cons.inj same).2

theorem ascii_of_mem_suffix {n : Nat} {c : Char} (mem : c ∈ suffix n) : c.toNat < 0x80 := by
  rcases List.mem_cons.mp mem with rfl | digit
  · decide
  · exact ascii_of_isDigit (isDigit_of_mem_ofNat digit)

/-- The numbered names that are tried for a name that is taken. -/
def candidates (taken : List Text) (name : Text) : List Text :=
  (List.range (taken.length + 1)).map fun i => suffixed name (i + 2)

theorem nodup_candidates (taken : List Text) (name : Text) : (candidates taken name).Nodup := by
  refine List.nodup_range.map ?_
  intro i j h
  have same := suffixed_injective name h
  omega

theorem exists_free_candidate (taken : List Text) (name : Text) :
    ∃ candidate ∈ candidates taken name, candidate ∉ taken := by
  by_contra none
  push Not at none
  have fits := ((nodup_candidates taken name).subperm none).length_le
  rw [candidates, List.length_map, List.length_range] at fits
  omega

/-- What a base becomes besides names that are taken: itself if it is free, and else the base with the least
number from two on with which it is. -/
inductive IsNumbered (taken : List Text) (base : Text) : Text → Prop
  | plain (free : base ∉ taken) : IsNumbered taken base base
  | numbered {n : Nat} (known : base ∈ taken) (two : 2 ≤ n) (free : suffixed base n ∉ taken)
      (least : ∀ i, 2 ≤ i → i < n → suffixed base i ∈ taken) : IsNumbered taken base (suffixed base n)

theorem isNumbered_freeName (taken : List Text) (name : Text) :
    IsNumbered taken name (freeName taken name) := by
  by_cases known : name ∈ taken
  · have choice : freeName taken name =
        ((candidates taken name).find? fun candidate => !taken.contains candidate).getD name := by
      rw [freeName, if_pos (List.contains_iff_mem.mpr known)]
      rfl
    rw [choice, candidates, List.find?_map]
    cases found : (List.range (taken.length + 1)).find?
        ((fun candidate => !taken.contains candidate) ∘ fun i => suffixed name (i + 2)) with
    | none =>
      obtain ⟨candidate, tried, free⟩ := exists_free_candidate taken name
      obtain ⟨i, inside, rfl⟩ := List.mem_map.mp tried
      have passed := List.find?_eq_none.mp found i inside
      simp [free] at passed
    | some i =>
      obtain ⟨free, -, least⟩ := List.find?_range_eq_some.mp found
      refine .numbered known (Nat.le_add_left 2 i) (by simpa using free) fun j two before => ?_
      have tried := least (j - 2) (by omega)
      rw [Function.comp, Nat.sub_add_cancel two] at tried
      simpa using tried
  · rw [freeName, if_neg (by simpa using known)]
    exact .plain known

/-- A free name is the name, not taken, or a numbered one that is not taken. -/
theorem freeName_cases (taken : List Text) (name : Text) :
    (freeName taken name = name ∧ name ∉ taken) ∨
    (name ∈ taken ∧ ∃ n, freeName taken name = suffixed name n ∧ suffixed name n ∉ taken) := by
  generalize made : freeName taken name = free
  have numbered := isNumbered_freeName taken name
  rw [made] at numbered
  cases numbered with
  | plain free => exact .inl ⟨rfl, free⟩
  | numbered known _ free _ => exact .inr ⟨known, _, rfl, free⟩

theorem freeName_not_mem (taken : List Text) (name : Text) : freeName taken name ∉ taken := by
  rcases freeName_cases taken name with ⟨same, free⟩ | ⟨-, n, same, free⟩
  · rwa [same]
  · rwa [same]

/-- A free name is the name with an ASCII end. -/
theorem freeName_eq_append (taken : List Text) (name : Text) :
    ∃ tail, freeName taken name = name ++ tail ∧ ∀ c ∈ tail, c.toNat < 0x80 := by
  rcases freeName_cases taken name with ⟨same, -⟩ | ⟨-, n, same, -⟩
  · exact ⟨[], by rw [same, List.append_nil], fun c mem => absurd mem List.not_mem_nil⟩
  · exact ⟨suffix n, by rw [same, suffixed_eq], fun c => ascii_of_mem_suffix⟩

theorem length_distinctNames (taken names : List Text) :
    (distinctNames taken names).length = names.length := by
  induction names generalizing taken with
  | nil => rfl
  | cons name names ih => rw [distinctNames, List.length_cons, List.length_cons, ih]

/-- Names that are made distinct differ from those that were taken before. -/
theorem not_mem_of_mem_distinctNames (mem : name ∈ distinctNames taken names) : name ∉ taken := by
  induction names generalizing taken with
  | nil => exact absurd mem List.not_mem_nil
  | cons first names ih =>
    rcases List.mem_cons.mp mem with rfl | later
    · exact freeName_not_mem taken first
    · exact fun known => ih later (List.mem_cons_of_mem _ known)

theorem nodup_distinctNames (taken names : List Text) : (distinctNames taken names).Nodup := by
  induction names generalizing taken with
  | nil => exact List.nodup_nil
  | cons name names ih =>
    refine List.nodup_cons.mpr ⟨?_, ih _⟩
    intro later
    exact not_mem_of_mem_distinctNames later List.mem_cons_self

/-- Each of the names that are made distinct is one of the names with an ASCII end. -/
theorem exists_append_of_mem_distinctNames (mem : name ∈ distinctNames taken names) :
    ∃ base ∈ names, ∃ tail, name = base ++ tail ∧ ∀ c ∈ tail, c.toNat < 0x80 := by
  induction names generalizing taken with
  | nil => exact absurd mem List.not_mem_nil
  | cons first names ih =>
    rcases List.mem_cons.mp mem with rfl | later
    · exact ⟨first, List.mem_cons_self, freeName_eq_append taken first⟩
    · obtain ⟨base, inside, tail⟩ := ih later
      exact ⟨base, List.mem_cons_of_mem first inside, tail⟩

end TestModule

end DocExamples
