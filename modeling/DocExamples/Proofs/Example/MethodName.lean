import DocExamples.Example.MethodName

namespace DocExamples.MethodName

open Text

variable {name : Text} {c : Char}

/-- A display name in which each word character may stand in an identifier. -/
def IsNameable (name : Text) : Prop := ∀ c ∈ name, isWord c = true → continuesIdentifier c = true

instance (name : Text) : Decidable (IsNameable name) :=
  inferInstanceAs (Decidable (∀ c ∈ name, _ → _))

/-- The character of a method name that stands for one of a display name. -/
def spell (c : Char) : Char :=
  if specialChars.contains c then '_' else if isWord c then c else '_'

theorem collectable_eq (name : Text) : collectable name = "test_".toList ++ name.map spell := by
  rw [collectable, sanitize, List.map_map]
  congr 2
  funext c
  rw [Function.comp_apply, spell]
  split
  · rfl
  · rfl

theorem spell_cases (c : Char) : spell c = c ∨ spell c = '_' := by
  rw [spell]
  split
  · exact .inr rfl
  split
  · exact .inl rfl
  · exact .inr rfl

theorem isWord_spell (c : Char) : isWord (spell c) = true := by
  rw [spell]
  split
  · rfl
  split
  · assumption
  · rfl

theorem all_isWord_collectable (name : Text) : (collectable name).all isWord = true := by
  have start : "test_".toList.all isWord = true := by decide
  rw [collectable_eq, List.all_append, start, Bool.true_and, List.all_map, List.all_eq_true]
  exact fun c _ => isWord_spell c

/-- The only special character that is a word character is the underscore. -/
theorem continuesIdentifier_of_special (h : specialChars.contains c = true) (word : isWord c = true) :
    continuesIdentifier c = true := by
  have all : specialChars.all (fun c => !isWord c || continuesIdentifier c) = true := by decide +kernel
  have own := List.all_eq_true.mp all c (List.contains_iff_mem.mp h)
  simpa [word] using own

theorem continuesIdentifier_spell_iff :
    continuesIdentifier (spell c) = true ↔ (isWord c = true → continuesIdentifier c = true) := by
  rw [spell]
  split
  · next special => exact ⟨fun _ => continuesIdentifier_of_special special, fun _ => rfl⟩
  split
  · next word => exact ⟨fun continues _ => continues, fun h => h word⟩
  · next other => exact ⟨fun _ word => absurd word other, fun _ => rfl⟩

theorem isIdentifier_append (filled : name ≠ []) (tail : Text) :
    isIdentifier (name ++ tail) = (isIdentifier name && tail.all continuesIdentifier) := by
  obtain ⟨c, rest, rfl⟩ := List.exists_cons_of_ne_nil filled
  rw [List.cons_append, isIdentifier, isIdentifier, List.all_append, Bool.and_assoc]

/-- The method name is an identifier exactly when the display name is nameable. -/
theorem isIdentifier_collectable_iff (name : Text) :
    isIdentifier (collectable name) = true ↔ IsNameable name := by
  have start : isIdentifier "test_".toList = true := by decide +kernel
  rw [collectable_eq, isIdentifier_append (by decide), start, Bool.true_and, List.all_map,
    List.all_eq_true]
  exact forall₂_congr fun c _ => continuesIdentifier_spell_iff

end DocExamples.MethodName
