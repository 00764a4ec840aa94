import DocExamples.Script.Token

namespace DocExamples.Text

variable {c : Char}

/-- Each of the ranges lies in one of the others, both lists being in the order of the code points. -/
def covers : (others ranges : List (Nat × Nat)) → Bool
  | [], ranges => ranges.isEmpty
  | other :: others, ranges =>
    covers others (ranges.dropWhile fun range => other.1 ≤ range.1 && range.2 ≤ other.2)

theorem isWithin_of_covers {others ranges : List (Nat × Nat)} (h : covers others ranges = true)
    (inside : isWithin ranges c = true) : isWithin others c = true := by
  induction others generalizing ranges with
  | nil =>
    rw [covers, List.isEmpty_iff] at h
    simp [h, isWithin] at inside
  | cons other others ih =>
    have parts := List.takeWhile_append_dropWhile
      (p := fun range : Nat × Nat => decide (other.1 ≤ range.1) && decide (range.2 ≤ other.2)) (l := ranges)
    rw [isWithin, ← parts, List.any_append, Bool.or_eq_true] at inside
    rw [isWithin, List.any_cons, Bool.or_eq_true]
    rcases inside with first | later
    · left
      obtain ⟨range, mem, fits⟩ := List.any_eq_true.mp first
      have wider := List.all_eq_true.mp List.all_takeWhile range mem
      simp only [Bool.and_eq_true, decide_eq_true_eq] at fits wider ⊢
      omega
    · exact .inr (ih h later)

/-- The letters and digits of ASCII stand between its space and its last control. -/
theorem toNat_of_isAlphanum (h : c.isAlphanum = true) : 0x20 ≤ c.toNat ∧ c.toNat < 0x7F := by
  have kinds : (c.isUpper || c.isLower || c.isDigit) = true := h
  rw [Bool.or_eq_true, Bool.or_eq_true] at kinds
  rcases kinds with (upper | lower) | digit
  · have range : 0x41 ≤ c.toNat ∧ c.toNat ≤ 0x5A := of_decide_eq_true upper
    omega
  · obtain ⟨low, high⟩ := Bool.and_eq_true_iff.mp lower
    have range : 0x61 ≤ c.toNat ∧ c.toNat ≤ 0x7A := ⟨of_decide_eq_true low, of_decide_eq_true high⟩
    omega
  · obtain ⟨low, high⟩ := Bool.and_eq_true_iff.mp digit
    have range : 0x30 ≤ c.toNat ∧ c.toNat ≤ 0x39 := ⟨of_decide_eq_true low, of_decide_eq_true high⟩
    omega

theorem isWord_iff : isWord c = true ↔ (c.isAlphanum = true ∨ c = '_') ∨ isWithin wordRanges c = true := by
  simp [isWord]

theorem isPrintable_of_isWord (h : isWord c = true) : isPrintable c = true := by
  rw [isPrintable, Bool.or_eq_true]
  rcases isWord_iff.mp h with (ascii | rfl) | beyond
  · left
    simpa using toNat_of_isAlphanum ascii
  · exact .inl rfl
  · exact .inr (isWithin_of_covers (by decide +kernel) beyond)

/-- Word characters are read as characters of names, whether or not an identifier may hold them. -/
theorem inName_of_isWord (h : isWord c = true) : Script.Lexing.inName c = true := by
  rcases isWord_iff.mp h with (ascii | rfl) | beyond
  · rw [Char.isAlphanum, Bool.or_eq_true] at ascii
    rcases ascii with letter | digit
    · simp [Script.Lexing.inName, Script.Lexing.startsName, letter]
    · simp [Script.Lexing.inName, digit]
  · rfl
  · have above : isWithin [(0x80, 0x10FFFF)] c = true := isWithin_of_covers (by decide +kernel) beyond
    have high : 0x80 ≤ c.toNat := by
      simp only [isWithin, List.any_cons, List.any_nil, Bool.or_false, Bool.and_eq_true,
        decide_eq_true_eq] at above
      exact above.1
    simp [Script.Lexing.inName, Script.Lexing.startsName, high]

end DocExamples.Text
