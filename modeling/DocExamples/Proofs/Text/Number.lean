import DocExamples.Text.Number
import Mathlib.Algebra.Group.Nat.Defs

namespace DocExamples.Text

theorem length_hexDigits (width n : Nat) : (hexDigits width n).length = width := by
  induction width generalizing n with
  | zero => rfl
  | succ width ih => rw [hexDigits, List.length_append, ih, List.length_singleton]

theorem digit_spec : ∀ n < 16, isHexDigit (digit n) = true ∧ digitValue (digit n) = n := by decide

theorem all_hexDigits (width n : Nat) : (hexDigits width n).all isHexDigit = true := by
  induction width generalizing n with
  | zero => rfl
  | succ width ih =>
    have last : isHexDigit (digit (n % 16)) = true := (digit_spec _ (Nat.mod_lt n (by decide))).1
    rw [hexDigits, List.all_append, ih, List.all_cons, last]
    rfl

theorem numeral_concat (base : Nat) (digits : Text) (c : Char) :
    numeral base (digits ++ [c]) = numeral base digits * base + digitValue c := by
  rw [numeral, List.foldl_append]
  rfl

/-- Hexadecimal digits write a number up to multiples of what does not fit. -/
theorem numeral_hexDigits (width n : Nat) : numeral 16 (hexDigits width n) = n % 16 ^ width := by
  induction width generalizing n with
  | zero => rw [Nat.pow_zero, Nat.mod_one]; rfl
  | succ width ih =>
    have last : digitValue (digit (n % 16)) = n % 16 := (digit_spec _ (Nat.mod_lt n (by decide))).2
    rw [hexDigits, numeral_concat, ih, last, Nat.pow_succ', Nat.mod_mul]
    omega

theorem ofNat_inj {m n : Nat} (h : ofNat m = ofNat n) : m = n := by
  rw [ofNat, ofNat, Nat.toList_repr, Nat.toList_repr] at h
  have same := congrArg (Nat.ofDigitChars 10 · 0) h
  simpa using same

theorem isDigit_of_mem_ofNat {n : Nat} {c : Char} (mem : c ∈ ofNat n) : c.isDigit = true := by
  rw [ofNat, Nat.toList_repr] at mem
  exact Nat.isDigit_of_mem_toDigits (by decide) (by decide) mem

theorem ascii_of_isDigit {c : Char} (h : c.isDigit = true) : c.toNat < 0x80 := by
  rw [Char.isDigit_iff_toNat] at h
  have upper : c.toNat ≤ 57 := h.2
  omega

end DocExamples.Text
