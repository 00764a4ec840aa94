import DocExamples.Text.Utf8

namespace DocExamples.Text.Utf8

variable {bytes rest : List UInt8} {text : Text}

theorem length_followers_le {value count : Nat} {bounds : List (Nat × Nat)} {read : Nat}
    (h : followers value count bounds bytes = .ok (read, rest)) : rest.length ≤ bytes.length := by
  induction bounds generalizing value count bytes with
  | nil =>
    cases h
    exact Nat.le_refl _
  | cons bound bounds ih =>
    cases bytes with
    | nil => cases h
    | cons b bytes =>
      obtain ⟨low, high⟩ := bound
      rw [followers] at h
      split at h
      · exact Nat.le_succ_of_le (ih h)
      · cases h

/-- With fuel for each of the bytes, the text is the same from every position. -/
theorem decodeFrom_toOption {fuel fuel' : Nat} (enough : bytes.length ≤ fuel)
    (enough' : bytes.length ≤ fuel') (position position' : Nat) :
    (decodeFrom fuel position bytes).toOption = (decodeFrom fuel' position' bytes).toOption := by
  induction fuel generalizing fuel' position position' bytes with
  | zero =>
    obtain rfl := List.eq_nil_of_length_eq_zero (Nat.le_zero.mp enough)
    cases fuel' <;> rfl
  | succ fuel ih =>
    cases bytes with
    | nil => cases fuel' <;> rfl
    | cons b bytes =>
      cases fuel' with
      | zero => exact absurd enough' (by simp)
      | succ fuel' =>
        rw [List.length_cons, Nat.add_le_add_iff_right] at enough enough'
        rw [decodeFrom, decodeFrom]
        cases lead? b.toNat with
        | none => rfl
        | some lead =>
          obtain ⟨value, bounds⟩ := lead
          dsimp only
          cases read : followers value 1 bounds bytes with
          | error fault => rfl
          | ok found =>
            obtain ⟨value, rest⟩ := found
            have shorter := length_followers_le read
            have same := ih (Nat.le_trans shorter enough) (Nat.le_trans shorter enough')
              (position + 1 + bounds.length) (position' + 1 + bounds.length)
            dsimp only
            revert same
            cases decodeFrom fuel (position + 1 + bounds.length) rest <;>
              cases decodeFrom fuel' (position' + 1 + bounds.length) rest <;>
              simp [Except.toOption, Except.map]

/-- A byte order mark is a character of its own. -/
theorem exists_decode_dropMark_iff :
    (∃ text, decode (dropMark bytes) = .ok text) ↔ ∃ text, decode bytes = .ok text := by
  rw [dropMark.eq_def]
  split
  · next rest =>
    have whole : decode (0xEF :: 0xBB :: 0xBF :: rest) =
        (decodeFrom (rest.length + 2) 3 rest).map (Char.ofNat 0xFEFF :: ·) := rfl
    have same := decodeFrom_toOption (Nat.le_add_right rest.length 2) (Nat.le_refl _) 3 0
    rw [whole, decode]
    revert same
    cases decodeFrom (rest.length + 2) 3 rest <;> cases decodeFrom rest.length 0 rest <;>
      simp [Except.toOption, Except.map]
  · rfl

end DocExamples.Text.Utf8
