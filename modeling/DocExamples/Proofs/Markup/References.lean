import DocExamples.Markup.Reference
import DocExamples.Proofs.Effects
import DocExamples.Proofs.Text.Softening
import DocExamples.Proofs.Text.Trim

namespace DocExamples.Markup

open Text Effects

theorem byte_mem_of_mem {s : String} (h : '\r' ∈ s.toList) : (13 : UInt8) ∈ s.toByteArray.data.toList := by
  rw [← String.utf8Encode_toList, List.utf8Encode, List.data_toByteArray]
  exact List.mem_flatMap.mpr ⟨'\r', h, by decide⟩

/-- No name of a reference holds a CR. -/
theorem carriage_not_mem_of_named? {name value : Text} (h : named? name = some value) : '\r' ∉ name := by
  -- The bytes of a name are faster to look through than its characters.
  have single : (bareNames ++ closedNames ++ furtherNames).all (fun entry =>
      entry.1.toByteArray.data.toList.all fun byte => Nat.ble 14 byte.toNat) = true := by
    decide +kernel
  have double : pairNames.all (fun entry =>
      entry.1.toByteArray.data.toList.all fun byte => Nat.ble 14 byte.toNat) = true := by
    decide +kernel
  have inner {s : String} (hs : (s.toByteArray.data.toList.all fun byte => Nat.ble 14 byte.toNat) = true) :
      '\r' ∉ s.toList := by
    intro inside
    exact absurd (List.all_eq_true.mp hs _ (byte_mem_of_mem inside)) (by decide)
  rcases exists_of_named? h with ⟨entry, he, rfl⟩ | ⟨entry, he, rfl⟩
  · exact inner (List.all_eq_true.mp single entry he)
  · exact inner (List.all_eq_true.mp double entry he)

theorem named?_of_bareNamed? {name value : Text} (h : bareNamed? name = some value) :
    named? name = some value := by
  rw [named?, h]
  rfl

namespace Reference

/-- A character of a line end. -/
def isLineEnd (c : Char) : Bool := !isInner c

variable {c : Char} {text name value rest : Text}

theorem isLineEnd_iff : isLineEnd c = true ↔ c = '\r' ∨ c = '\n' := by
  simp only [isLineEnd, isInner, Bool.not_and, Bool.or_eq_true, Bool.not_eq_true', bne_eq_false_iff_eq]

theorem mem_dropSemicolon (hc : isLineEnd c = true) (h : c ∈ text) : c ∈ (dropSemicolon text).2 := by
  unfold dropSemicolon
  split
  · rcases List.mem_cons.mp h with rfl | inside
    · exact absurd hc (by decide)
    · exact inside
  · exact h

theorem mem_barePart? (hc : isLineEnd c = true) (inName : '\n' ∉ name) {length : Nat}
    (h : barePart? name length = some (value, rest)) (inside : c ∈ name) : c ∈ rest := by
  fun_induction barePart? name length with
  | case1 => cases h
  | case2 => cases h
  | case3 length found known =>
    cases h
    have apart : c ∉ name.take (length + 2) := by
      intro taken
      rcases isLineEnd_iff.mp hc with rfl | rfl
      · exact carriage_not_mem_of_named? (named?_of_bareNamed? known) taken
      · exact inName (List.mem_of_mem_take taken)
    rw [← List.take_append_drop (length + 2) name, List.mem_append] at inside
    exact inside.resolve_left apart
  | case4 length _ ih => exact ih h

theorem mem_nameInValue (hc : isLineEnd c = true) (inName : '\n' ∉ name) (ended : Bool) (h : c ∈ name) :
    c ∈ nameInValue name ended := by
  have carriage : c = '\r' := by
    refine (isLineEnd_iff.mp hc).resolve_right ?_
    rintro rfl
    exact inName h
  have unknown : named? name = none := by
    rw [Option.eq_none_iff_forall_ne_some]
    intro value known
    exact carriage_not_mem_of_named? known (carriage ▸ h)
  rw [nameInValue, unknown, ite_self]
  dsimp only
  split
  · next tail bare =>
    rw [List.mem_append, List.mem_append]
    exact .inl (.inr (mem_barePart? hc inName bare h))
  · simp [h]

/-- The digits of a number, and what follows them. -/
def digitsIn (text : Text) : Text × Text :=
  if (text.head? == some 'x' || text.head? == some 'X') && text.tail.head?.any isHexDigit then
    (text.tail.takeWhile isHexDigit, text.tail.dropWhile isHexDigit)
  else (text.takeWhile isAsciiDigit, text.dropWhile isAsciiDigit)

theorem mem_digitsIn (hc : isLineEnd c = true) (h : c ∈ text) : c ∈ (digitsIn text).2 := by
  have hexadecimal : isHexDigit c = false := by
    rcases isLineEnd_iff.mp hc with rfl | rfl <;> decide
  have decimal : isAsciiDigit c = false := by
    rcases isLineEnd_iff.mp hc with rfl | rfl <;> decide
  unfold digitsIn
  split
  · next hex =>
    have tail : c ∈ text.tail := by
      cases text with
      | nil => cases h
      | cons x tail =>
        refine (List.mem_cons.mp h).resolve_left ?_
        rintro rfl
        rcases isLineEnd_iff.mp hc with rfl | rfl <;> simp at hex
    exact mem_dropWhile hexadecimal tail
  · exact mem_dropWhile decimal h

theorem readInValue?_number {value : Except Nat Text} (text : Text)
    (h : readInValue? ('#' :: text) = some (value, rest)) :
    rest = (dropSemicolon (digitsIn text).2).2 := by
  unfold digitsIn
  cases hex : (text.head? == some 'x' || text.head? == some 'X') && text.tail.head?.any isHexDigit <;>
    simp only [readInValue?, hex, if_true, Bool.false_eq_true, if_false] at h ⊢ <;> split at h <;> cases h <;>
    rfl

/-- A reference by a name is the start of the text up to a character that ends names. -/
theorem exists_of_readInValue? {value : Except Nat Text} (number : text.head? ≠ some '#')
    (h : readInValue? text = some (value, rest)) :
    ∃ name left, text = name ++ left ∧ (∀ d ∈ name, endsName d = false) ∧
      value = .ok (nameInValue name (dropSemicolon left).1) ∧ rest = (dropSemicolon left).2 := by
  rw [readInValue?] at h
  · dsimp only at h
    split at h
    · cases h
    cases h
    have start : (text.takeWhile fun c => !endsName c).take 32 <+: text :=
      (List.take_prefix _ _).trans (List.takeWhile_prefix _)
    have inName : ∀ d ∈ (text.takeWhile fun c => !endsName c).take 32, endsName d = false := by
      intro d mem
      simpa using List.mem_takeWhile_imp (List.mem_of_mem_take mem)
    generalize (text.takeWhile fun c => !endsName c).take 32 = name at start inName ⊢
    obtain ⟨left, rfl⟩ := start
    rw [List.drop_left]
    exact ⟨name, left, rfl, inName, rfl, rfl⟩
  · rintro text rfl
    exact number rfl

theorem mem_readInValue? (hc : isLineEnd c = true) (h : readInValue? text = some (.ok value, rest))
    (inside : c ∈ text) : c ∈ value ∨ c ∈ rest := by
  by_cases number : text.head? = some '#'
  · obtain ⟨text, rfl⟩ := List.head?_eq_some_iff.mp number
    have other : c ≠ '#' := by
      rintro rfl
      exact absurd hc (by decide)
    rw [readInValue?_number text h]
    exact .inr (mem_dropSemicolon hc (mem_digitsIn hc ((List.mem_cons.mp inside).resolve_left other)))
  · obtain ⟨name, left, rfl, inName, same, rfl⟩ := exists_of_readInValue? number h
    cases same
    have inLine : '\n' ∉ name := fun newline => absurd (inName _ newline) (by decide)
    exact (List.mem_append.mp inside).imp (mem_nameInValue hc inLine _) (mem_dropSemicolon hc)

theorem mem_decodeFrom (hc : isLineEnd c = true) (fuel : Nat) (h : c ∈ text)
    (decoded : decodeFrom fuel text = .ok value) : c ∈ value := by
  have other : c ≠ '&' := by
    rintro rfl
    exact absurd hc (by decide)
  fun_induction decodeFrom fuel text generalizing value with
  | case1 =>
    cases decoded
    exact h
  | case2 => cases h
  | case3 fuel text first rest read ih =>
    have inside := (List.mem_cons.mp h).resolve_left other
    obtain ⟨start, rfl, further⟩ := exists_of_bind_eq_ok decoded
    obtain ⟨left, below, same⟩ := exists_of_bind_eq_ok further
    cases same
    rw [List.mem_append]
    exact (mem_readInValue? hc read inside).imp_right fun left => ih left below
  | case4 fuel text read ih =>
    have inside := (List.mem_cons.mp h).resolve_left other
    obtain ⟨further, below, rfl⟩ := exists_of_map_eq_ok decoded
    exact List.mem_cons_of_mem _ (ih inside below)
  | case5 fuel d text _ ih =>
    obtain ⟨further, below, rfl⟩ := exists_of_map_eq_ok decoded
    rcases List.mem_cons.mp h with rfl | inside
    · exact List.mem_cons_self
    · exact List.mem_cons_of_mem _ (ih inside below)

/-- The characters of line ends are kept. -/
theorem mem_decode (hc : isLineEnd c = true) (h : c ∈ text) (decoded : decode text = .ok value) :
    c ∈ value := mem_decodeFrom hc _ h decoded

/-- How many digits the first number in a text has that has too many. An ampersand ends every name and number,
so that no reference is looked for inside another one. -/
def overlong? : Text → Option Nat
  | [] => none
  | c :: text =>
    if c = '&' ∧ text.head? = some '#' ∧ mostDigits < (text.tail.takeWhile isAsciiDigit).length then
      some (text.tail.takeWhile isAsciiDigit).length
    else overlong? text

theorem overlong?_of_ne {d : Char} (h : d ≠ '&') (text : Text) : overlong? (d :: text) = overlong? text := by
  simp [overlong?, h]

theorem overlong?_append {left : Text} (h : '&' ∉ left) (rest : Text) :
    overlong? (left ++ rest) = overlong? rest := by
  induction left with
  | nil => rfl
  | cons d left ih =>
    rw [List.mem_cons, not_or] at h
    rw [List.cons_append, overlong?_of_ne (Ne.symm h.1), ih h.2]

theorem overlong?_dropSemicolon (text : Text) : overlong? (dropSemicolon text).2 = overlong? text := by
  unfold dropSemicolon
  split
  · exact (overlong?_of_ne (by decide) _).symm
  · rfl

theorem overlong?_dropWhile {p : Char → Bool} (hp : p '&' = false) (text : Text) :
    overlong? (text.dropWhile p) = overlong? text := by
  have apart : '&' ∉ text.takeWhile p := by
    intro mem
    exact absurd (List.mem_takeWhile_imp mem) (by simp [hp])
  conv_rhs => rw [← List.takeWhile_append_dropWhile (p := p) (l := text)]
  exact (overlong?_append apart _).symm

theorem exists_hexMark
    (hex : ((text.head? == some 'x' || text.head? == some 'X') && text.tail.head?.any isHexDigit) = true) :
    ∃ c tail, text = c :: tail ∧ (c = 'x' ∨ c = 'X') := by
  rw [Bool.and_eq_true] at hex
  cases text with
  | nil => cases hex.1
  | cons c tail => exact ⟨c, tail, rfl, by simpa using hex.1⟩

theorem suffix_dropSemicolon (text : Text) : (dropSemicolon text).2 <:+ text := by
  unfold dropSemicolon
  split
  · exact List.suffix_cons _ _
  · exact List.suffix_rfl

theorem suffix_digitsIn (text : Text) : (digitsIn text).2 <:+ text := by
  unfold digitsIn
  split
  · exact (List.dropWhile_suffix _).trans (List.tail_suffix _)
  · exact List.dropWhile_suffix _

theorem suffix_readInValue? {value : Except Nat Text} (h : readInValue? text = some (value, rest)) :
    rest <:+ text := by
  by_cases number : text.head? = some '#'
  · obtain ⟨text, rfl⟩ := List.head?_eq_some_iff.mp number
    rw [readInValue?_number text h]
    exact (suffix_dropSemicolon _).trans ((suffix_digitsIn text).trans (List.suffix_cons _ _))
  · obtain ⟨name, left, rfl, -, -, rfl⟩ := exists_of_readInValue? number h
    exact (suffix_dropSemicolon left).trans (List.suffix_append name left)

theorem overlong?_reference {text : Text} (short : text.head? = some '#' →
    (text.tail.takeWhile isAsciiDigit).length ≤ mostDigits) : overlong? ('&' :: text) = overlong? text := by
  rw [overlong?, if_neg]
  rintro ⟨-, number, long⟩
  exact absurd (short number) (Nat.not_le.mpr long)

section

variable {value : Except Nat Text}

/-- A hexadecimal number has no digits that are too many. -/
theorem readInValue?_hex
    (hex : ((text.head? == some 'x' || text.head? == some 'X') && text.tail.head?.any isHexDigit) = true)
    (h : readInValue? ('#' :: text) = some (value, rest)) :
    ∃ found, value = .ok found ∧ overlong? rest = overlong? ('&' :: '#' :: text) := by
  simp only [readInValue?, hex, if_true] at h
  split at h
  · cases h
  cases h
  obtain ⟨c, tail, rfl, letter⟩ := exists_hexMark hex
  have digit : isAsciiDigit c = false ∧ c ≠ '&' := by
    rcases letter with rfl | rfl <;> decide
  refine ⟨_, rfl, ?_⟩
  rw [overlong?_reference (fun _ => by simp [digit.1]), overlong?_of_ne (by decide), overlong?_of_ne digit.2,
    overlong?_dropSemicolon, List.tail_cons, overlong?_dropWhile (by decide)]

theorem readInValue?_decimal
    (hex : ((text.head? == some 'x' || text.head? == some 'X') && text.tail.head?.any isHexDigit) = false)
    (h : readInValue? ('#' :: text) = some (value, rest)) :
    (∃ digits, value = .error digits ∧ overlong? ('&' :: '#' :: text) = some digits) ∨
    ∃ found, value = .ok found ∧ overlong? rest = overlong? ('&' :: '#' :: text) := by
  simp only [readInValue?, hex, Bool.false_eq_true, if_false, readDigits, decimal] at h
  split at h
  · cases h
  cases h
  by_cases long : mostDigits < (text.takeWhile isAsciiDigit).length
  · refine .inl ⟨_, by rw [if_pos long]; rfl, ?_⟩
    rw [overlong?, if_pos ⟨rfl, rfl, long⟩, List.tail_cons]
  · refine .inr ⟨_, by rw [if_neg long]; rfl, ?_⟩
    rw [@overlong?_reference ('#' :: text) (fun _ => Nat.not_lt.mp long), overlong?_of_ne (by decide),
      overlong?_dropSemicolon, overlong?_dropWhile (by decide)]

/-- The rest after a reference is looked through as the text from it on is, unless its number has too many
digits. -/
theorem readInValue?_cases (h : readInValue? text = some (value, rest)) :
    (∃ digits, value = .error digits ∧ overlong? ('&' :: text) = some digits) ∨
    ∃ found, value = .ok found ∧ overlong? rest = overlong? ('&' :: text) := by
  by_cases number : text.head? = some '#'
  · obtain ⟨text, rfl⟩ := List.head?_eq_some_iff.mp number
    cases hex : (text.head? == some 'x' || text.head? == some 'X') && text.tail.head?.any isHexDigit with
    | true => exact .inr (readInValue?_hex hex h)
    | false => exact readInValue?_decimal hex h
  · obtain ⟨name, left, rfl, inName, rfl, rfl⟩ := exists_of_readInValue? number h
    have apart : '&' ∉ name := fun mem => absurd (inName _ mem) (by decide)
    refine .inr ⟨_, rfl, ?_⟩
    rw [overlong?_reference (fun found => absurd found number), overlong?_dropSemicolon, overlong?_append apart]

end

/-- Without a reference at an ampersand the text after it is looked through. -/
theorem overlong?_of_readInValue?_none (h : readInValue? text = none) :
    overlong? ('&' :: text) = overlong? text := by
  refine overlong?_reference fun number => ?_
  obtain ⟨text, rfl⟩ := List.head?_eq_some_iff.mp number
  rw [List.tail_cons]
  cases hex : (text.head? == some 'x' || text.head? == some 'X') && text.tail.head?.any isHexDigit with
  | true =>
    obtain ⟨c, tail, rfl, rfl | rfl⟩ := exists_hexMark hex <;> simp [isAsciiDigit]
  | false =>
    simp only [readInValue?, hex, Bool.false_eq_true, if_false] at h
    split at h
    · next none => simp [List.isEmpty_iff.mp none]
    · cases h

/-- A value is decoded unless a number in it has too many digits. -/
theorem decodeFrom_cases {fuel : Nat} (enough : text.length ≤ fuel) :
    (∃ digits, decodeFrom fuel text = .error digits ∧ overlong? text = some digits) ∨
    ∃ value, decodeFrom fuel text = .ok value ∧ overlong? text = none := by
  fun_induction decodeFrom fuel text with
  | case1 text =>
    obtain rfl := List.eq_nil_of_length_eq_zero (Nat.le_zero.mp enough)
    exact .inr ⟨[], rfl, rfl⟩
  | case2 => exact .inr ⟨[], rfl, rfl⟩
  | case3 fuel text first rest read ih =>
    have less := (suffix_readInValue? read).length_le.trans (Nat.le_of_succ_le_succ enough)
    rcases readInValue?_cases read with ⟨digits, rfl, found⟩ | ⟨start, rfl, same⟩
    · exact .inl ⟨digits, rfl, found⟩
    · rw [← same]
      rcases ih less with ⟨digits, failed, found⟩ | ⟨value, decoded, none⟩
      · exact .inl ⟨digits, by rw [failed]; rfl, found⟩
      · exact .inr ⟨_, by rw [decoded]; rfl, none⟩
  | case4 fuel text read ih =>
    rw [overlong?_of_readInValue?_none read]
    rcases ih (Nat.le_of_succ_le_succ enough) with ⟨digits, failed, found⟩ | ⟨value, decoded, none⟩
    · exact .inl ⟨digits, by rw [failed]; rfl, found⟩
    · exact .inr ⟨_, by rw [decoded]; rfl, none⟩
  | case5 fuel d text other ih =>
    rw [overlong?_of_ne other]
    rcases ih (Nat.le_of_succ_le_succ enough) with ⟨digits, failed, found⟩ | ⟨value, decoded, none⟩
    · exact .inl ⟨digits, by rw [failed]; rfl, found⟩
    · exact .inr ⟨_, by rw [decoded]; rfl, none⟩

theorem decode_cases (text : Text) :
    (∃ digits, decode text = .error digits ∧ overlong? text = some digits) ∨
    ∃ value, decode text = .ok value ∧ overlong? text = none := decodeFrom_cases le_rfl

/-- A text that holds a number with too many digits, and how many. -/
def HoldsOverlong (text : Text) (count : Nat) : Prop :=
  ∃ digits : Text, digits.length = count ∧ mostDigits < count ∧ digits.all isAsciiDigit = true ∧
    "&#".toList ++ digits <:+: text

theorem HoldsOverlong.of_isInfix {count : Nat} {part : Text} (h : HoldsOverlong part count)
    (inside : part <:+: text) : HoldsOverlong text count := by
  obtain ⟨digits, length, long, all, found⟩ := h
  exact ⟨digits, length, long, all, found.trans inside⟩

theorem holdsOverlong_of_digits {count : Nat} (h : decimal (text.takeWhile isAsciiDigit) = .error count) :
    HoldsOverlong ('&' :: '#' :: text) count := by
  unfold decimal at h
  split at h
  · next long =>
    cases h
    refine ⟨_, rfl, long, List.all_takeWhile, ?_⟩
    exact ((List.prefix_append_right_inj "&#".toList).mpr (List.takeWhile_prefix _)).isInfix
  · cases h

theorem holdsOverlong_of_overlong? {count : Nat} (h : overlong? text = some count) :
    HoldsOverlong text count := by
  induction text with
  | nil => cases h
  | cons c text ih =>
    rw [overlong?] at h
    split at h
    · next found =>
      obtain ⟨rfl, number, long⟩ := found
      obtain ⟨text, rfl⟩ := List.head?_eq_some_iff.mp number
      rw [List.tail_cons] at h long
      refine holdsOverlong_of_digits ?_
      rw [decimal, if_pos long, Option.some.inj h]
    · exact (ih h).of_isInfix (List.suffix_cons c text).isInfix

/-- Line ends do not matter to numbers. -/
theorem overlong?_eq {lone : Prop} {s : Text} (h : Softens lone text s) : overlong? text = overlong? s := by
  induction h with
  | nil => rfl
  | same c h ih =>
    rw [overlong?, overlong?, ih]
    cases h with
    | nil => rfl
    | same d h =>
      have digits := h.takeWhile_eq (p := isAsciiDigit) (by decide) (by decide)
      rw [List.head?_cons, List.head?_cons, List.tail_cons, List.tail_cons, digits]
    | pair => simp
    | single => simp
  | pair _ ih => simpa [overlong?] using ih
  | single _ _ ih => simpa [overlong?] using ih

end Reference

end DocExamples.Markup
