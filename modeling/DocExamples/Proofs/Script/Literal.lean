import DocExamples.Proofs.Text.Listing
import DocExamples.Proofs.Text.Number
import DocExamples.Text.Quoted

namespace DocExamples.Script.Lexing

open Text

/-- How a character is spelled between quotes: as itself, or by an escape that is read as it. -/
inductive Spelling (mark c : Char) : Text → Prop
  | itself : isPrintable c = true → c ≠ mark → c ≠ '\\' → Spelling mark c [c]
  | escape {letter : Char} {digits : Text} :
    isLineBoundary letter = false → digits.all isHexDigit = true →
    (∀ rest, readEscape (letter :: (digits ++ rest)) = .ok ([c], 1 + digits.length)) →
      Spelling mark c ('\\' :: letter :: digits)

variable {mark c : Char} {t rest : Text}

theorem takeWhile_isHexDigit {digits : Text} (h : digits.all isHexDigit = true) (rest : Text) :
    ((digits ++ rest).takeWhile isHexDigit).take digits.length = digits := by
  rw [List.takeWhile_append_of_pos (List.all_eq_true.mp h), List.take_left]

/-- As many digits as are asked for are read as the number they were written for. -/
theorem escapeNumber_hexDigits {width n : Nat} (fits : n < 16 ^ width) (rest : Text) :
    escapeNumber width (hexDigits width n ++ rest) = .ok n := by
  have digits := takeWhile_isHexDigit (all_hexDigits width n) rest
  rw [length_hexDigits] at digits
  rw [escapeNumber, digits, if_pos (length_hexDigits width n), numeral_hexDigits,
    Nat.mod_eq_of_lt fits]

theorem toNat_le (c : Char) : c.toNat ≤ 0x10FFFF := by
  have := c.valid
  rcases this with small | ⟨_, large⟩
  · exact Nat.le_of_lt (Nat.lt_of_lt_of_le small (by decide))
  · exact Nat.le_of_lt_succ large

theorem readEscape_hexDigits {letter : Char} {width : Nat}
    (h : (letter, width) ∈ [('x', 2), ('u', 4), ('U', 8)]) (fits : c.toNat < 16 ^ width)
    (rest : Text) :
    readEscape (letter :: (hexDigits width c.toNat ++ rest)) = .ok ([c], 1 + width) := by
  have number := escapeNumber_hexDigits fits rest
  have small : ¬ 0x10FFFF < c.toNat := Nat.not_lt.mpr (toNat_le c)
  have same : (if c.toNat.isValidChar then Char.ofNat c.toNat else '\uFFFD') = c := by
    have valid : c.toNat.isValidChar := c.valid
    rw [if_pos valid, Char.ofNat_toNat]
  simp only [List.mem_cons, Prod.mk.injEq, List.not_mem_nil, or_false] at h
  rcases h with ⟨rfl, rfl⟩ | ⟨rfl, rfl⟩ | ⟨rfl, rfl⟩ <;>
    simp only [readEscape, List.tail_cons, number, small, same, Char.reduceEq, decide_false,
      Bool.or_self, if_false, if_true, Bool.false_eq_true]

theorem spelling_quoteChar (hq : isQuote mark = true) (c : Char) :
    Spelling mark c (quoteChar mark c) := by
  have letter {d : Char} (boundary : isLineBoundary d = false)
      (escaped : ∀ rest, readEscape (d :: rest) = .ok ([c], 1)) : Spelling mark c ['\\', d] :=
    .escape boundary rfl escaped
  have numbered {letter : Char} {width : Nat} (h : (letter, width) ∈ [('x', 2), ('u', 4), ('U', 8)])
      (fits : c.toNat < 16 ^ width) :
      Spelling mark c ('\\' :: letter :: hexDigits width c.toNat) := by
    refine .escape ?_ (all_hexDigits width c.toNat) fun rest => ?_
    · simp only [List.mem_cons, Prod.mk.injEq, List.not_mem_nil, or_false] at h
      rcases h with ⟨rfl, -⟩ | ⟨rfl, -⟩ | ⟨rfl, -⟩ <;> rfl
    · rw [readEscape_hexDigits h fits, length_hexDigits]
  rw [quoteChar]
  split
  · next own =>
    have : c = '\x27' ∨ c = '\x22' ∨ c = '\\' := by
      simp only [isQuote, Bool.or_eq_true, decide_eq_true_eq, beq_iff_eq] at hq own
      grind
    rcases this with rfl | rfl | rfl <;> exact letter rfl fun rest => rfl
  split
  · next newline => exact newline ▸ letter rfl fun rest => by simp [newline, readEscape]
  split
  · next ret => exact ret ▸ letter rfl fun rest => by simp [ret, readEscape]
  split
  · next tab => exact tab ▸ letter rfl fun rest => by simp [tab, readEscape]
  split
  · next other _ _ _ printable =>
    simp only [Bool.or_eq_true, decide_eq_true_eq, not_or] at other
    exact .itself printable other.1 other.2
  split
  · next fits => exact numbered (by simp) fits
  split
  · next fits => exact numbered (by simp) fits
  · exact numbered (by simp) (Nat.lt_of_le_of_lt (toNat_le c) (by decide))

/-- The inside of a string on one line, in which each backslash has a character after it. -/
inductive IsInside (mark : Char) : Text → Prop
  | nil : IsInside mark []
  | single {c : Char} {t : Text} : c ≠ mark → c ≠ '\\' → c ≠ '\n' → IsInside mark t →
      IsInside mark (c :: t)
  | pair {c : Char} {t : Text} : c ≠ '\n' → IsInside mark t → IsInside mark ('\\' :: c :: t)

theorem ne_of_inLine {c : Char} (h : isLineBoundary c = false) : c ≠ '\n' := by
  rintro rfl
  exact absurd h (by decide)

theorem isInside_digits (hq : isQuote mark = true) {digits : Text} (h : digits.all isHexDigit = true)
    (ht : IsInside mark t) : IsInside mark (digits ++ t) := by
  induction digits with
  | nil => exact ht
  | cons d digits ih =>
    rw [List.all_cons, Bool.and_eq_true] at h
    have other {e : Char} (he : isHexDigit e = false) : d ≠ e := by
      rintro rfl
      simp [he] at h
    have notMark : isHexDigit mark = false := by
      simp only [isQuote, Bool.or_eq_true, beq_iff_eq] at hq
      rcases hq with rfl | rfl <;> rfl
    exact .single (other notMark) (other rfl) (other rfl) (ih h.2)

theorem Spelling.length_pos {word : Text} (h : Spelling mark c word) : 0 < word.length := by
  cases h <;> exact Nat.zero_lt_succ _

theorem Spelling.isInside (hq : isQuote mark = true) {word : Text} (h : Spelling mark c word)
    (ht : IsInside mark t) : IsInside mark (word ++ t) := by
  cases h with
  | itself printable other noBackslash =>
    have inLine := isLineBoundary_eq_false printable (by decide +kernel)
    exact .single other noBackslash (ne_of_inLine inLine) ht
  | escape inLine digits _ => exact .pair (ne_of_inLine inLine) (isInside_digits hq digits ht)

theorem Spelling.inLine {word : Text} (h : Spelling mark c word) : InLine word := by
  cases h with
  | itself printable _ _ =>
    intro d hd
    obtain rfl := List.mem_singleton.mp hd
    exact isLineBoundary_eq_false printable (by decide +kernel)
  | @escape letter digits inLine hexadecimal _ =>
    intro d hd
    rcases List.mem_cons.mp hd with rfl | hd
    · decide
    rcases List.mem_cons.mp hd with rfl | hd
    · exact inLine
    · exact InLine.of_all hexadecimal (by decide) d hd

/-- The inside of a string is read up to the closing quote, in the line in which it starts. -/
theorem readString_inside (hq : isQuote mark = true) (h : IsInside mark t) (rest : Text)
    (first line : Nat) {fuel : Nat} (enough : t.length < fuel) :
    readString mark false first fuel line (t ++ mark :: rest) = .ok ⟨t, rest, line⟩ := by
  have notBackslash : '\\' ≠ mark := by
    rintro rfl
    exact absurd hq (by decide)
  induction h generalizing fuel with
  | nil =>
    obtain ⟨fuel, rfl⟩ := Nat.exists_eq_succ_of_ne_zero (Nat.ne_of_gt enough)
    simp [readString]
  | @single c t other noBackslash noNewline _ ih =>
    obtain ⟨fuel, rfl⟩ := Nat.exists_eq_succ_of_ne_zero (Nat.ne_of_gt (Nat.zero_lt_of_lt enough))
    have inner := @ih fuel (by rw [List.length_cons] at enough; omega)
    simp [readString, Literal.after, other, noBackslash, noNewline, inner, Except.map]
  | @pair c t noNewline _ ih =>
    obtain ⟨fuel, rfl⟩ := Nat.exists_eq_succ_of_ne_zero (Nat.ne_of_gt (Nat.zero_lt_of_lt enough))
    have inner := @ih fuel (by rw [List.length_cons, List.length_cons] at enough; omega)
    simp [readString, Literal.after, notBackslash, noNewline, inner, Except.map]

/-- One step of decoding takes the spelling of one character. -/
theorem Spelling.unescape {word : Text} (h : Spelling mark c word) (fuel position : Nat) (rest : Text) :
    ∃ next, unescape (fuel + 1) position (word ++ rest) =
      (unescape fuel next rest).map (c :: ·) := by
  cases h with
  | itself _ _ noBackslash => exact ⟨_, by simp [Lexing.unescape, noBackslash]; rfl⟩
  | @escape letter digits _ _ decoded =>
    have left : (letter :: (digits ++ rest)).drop (1 + digits.length) = rest := by
      rw [Nat.add_comm, List.drop_succ_cons, List.drop_left]
    refine ⟨position + if 1 + digits.length = 0 then 6 else 1 + (1 + digits.length), ?_⟩
    rw [List.cons_append, List.cons_append, Lexing.unescape, if_pos rfl, decoded rest]
    simp only [left]
    rfl

/-- What stands between the quotes of a quoted text. -/
def spelled (mark : Char) (t : Text) : Text := t.flatMap (quoteChar mark)

theorem isInside_spelled (hq : isQuote mark = true) (t : Text) : IsInside mark (spelled mark t) := by
  induction t with
  | nil => exact .nil
  | cons c t ih => exact (spelling_quoteChar hq c).isInside hq ih

theorem unescape_spelled (hq : isQuote mark = true) (t : Text) (position : Nat) {fuel : Nat}
    (enough : (spelled mark t).length ≤ fuel) :
    unescape fuel position (spelled mark t) = .ok t := by
  induction t generalizing fuel position with
  | nil => cases fuel <;> rfl
  | cons c t ih =>
    have spelling := spelling_quoteChar hq c
    have some := spelling.length_pos
    have parts : spelled mark (c :: t) = quoteChar mark c ++ spelled mark t := rfl
    rw [parts, List.length_append] at enough
    obtain ⟨fuel, rfl⟩ : ∃ less, fuel = less + 1 := ⟨fuel - 1, by omega⟩
    obtain ⟨next, decoded⟩ := spelling.unescape fuel position (spelled mark t)
    rw [parts, decoded, ih next (by omega)]
    rfl

theorem quote_eq (t : Text) :
    quote t = quoteMark t :: (spelled (quoteMark t) t ++ [quoteMark t]) := rfl

theorem isQuote_iff {c : Char} : isQuote c = true ↔ c = '\x27' ∨ c = '\x22' := by
  simp [isQuote]

theorem isQuote_quoteMark (t : Text) : isQuote (quoteMark t) = true := by
  rw [quoteMark]
  split <;> rfl

/-- Nothing between quotes ends a line. -/
theorem quote_inLine (t : Text) : InLine (quote t) := by
  have hq := isQuote_quoteMark t
  have mark : isLineBoundary (quoteMark t) = false := isLineBoundary_eq_false hq (by decide)
  intro d hd
  rw [quote_eq, List.mem_cons, List.mem_append, List.mem_singleton] at hd
  rcases hd with rfl | hd | rfl
  · exact mark
  · obtain ⟨c, -, hc⟩ := List.mem_flatMap.mp hd
    exact (spelling_quoteChar hq c).inLine d hc
  · exact mark

theorem stringToken_spelled (hq : isQuote mark = true) (t : Text) :
    stringToken (spelled mark t) = .str t := by
  rw [stringToken, unescape_spelled hq t 0 (Nat.le_refl _)]

/-- A string that is not empty, or has no quote after it, does not start with three quotes. -/
theorem take_inside_ne (h : IsInside mark t) (notBackslash : '\\' ≠ mark)
    (after : rest.head? ≠ some mark) :
    ((t ++ mark :: rest).take 2 == [mark, mark]) = false := by
  cases h with
  | nil =>
    cases rest with
    | nil => simp
    | cons d rest => simpa using after
  | single other _ _ _ => simp [other]
  | pair _ _ => simp [notBackslash]

/-- A step inside a line over a string that no quote follows. -/
theorem innerStep_inside (here : Position) (hq : isQuote mark = true) {inside : Text}
    (h : IsInside mark inside) (decoded : stringToken inside = .str t)
    (after : rest.head?.any isQuote = false) :
    innerStep here (mark :: (inside ++ mark :: rest)) =
      .goes [⟨.str t, here.line, here.brackets.length⟩] false here rest := by
  have start : innerStep here (mark :: (inside ++ mark :: rest)) =
      stringStep false here (mark :: (inside ++ mark :: rest)) := by
    rcases isQuote_iff.mp hq with rfl | rfl <;> rfl
  have notBackslash : '\\' ≠ mark := by
    rintro rfl
    exact absurd hq (by decide)
  have other : rest.head? ≠ some mark := by
    intro same
    simp [same, hq] at after
  have single := take_inside_ne h notBackslash other
  have enough : inside.length < (inside ++ mark :: rest).length + 1 := by
    rw [List.length_append]
    omega
  have run := readString_inside hq h rest here.line here.line enough
  rw [start, stringStep]
  simp only [single, Bool.false_eq_true, if_false, run, decoded]

/-- A quoted text is read as one token, the text itself. -/
theorem innerStep_quote (here : Position) (t : Text) (after : rest.head?.any isQuote = false) :
    innerStep here (quote t ++ rest) =
      .goes [⟨.str t, here.line, here.brackets.length⟩] false here rest := by
  have hq := isQuote_quoteMark t
  have parts : quote t ++ rest =
      quoteMark t :: (spelled (quoteMark t) t ++ quoteMark t :: rest) := by
    rw [quote_eq, List.cons_append, List.append_assoc, List.singleton_append]
  rw [parts]
  exact innerStep_inside here hq (isInside_spelled hq t) (stringToken_spelled hq t) after

end DocExamples.Script.Lexing
