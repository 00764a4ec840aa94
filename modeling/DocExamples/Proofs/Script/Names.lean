import DocExamples.Proofs.Script.Spelling

namespace DocExamples.Script.Lexing

open Text

variable {name rest : Text} {c d : Char}

/-- The fault of a character that cannot stand in an identifier. -/
def characterFault (c : Char) : Fault :=
  if isPrintable c then .invalidCharacter c else .unprintableCharacter c

theorem isIdentifier_iff_misplaced? (filled : name ≠ []) :
    isIdentifier name = true ↔ misplaced? name = none := by
  obtain ⟨c, tail, rfl⟩ := List.exists_cons_of_ne_nil filled
  rw [isIdentifier, misplaced?]
  cases startsIdentifier c <;> simp

/-- What is misplaced after a start of an identifier does not continue one. -/
theorem continuesIdentifier_of_misplaced? (start : name.head?.any startsIdentifier = true)
    (h : misplaced? name = some c) : c ∈ name ∧ continuesIdentifier c = false := by
  cases name with
  | nil => cases h
  | cons first tail =>
    have starts : startsIdentifier first = true := start
    rw [misplaced?, if_pos starts] at h
    exact ⟨List.mem_cons_of_mem first (List.mem_of_find?_eq_some h), by simpa using List.find?_some h⟩

theorem ne_of_startsName (hc : startsName c = true) (hd : startsName d = false) : c ≠ d := by
  rintro rfl
  rw [hc] at hd
  cases hd

theorem stringStart?_name (inside : name.all inName = true) (stop : rest.head?.any inName = false)
    (noQuote : rest.head?.any isQuote = false) : stringStart? (name ++ rest) = none := by
  obtain ⟨-, left⟩ := takeWhile_append_of_stops inside stop
  simp [stringStart?, left, noQuote]

theorem readToken_name (starts : startsName c = true) (inside : name.all inName = true)
    (stop : rest.head?.any inName = false) :
    readToken c (name ++ rest) =
      match misplaced? (c :: name) with
      | none => .ok (.name (c :: name), rest)
      | some c => .error (characterFault c) := by
  obtain ⟨taken, left⟩ := takeWhile_append_of_stops inside stop
  rw [readToken, if_pos starts, taken, left]
  cases misplaced? (c :: name) <;> rfl

/-- Inside a line a character of a name is no blank, no comment and no continuation of the line. -/
theorem innerStep_of_startsName (here : Position) (starts : startsName c = true) (text : Text) :
    innerStep here (c :: text) = tokenStep here c text := by
  have other {d : Char} (h : startsName d = false) : c ≠ d := ne_of_startsName starts h
  simp [innerStep, isLineBlank, other (d := ' ') rfl, other (d := '\t') rfl, other (d := '\x0c') rfl,
    other (d := '#') rfl, other (d := '\n') rfl, other (d := '\\') rfl]

/-- A run of characters of names is read as one name, or up to the character that is misplaced in it. -/
theorem innerStep_name (here : Position) (start : name.head?.any startsName = true)
    (inside : name.all inName = true) (stop : rest.head?.any inName = false)
    (noQuote : rest.head?.any isQuote = false) :
    innerStep here (name ++ rest) =
      match misplaced? name with
      | none => .goes [⟨.name name, here.line, here.brackets.length⟩] false here rest
      | some c => .ends ⟨[], .raised ⟨characterFault c, here.line⟩⟩ := by
  have noString := stringStart?_name inside stop noQuote
  cases name with
  | nil => cases start
  | cons c tail =>
    have starts : startsName c = true := start
    have other {d : Char} (h : startsName d = false) : c ≠ d := ne_of_startsName starts h
    rw [List.all_cons, Bool.and_eq_true] at inside
    rw [List.cons_append] at noString ⊢
    rw [innerStep_of_startsName here starts, tokenStep, noString]
    simp only [other (d := '(') rfl, other (d := '[') rfl, other (d := '\x7b') rfl, other (d := ')') rfl,
      other (d := ']') rfl, other (d := '\x7d') rfl, decide_false, Bool.or_self, Bool.false_eq_true,
      if_false, readToken_name starts inside.2 stop]
    cases misplaced? (c :: tail) <;> rfl

/-- The reading after steps that read no string ends as the reading does to which they lead. -/
theorem finish_read_of_walk {count fuel : Nat} {fresh next : Bool} {here there : Position} {text : Text}
    {tokens : List Token} (h : walk count fresh here text = some (tokens, next, there, rest)) :
    (read (fuel + count) fresh here text).finish = (read fuel next there rest).finish := by
  induction count generalizing fresh here text tokens with
  | zero =>
    cases h
    rfl
  | succ count ih =>
    rw [walk] at h
    split at h
    · cases h
    · next move =>
      split at h
      · cases h
      · obtain ⟨⟨further, left⟩, walked, same⟩ := Option.map_eq_some_iff.mp h
        cases same
        rw [← Nat.add_assoc, read, move]
        exact ih walked

end DocExamples.Script.Lexing
