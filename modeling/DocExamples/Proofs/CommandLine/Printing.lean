import DocExamples.Proofs.CommandLine.Payload
import DocExamples.Proofs.Enumeration
import DocExamples.Proofs.TestModule.Emission

namespace DocExamples

open Text

namespace CommandLine

open Json

variable {text rest line : Text}

/-- The characters between the bracket of a control sequence and its last letter. -/
def isParameter (c : Char) : Bool := isAsciiDigit c || c == ';' || c == '?'

theorem afterControl?_bracket (text : Text) : afterControl? (escape :: '[' :: text) =
    match text.dropWhile isParameter with
    | c :: rest => if isAsciiLetter c then some rest else none
    | [] => none := rfl

theorem afterControl?_of_not_started (h : ¬ [escape, '['] <+: text) : afterControl? text = none := by
  rw [afterControl?]
  intro rest same
  exact h ⟨rest, same.symm⟩

theorem length_of_afterControl? (h : afterControl? text = some rest) : rest.length < text.length := by
  by_cases start : [escape, '['] <+: text
  · obtain ⟨inner, rfl⟩ := start
    have shorter : (inner.dropWhile isParameter).length ≤ inner.length :=
      (List.dropWhile_sublist isParameter).length_le
    change afterControl? (escape :: '[' :: inner) = some rest at h
    rw [afterControl?_bracket] at h
    split at h
    · next c others shown =>
      split at h
      · cases h
        rw [shown, List.length_cons] at shorter
        simp only [List.cons_append, List.nil_append, List.length_cons]
        omega
      · cases h
    · cases h
  · rw [afterControl?_of_not_started start] at h
    cases h

/-- A control sequence ends in its line. -/
theorem afterControl?_append (line rest : Text) :
    afterControl? (line ++ '\n' :: rest) = (afterControl? line).map (· ++ '\n' :: rest) := by
  by_cases start : [escape, '['] <+: line
  · obtain ⟨inner, rfl⟩ := start
    have stops : ('\n' :: rest).dropWhile isParameter = '\n' :: rest := rfl
    have noLetter : isAsciiLetter '\n' = false := rfl
    change afterControl? (escape :: '[' :: (inner ++ '\n' :: rest)) =
      (afterControl? (escape :: '[' :: inner)).map (· ++ '\n' :: rest)
    rw [afterControl?_bracket, afterControl?_bracket, List.dropWhile_append, stops]
    cases inner.dropWhile isParameter with
    | nil => simp [noLetter]
    | cons c others => cases letter : isAsciiLetter c <;> simp [letter]
  · have start' : ¬ [escape, '['] <+: line ++ '\n' :: rest := by
      intro h
      match line, start, h with
      | [], _, h => exact absurd (List.cons_prefix_cons.mp h).1 (by decide)
      | [c], _, h =>
        have second := (List.cons_prefix_cons.mp h).2
        exact absurd (List.cons_prefix_cons.mp second).1 (by decide)
      | _ :: _ :: _, start, h =>
        exact start (List.prefix_of_prefix_length_le h (List.prefix_append _ _) (by simp))
    rw [afterControl?_of_not_started start, afterControl?_of_not_started start', Option.map_none]

theorem withoutControlsFrom_eq {fuel fuel' : Nat} (enough : text.length ≤ fuel)
    (enough' : text.length ≤ fuel') : withoutControlsFrom fuel text = withoutControlsFrom fuel' text := by
  induction fuel generalizing fuel' text with
  | zero =>
    obtain rfl := List.length_eq_zero_iff.mp (Nat.le_zero.mp enough)
    cases fuel' <;> rfl
  | succ fuel ih =>
    cases text with
    | nil => cases fuel' <;> rfl
    | cons c text =>
      rw [List.length_cons] at enough enough'
      cases fuel' with
      | zero => omega
      | succ fuel' =>
        rw [withoutControlsFrom, withoutControlsFrom]
        cases control : afterControl? (c :: text) with
        | none => exact congrArg (c :: ·) (ih (by omega) (by omega))
        | some rest =>
          have shorter := length_of_afterControl? control
          rw [List.length_cons] at shorter
          exact ih (by omega) (by omega)

theorem withoutControls_cons (c : Char) (text : Text) :
    withoutControls (c :: text) =
      match afterControl? (c :: text) with
      | some rest => withoutControls rest
      | none => c :: withoutControls text := by
  rw [withoutControls, List.length_cons, withoutControlsFrom]
  cases control : afterControl? (c :: text) with
  | none => rfl
  | some rest =>
    have shorter := length_of_afterControl? control
    rw [List.length_cons] at shorter
    exact withoutControlsFrom_eq (by omega) (Nat.le_refl _)

/-- A text is read by control sequences and single characters. -/
theorem control_induction {P : Text → Prop} (nil : P [])
    (control : ∀ c text rest, afterControl? (c :: text) = some rest → P rest → P (c :: text))
    (plain : ∀ c text, afterControl? (c :: text) = none → P text → P (c :: text)) (text : Text) :
    P text := by
  induction hn : text.length using Nat.strong_induction_on generalizing text with
  | _ n ih =>
    cases text with
    | nil => exact nil
    | cons c text =>
      subst hn
      cases found : afterControl? (c :: text) with
      | none => exact plain c text found (ih _ (by simp) text rfl)
      | some rest => exact control c text rest found (ih _ (length_of_afterControl? found) rest rfl)

/-- Control sequences are left out line by line. -/
theorem withoutControls_append (line rest : Text) :
    withoutControls (line ++ '\n' :: rest) = withoutControls line ++ '\n' :: withoutControls rest := by
  have across (c : Char) (text : Text) : afterControl? (c :: (text ++ '\n' :: rest)) =
      (afterControl? (c :: text)).map (· ++ '\n' :: rest) := afterControl?_append (c :: text) rest
  induction line using control_induction with
  | nil =>
    have plain : afterControl? ('\n' :: rest) = none := afterControl?_append [] rest
    rw [List.nil_append, withoutControls_cons, plain]
    rfl
  | control c text after found ih =>
    rw [List.cons_append, withoutControls_cons, withoutControls_cons, across, found]
    exact ih
  | plain c text found ih =>
    rw [List.cons_append, withoutControls_cons, withoutControls_cons, across, found]
    exact congrArg (c :: ·) ih

theorem length_withoutControls_le (text : Text) : (withoutControls text).length ≤ text.length := by
  induction text using control_induction with
  | nil => exact Nat.le_refl _
  | control c text rest found ih =>
    have shorter := length_of_afterControl? found
    rw [withoutControls_cons, found]
    dsimp only
    omega
  | plain c text found ih =>
    rw [withoutControls_cons, found]
    exact Nat.succ_le_succ ih

/-- A text that is printed as it is. -/
def IsPrintedWhole (text : Text) : Prop := withoutControls text = text

instance (text : Text) : Decidable (IsPrintedWhole text) :=
  inferInstanceAs (Decidable (withoutControls text = text))

theorem isPrintedWhole_of_not_mem (h : escape ∉ text) : IsPrintedWhole text :=
  withoutControlsFrom_of_not_mem h _

theorem isPrintedWhole_append_iff :
    IsPrintedWhole (line ++ '\n' :: rest) ↔ IsPrintedWhole line ∧ IsPrintedWhole rest := by
  simp only [IsPrintedWhole, withoutControls_append]
  constructor
  · intro same
    have first := length_withoutControls_le line
    have second := length_withoutControls_le rest
    have both := congrArg List.length same
    simp only [List.length_append, List.length_cons] at both
    obtain ⟨first, second⟩ := List.append_inj same (by omega)
    exact ⟨first, (List.cons.inj second).2⟩
  · rintro ⟨first, second⟩
    rw [first, second]

theorem isPrintedWhole_joinWith_iff {lines : List Text} :
    IsPrintedWhole (joinWith ['\n'] lines) ↔ ∀ line ∈ lines, IsPrintedWhole line := by
  induction lines with
  | nil => simp [joinWith, isPrintedWhole_of_not_mem]
  | cons line lines ih =>
    by_cases last : lines = []
    · simp [last, joinWith]
    · rw [joinWith_cons last, isPrintedWhole_append_iff, ih, List.forall_mem_cons]

/-- What stands in front of a text without a control sequence is no part of one. -/
theorem isPrintedWhole_lead_iff {lead : Text} (h : escape ∉ lead) :
    IsPrintedWhole (lead ++ text) ↔ IsPrintedWhole text := by
  induction lead with
  | nil => rfl
  | cons c lead ih =>
    rw [List.mem_cons, not_or] at h
    have plain : afterControl? (c :: (lead ++ text)) = none := by
      refine afterControl?_of_not_started fun start => ?_
      exact h.1 (List.cons_prefix_cons.mp start).1
    rw [← ih h.2, IsPrintedWhole, List.cons_append, withoutControls_cons, plain]
    simp [IsPrintedWhole]

end CommandLine

namespace TestModule

open Json CommandLine Script.Lexing

variable {comment name line : Text} {e : Example}

theorem escape_not_mem_of_all {p : Char → Bool} (h : name.all p = true) (hp : p escape = false) :
    escape ∉ name := by
  intro mem
  rw [List.all_eq_true.mp h escape mem] at hp
  cases hp

theorem escape_not_mem_quoteChar {mark : Char} (hq : isQuote mark = true) (c : Char) :
    escape ∉ quoteChar mark c := by
  have number (letter : Char) (h : letter ≠ escape) (width n : Nat) :
      escape ∉ '\\' :: letter :: hexDigits width n := by
    rw [List.mem_cons, List.mem_cons, not_or, not_or]
    exact ⟨by decide, h.symm, escape_not_mem_hexDigits width n⟩
  rw [quoteChar]
  split
  · next kept =>
    have other : escape ≠ c := by
      rintro rfl
      rw [Bool.or_eq_true, decide_eq_true_eq, decide_eq_true_eq] at kept
      rcases kept with rfl | same
      · exact absurd hq (by decide)
      · exact absurd same (by decide)
    rw [List.mem_cons, List.mem_singleton, not_or]
    exact ⟨by decide, other⟩
  iterate 3
    split
    · decide
  split
  · next printable =>
    intro mem
    rw [← List.mem_singleton.mp mem] at printable
    exact absurd printable (by decide +kernel)
  split
  · exact number 'x' (by decide) _ _
  split
  · exact number 'u' (by decide) _ _
  · exact number 'U' (by decide) _ _

theorem escape_not_mem_quote (t : Text) : escape ∉ quote t := by
  have hq := isQuote_quoteMark t
  have mark : escape ≠ quoteMark t := by
    intro same
    rw [← same] at hq
    exact absurd hq (by decide)
  rw [quote_eq, List.mem_cons, List.mem_append, List.mem_singleton, not_or, not_or]
  refine ⟨mark, ?_, mark⟩
  intro mem
  obtain ⟨c, -, mem⟩ := List.mem_flatMap.mp mem
  exact escape_not_mem_quoteChar hq c mem

theorem escape_not_mem_of_mem_codeAssignment {code row : Text} (h : row ∈ codeAssignment code) :
    escape ∉ row := by
  rw [codeAssignment] at h
  split at h
  · obtain rfl := List.mem_singleton.mp h
    exact List.not_mem_append (by decide) (escape_not_mem_quote code)
  · simp only [List.mem_append, List.mem_cons, List.mem_map, List.not_mem_nil, or_false] at h
    rcases h with (rfl | ⟨line, -, rfl⟩) | rfl
    · decide
    · exact List.not_mem_append (by decide) (escape_not_mem_quote line)
    · decide

theorem escape_not_mem_of_mem_methodLines (h : name.all isWord = true)
    (mem : line ∈ methodLines comment name e) : escape ∉ line := by
  have noEscape : escape ∉ name := escape_not_mem_of_all h (by decide +kernel)
  rw [methodLines_eq] at mem
  simp only [aboveLines, belowLines, List.mem_append, List.mem_cons, List.mem_map, List.not_mem_nil,
    or_false] at mem
  rcases mem with (((rfl | rfl) | ⟨row, code, rfl⟩) | rfl | rfl) | rfl |
    ((rfl | rfl) | ⟨expected, -, rfl⟩) | rfl
  · exact List.not_mem_append (List.not_mem_append (by decide) noEscape) (by decide)
  · exact List.not_mem_append (by decide) (escape_not_mem_quote e.name)
  · exact List.not_mem_append (by decide) (escape_not_mem_of_mem_codeAssignment code)
  · decide
  · exact List.not_mem_append (List.not_mem_append (by decide) (escape_not_mem_quote _)) (by decide)
  · exact List.not_mem_nil
  · decide
  · decide
  · exact List.not_mem_append (List.not_mem_append (by decide) (escape_not_mem_quote _)) (by decide)
  · decide

theorem mem_of_mem_indentLines {lead listing : Text} {c : Char} (mem : c ∈ indentLines lead listing) :
    c ∈ lead ∨ c ∈ listing := by
  rw [indentLines] at mem
  obtain ⟨line, inside, mem⟩ := List.mem_flatMap.mp mem
  have here (h : c ∈ line) : c ∈ listing := by
    rw [← flatten_wholeLines listing]
    exact List.mem_flatten_of_mem inside h
  split at mem
  · exact .inr (here mem)
  · exact (List.mem_append.mp mem).imp_right here

theorem escape_not_mem_method (h : name.all isWord = true) : escape ∉ method comment name e := by
  intro mem
  rcases mem_of_mem_indentLines mem with mem | mem
  · exact absurd mem (by decide)
  · rcases mem_joinWith mem with mem | ⟨line, inside, mem⟩
    · exact absurd mem (by decide)
    · exact escape_not_mem_of_mem_methodLines h inside mem

theorem escape_not_mem_of_mem_methods {es : List Example} {text : Text}
    (mem : text ∈ methods comment es) : escape ∉ text := by
  have all : List.Forall₂ (fun _ next => escape ∉ next.2) es (definitionsFrom comment [] es) :=
    forall₂_definitionsFrom (fun taken e => escape_not_mem_method (all_isWord_methodName taken e.name))
      [] es
  rw [methods, ← map_snd_definitionsFrom] at mem
  obtain ⟨next, inside, rfl⟩ := List.mem_map.mp mem
  obtain ⟨e, -, plain⟩ := Enumerates.exists_mem_of_mem all.flip inside
  exact plain

theorem escape_not_mem_of_checkClassName (valid : checkClassName name = none) : escape ∉ name := by
  rw [checkClassName] at valid
  split at valid
  · cases valid
  · next proper =>
    rw [Bool.or_eq_true, not_or, Bool.not_eq_true', Bool.not_eq_false] at proper
    cases name with
    | nil => exact List.not_mem_nil
    | cons c rest =>
      obtain ⟨first, others⟩ := Bool.and_eq_true_iff.mp proper.1
      rw [List.mem_cons, not_or]
      refine ⟨?_, escape_not_mem_of_all others (by decide +kernel)⟩
      rintro rfl
      exact absurd first (by decide +kernel)

/-- Of the text of a module with a proper class name everything is printed, unless an import holds a control
sequence. -/
theorem isPrintedWhole_render_iff {className : Text} {usings methods : List Text}
    (valid : checkClassName className = none) (plain : ∀ text ∈ methods, escape ∉ text) :
    IsPrintedWhole (render className usings methods) ↔ ∀ name ∈ usings, IsPrintedWhole name := by
  have first : ∀ line ∈ header ++ imports, IsPrintedWhole line := by decide
  have imported : (∀ line ∈ usingLines usings, IsPrintedWhole line) ↔
      ∀ name ∈ usings, IsPrintedWhole name := by
    have after (name : Text) : IsPrintedWhole ("import ".toList ++ name) ↔ IsPrintedWhole name :=
      isPrintedWhole_lead_iff (by decide)
    rw [usingLines]
    split
    · next none => simp [List.isEmpty_iff.mp none]
    · rw [List.forall_mem_cons, List.forall_mem_map]
      simp only [after, isPrintedWhole_of_not_mem List.not_mem_nil, true_and]
  have title : escape ∉ "class ".toList ++ className ++ [':'] :=
    List.not_mem_append (List.not_mem_append (by decide) (escape_not_mem_of_checkClassName valid))
      (by decide)
  have body : escape ∉ joinWith ['\n', '\n'] methods := by
    intro mem
    rcases mem_joinWith mem with mem | ⟨text, inside, mem⟩
    · exact absurd mem (by decide)
    · exact plain text inside mem
  have last : ∀ line ∈ [[], [], "class ".toList ++ className ++ [':'],
      if methods.isEmpty then step ++ "pass".toList else joinWith ['\n', '\n'] methods, []],
      IsPrintedWhole line := by
    have empty : IsPrintedWhole [] := rfl
    have filled : IsPrintedWhole
        (if methods.isEmpty then step ++ "pass".toList else joinWith ['\n', '\n'] methods) := by
      split
      · decide
      · exact isPrintedWhole_of_not_mem body
    simp only [List.forall_mem_cons, List.not_mem_nil, false_imp_iff, implies_true, and_true]
    exact ⟨empty, empty, isPrintedWhole_of_not_mem title, filled, empty⟩
  rw [render, isPrintedWhole_joinWith_iff, ← imported]
  simp only [List.mem_append] at first ⊢
  constructor
  · exact fun all line mem => all line (.inl (.inr mem))
  · rintro all line ((mem | mem) | mem)
    · exact first line mem
    · exact all line mem
    · exact last line mem

end TestModule

end DocExamples
