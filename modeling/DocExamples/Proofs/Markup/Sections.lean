import DocExamples.Proofs.Markup.Building

namespace DocExamples.Markup

open Text

/-- What ends a marked section. -/
def IsClose (close : Text) : Prop :=
  ∃ gap gap', gap.all isBlank = true ∧ gap'.all isBlank = true ∧
    close = ']' :: (gap ++ ']' :: (gap' ++ ['>']))

/-- A text in which a marked section would end. -/
def HoldsClose (text : Text) : Prop := ∃ close, IsClose close ∧ close <:+: text

namespace Token

variable {text close rest before inside : Text}

/-- What follows the close that a text starts with. -/
def closeAt? (text : Text) : Option Text := do
  let rest ← after? [']'] text
  let rest ← (after? [']'] (rest.dropWhile isBlank)).map (·.dropWhile isBlank)
  after? ['>'] rest

/-- The text of a section, and what follows its close. -/
def cutSection? (text : Text) : Option (Text × Text) := cutClose? [']'] (some ']') text

theorem cutSection?_cons (c : Char) (text : Text) :
    cutSection? (c :: text) =
      match closeAt? (c :: text) with
      | some rest => some ([], rest)
      | none => (cutSection? text).map fun (before, rest) => (c :: before, rest) := rfl

theorem closeAt?_eq_some_iff : closeAt? text = some rest ↔ ∃ close, IsClose close ∧ text = close ++ rest := by
  constructor
  · intro h
    obtain ⟨opened, first, h⟩ := Option.bind_eq_some_iff.mp h
    obtain ⟨left, second, third⟩ := Option.bind_eq_some_iff.mp h
    obtain ⟨inner, marked, rfl⟩ := Option.map_eq_some_iff.mp second
    rw [after?_eq_some_iff] at first marked third
    refine ⟨_, ⟨opened.takeWhile isBlank, inner.takeWhile isBlank, List.all_takeWhile,
      List.all_takeWhile, rfl⟩, ?_⟩
    have outer : opened = opened.takeWhile isBlank ++ ([']'] ++ inner) := by
      rw [← marked, List.takeWhile_append_dropWhile]
    have between : inner = inner.takeWhile isBlank ++ (['>'] ++ rest) := by
      rw [← third, List.takeWhile_append_dropWhile]
    rw [first]
    conv_lhs => rw [outer, between]
    simp
  · rintro ⟨_, ⟨gap, gap', blank, blank', rfl⟩, rfl⟩
    have outer := @takeWhile_append_of_stops isBlank gap (']' :: (gap' ++ '>' :: rest)) blank rfl
    have inner := @takeWhile_append_of_stops isBlank gap' ('>' :: rest) blank' rfl
    have shape : ']' :: (gap ++ ']' :: (gap' ++ ['>'])) ++ rest =
        ']' :: (gap ++ ']' :: (gap' ++ '>' :: rest)) := by simp
    rw [shape, closeAt?]
    simp [after?, outer.2, inner.2]

/-- A mark behind a gap stands in the first of two texts, or begins the second one. -/
theorem append_cases {gap word tail rest : Text} {c d : Char} (blank : gap.all isBlank = true)
    (visible : isBlank d = false) (h : word ++ d :: tail = gap ++ c :: rest) :
    (d = c ∧ tail = rest) ∨ ∃ more, word = gap ++ c :: more ∧ rest = more ++ d :: tail := by
  rcases List.append_eq_append_iff.mp h with ⟨further, same, next⟩ | ⟨more, same, next⟩
  · cases further with
    | nil => exact .inl (List.cons.inj next)
    | cons e further =>
      obtain ⟨rfl, -⟩ := List.cons.inj next
      rw [same, List.all_append, List.all_cons, visible] at blank
      simp at blank
  · cases more with
    | nil =>
      obtain ⟨rfl, same⟩ := List.cons.inj next
      exact .inl ⟨rfl, same.symm⟩
    | cons e more =>
      obtain ⟨rfl, left⟩ := List.cons.inj next
      exact .inr ⟨more, same, left⟩

/-- A close that begins in a text ends in it, if `]]>` comes after the text. -/
theorem exists_closeAt?_of_append {c : Char} {left : Text}
    (h : closeAt? (c :: text ++ "]]>".toList ++ rest) = some left) : ∃ last, closeAt? (c :: text) = some last := by
  obtain ⟨_, ⟨gap, gap', blank, blank', rfl⟩, same⟩ := closeAt?_eq_some_iff.mp h
  have whole : c :: (text ++ ']' :: ']' :: '>' :: rest) = ']' :: (gap ++ ']' :: (gap' ++ '>' :: left)) := by
    simpa using same
  obtain ⟨first, shape⟩ := List.cons.inj whole
  have bracket : isBlank ']' = false := by decide
  rcases append_cases blank bracket shape with ⟨-, tails⟩ | ⟨more, inText, tails⟩
  · -- The second bracket of the close would begin `]]>`, and the `>` of the close would be a bracket.
    cases gap' with
    | nil => exact absurd (List.cons.inj tails).1 (by decide)
    | cons d gap' =>
      rw [List.all_cons, ← (List.cons.inj tails).1, bracket] at blank'
      simp at blank'
  · rcases append_cases blank' bracket tails.symm with ⟨mark, -⟩ | ⟨last, inMore, -⟩
    · exact absurd mark (by decide)
    · refine ⟨last, closeAt?_eq_some_iff.mpr ⟨_, ⟨gap, gap', blank, blank', rfl⟩, ?_⟩⟩
      rw [first, inText, inMore]
      simp

theorem closeAt?_append (c : Char) (text rest : Text) :
    closeAt? (c :: text ++ "]]>".toList ++ rest) =
      (closeAt? (c :: text)).map (· ++ "]]>".toList ++ rest) := by
  cases h : closeAt? (c :: text) with
  | some left =>
    obtain ⟨close, isClose, same⟩ := closeAt?_eq_some_iff.mp h
    rw [Option.map_some, closeAt?_eq_some_iff, same]
    exact ⟨close, isClose, by simp⟩
  | none =>
    rw [Option.map_none, Option.eq_none_iff_forall_ne_some]
    intro left found
    obtain ⟨last, inside⟩ := exists_closeAt?_of_append found
    rw [inside] at h
    cases h

/-- A section that `]]>` is written after ends there, unless its text holds a close. -/
theorem cutSection?_append (text rest : Text) :
    cutSection? (text ++ "]]>".toList ++ rest) =
      match cutSection? text with
      | some (inside, left) => some (inside, left ++ "]]>".toList ++ rest)
      | none => some (text, rest) := by
  induction text with
  | nil => rfl
  | cons c text ih =>
    have more := closeAt?_append c text rest
    rw [List.cons_append, List.cons_append] at more ⊢
    rw [cutSection?_cons, cutSection?_cons, more, ih]
    cases closeAt? (c :: text) with
    | some left => rfl
    | none => cases cutSection? text <;> rfl

/-- The text that is cut off a section goes up to a close. -/
theorem exists_close_of_cutSection? (h : cutSection? text = some (inside, rest)) :
    ∃ close, IsClose close ∧ text = inside ++ (close ++ rest) := by
  induction text generalizing inside with
  | nil => cases h
  | cons c text ih =>
    rw [cutSection?_cons] at h
    split at h
    · next left closed =>
      cases h
      exact closeAt?_eq_some_iff.mp closed
    · obtain ⟨⟨before, left⟩, further, same⟩ := Option.map_eq_some_iff.mp h
      cases same
      obtain ⟨close, isClose, rfl⟩ := ih further
      exact ⟨close, isClose, rfl⟩

theorem cutSection?_eq_none_iff : cutSection? text = none ↔ ¬ HoldsClose text := by
  constructor
  · rintro h ⟨close, isClose, before, after, rfl⟩
    induction before with
    | nil =>
      have here : closeAt? (close ++ after) = some after := closeAt?_eq_some_iff.mpr ⟨close, isClose, rfl⟩
      obtain ⟨gap, gap', -, -, rfl⟩ := isClose
      rw [List.nil_append, List.cons_append, cutSection?_cons, ← List.cons_append, here] at h
      cases h
    | cons c before ih =>
      rw [List.cons_append, List.cons_append, cutSection?_cons] at h
      split at h
      · cases h
      · exact ih (Option.map_eq_none_iff.mp h)
  · intro h
    rw [Option.eq_none_iff_forall_ne_some]
    rintro ⟨inside, rest⟩ found
    obtain ⟨close, isClose, rfl⟩ := exists_close_of_cutSection? found
    exact h ⟨close, isClose, inside, rest, by simp⟩

/-- The name of a section stands before its text. -/
theorem cutSection?_named (h : cutSection? text = some (inside, rest)) :
    cutSection? ("CDATA[".toList ++ text) = some ("CDATA[".toList ++ inside, rest) := by
  have other {c : Char} (hc : c ≠ ']') (text : Text) :
      cutSection? (c :: text) = (cutSection? text).map fun (before, rest) => (c :: before, rest) := by
    have none : closeAt? (c :: text) = none := by
      rw [closeAt?, after?, if_neg hc.symm]
      rfl
    rw [cutSection?_cons, none]
  change cutSection? ('C' :: 'D' :: 'A' :: 'T' :: 'A' :: '[' :: text) = _
  rw [other (by decide), other (by decide), other (by decide), other (by decide), other (by decide),
    other (by decide), h]
  rfl

theorem readSection_named (h : cutSection? text = some (inside, rest)) :
    readSection ("CDATA[".toList ++ text) = .tokens [.aside .cdata inside] none rest := by
  have letter : isAsciiLetter 'C' = true := by decide
  have known : closedByTwo.contains ("CDATA".toList.map Char.toLower) = true := by decide
  have name : ('C' :: ("DATA[".toList ++ text)).takeWhile inSectionName = "CDATA".toList := rfl
  have left : ((('C' :: ("DATA[".toList ++ text)).drop "CDATA".toList.length).dropWhile
      isBlank).isEmpty = false := rfl
  have cut : cutClose? [']'] (some ']') ('C' :: ("DATA[".toList ++ text)) =
      some ("CDATA[".toList ++ inside, rest) := cutSection?_named h
  change readSection ('C' :: ("DATA[".toList ++ text)) = _
  rw [readSection, if_pos letter, name]
  dsimp only
  rw [left, known, cut]
  rfl

/-- A pass reads a section up to its close. -/
theorem step_section (final : Bool) (h : cutSection? text = some (inside, rest)) :
    step final none ("<![CDATA[".toList ++ text) = .goes [.aside .cdata inside] none rest := by
  have read : readMarkup? ('!' :: '[' :: ("CDATA[".toList ++ text)) =
      some (.tokens [.aside .cdata inside] none rest) := by
    rw [readMarkup?, readDeclaration, readSection_named h]
  exact step_markup final read

/-- A text that a pass reads as the given tokens, whatever comes after it. -/
def Reads (text : Text) (found : List Token) : Prop :=
  ∀ final rest, ReadsTo final (text ++ rest) found rest

theorem Reads.append {text' : Text} {found found' : List Token} (h : Reads text found)
    (h' : Reads text' found') : Reads (text ++ text') (found ++ found') := by
  intro final rest
  rw [List.append_assoc]
  exact (h final _).trans (h' final rest)

/-- A section whose text holds no close is read as that text. -/
theorem reads_section (h : ¬ HoldsClose text) :
    Reads ("<![CDATA[".toList ++ (text ++ "]]>".toList)) [.aside .cdata text] := by
  intro final rest
  have cut := cutSection?_append text rest
  rw [cutSection?_eq_none_iff.mpr h] at cut
  rw [List.append_assoc]
  exact .of_step (step_section final cut)

end Token

/-- Text with references for the three characters that begin or end markup. -/
def escapeText (text : Text) : Text := text.flatMap fun c => if c = '"' then [c] else escapeChar c

namespace Token

theorem readsTo_escapeText_cons (final : Bool) (c : Char) (text rest : Text) :
    ReadsTo final (escapeText (c :: text) ++ rest) [.data [c]] (escapeText text ++ rest) := by
  rw [escapeText, List.flatMap_cons, List.append_assoc]
  split
  · next quote =>
    rw [quote]
    exact .plain rfl _
  · exact readsTo_escapeChar final c _

theorem reads_escapeText (text : Text) : Reads (escapeText text) (text.map fun c => .data [c]) := by
  intro final rest
  induction text with
  | nil => exact .refl final rest
  | cons c text ih => exact (readsTo_escapeText_cons final c text rest).trans ih

end Token

namespace Builder

variable {found : List Token} {inside : Content} {text : Text} {tag : Tag}

/-- Tokens that put further siblings into a tree under construction, wherever strings are prose. -/
def Joins (found : List Token) (content : Content) : Prop :=
  ∀ b : Builder, b.IsOrdinary → (found.foldl take b).endString = b.append content

theorem joins_characters (visible : text.all isMarkupBlank = false) :
    Joins (text.map fun c => .data [c]) (.string .plain text .done) :=
  fun _ ordinary => endString_characters ordinary visible

theorem joins_section (visible : text.all isMarkupBlank = false) :
    Joins [.aside .cdata text] (.string .cdata text .done) := by
  rintro b ⟨pending, -, collapses, -⟩
  have kept : collapse text = text := by
    rw [collapse, visible]
    rfl
  change (b.endString.addString .cdata text).endString = _
  rw [endString_of_pending pending, endString_of_pending (by rw [pending_addString, pending]), addString,
    collapses]
  simp only [Bool.false_eq_true, if_false, kept]
  obtain ⟨elements, outside, waiting, early⟩ := b
  cases elements <;> rfl

theorem Joins.element (h : Joins found inside) (ordinary : tag.IsOrdinary) :
    Joins ([.start tag false] ++ (found ++ [.stop tag.name])) (.element tag inside .done) := by
  intro b hb
  have inner := h (b.enter tag) (enter_isOrdinary hb ordinary)
  have closed := endTag_enter hb inner
  rw [List.foldl_append, List.foldl_append]
  change ((found.foldl take (b.startTag tag false)).endTag tag.name).endString = _
  rw [startTag_eq_enter hb ordinary, closed, endString_of_pending (append_isOrdinary hb _).pending]

end Builder

/-- A text that is markup of the given siblings. -/
def Marks (text : Text) (content : Content) : Prop :=
  ∃ found, Token.Reads text found ∧ Builder.Joins found content

namespace Marks

variable {text : Text} {content inside : Content} {tag : Tag}

/-- Text with references is markup of the text. -/
theorem escapeText (visible : text.all isMarkupBlank = false) :
    Marks (escapeText text) (.string .plain text .done) :=
  ⟨_, Token.reads_escapeText text, Builder.joins_characters visible⟩

/-- So is a section with the text, unless the text holds a close. -/
theorem inSection (visible : text.all isMarkupBlank = false) (h : ¬ HoldsClose text) :
    Marks ("<![CDATA[".toList ++ (text ++ "]]>".toList)) (.string .cdata text .done) :=
  ⟨_, Token.reads_section h, Builder.joins_section visible⟩

theorem element (h : Marks text inside) (ordinary : tag.IsOrdinary) :
    Marks (tag.write ++ (text ++ ('<' :: '/' :: tag.name ++ ['>']))) (.element tag inside .done) := by
  obtain ⟨found, reads, joins⟩ := h
  refine ⟨_, ?_, joins.element ordinary⟩
  have start : Token.Reads tag.write [.start tag false] := fun final rest =>
    Token.readsTo_start ordinary.toIsPlain ordinary.notRaw final rest
  have stop : Token.Reads ('<' :: '/' :: tag.name ++ ['>']) [.stop tag.name] := by
    intro final rest
    rw [List.append_assoc]
    exact Token.readsTo_stop ordinary.name final rest
  exact start.append (reads.append stop)

/-- A document has the tree that it is markup of. -/
theorem ofText? (h : Marks text content) : Content.ofText? text = some content := by
  obtain ⟨found, reads, joins⟩ := h
  have read := reads false []
  rw [List.append_nil] at read
  have ordinary : Builder.empty.IsOrdinary := ⟨rfl, rfl, rfl, rfl⟩
  rw [Content.ofText?_of_readsTo read, Content.ofTokens, Builder.finish, joins _ ordinary]
  exact congrArg some (Content.reverse_reverseOnto content .done)

end Marks

end DocExamples.Markup
