import DocExamples.Proofs.Markup.Writing

namespace DocExamples.Markup

open Text

namespace Content

def write : Content → Text
  | done => []
  | string _ text next => escape text ++ next.write
  | element tag inside next =>
    tag.write ++ (inside.write ++ ('<' :: '/' :: tag.name ++ '>' :: next.write))

/-- The tokens of written markup, one for each character of a string. -/
def tokens : Content → List Token
  | done => []
  | string _ text next => (text.map fun c => .data [c]) ++ next.tokens
  | element tag inside next => [.start tag false] ++ (inside.tokens ++ ([.stop tag.name] ++ next.tokens))

end Content

/-- A plain tag of an element that may hold strings and elements, with strings that are prose. -/
structure Tag.IsOrdinary (tag : Tag) : Prop extends tag.IsPlain where
  holds : tag.name ∉ Builder.voidNames
  collapses : tag.name ∉ Builder.preservingNames
  prose : tag.name ∉ Builder.embeddingNames

/-- Trees that are written as they are read: their strings stand apart and are not white space alone. -/
inductive Content.IsWritable : Content → Prop
  | done : IsWritable .done
  | element {tag : Tag} {inside next : Content} (ordinary : tag.IsOrdinary) (hi : IsWritable inside)
    (hn : IsWritable next) : IsWritable (.element tag inside next)
  | lastString {text : Text} (visible : text.all isMarkupBlank = false) :
    IsWritable (.string .plain text .done)
  | stringBefore {text : Text} {tag : Tag} {inside next : Content}
    (visible : text.all isMarkupBlank = false) (hn : IsWritable (.element tag inside next)) :
    IsWritable (.string .plain text (.element tag inside next))

theorem Tag.IsOrdinary.notRaw {tag : Tag} (h : tag.IsOrdinary) : Token.RawElement.ofName? tag.name = none := by
  have script : tag.name ≠ Token.RawElement.script.name := by
    intro same
    exact h.prose (same ▸ by decide)
  have style : tag.name ≠ Token.RawElement.style.name := by
    intro same
    exact h.prose (same ▸ by decide)
  rw [Token.RawElement.ofName?, if_neg script, if_neg style]

namespace Content

theorem reverse_reverseOnto (content after : Content) :
    (content.reverseOnto after).reverse = after.reverseOnto content := by
  induction content generalizing after with
  | done => rfl
  | string kind text next ih => exact ih (.string kind text after)
  | element tag inside next _ ih => exact ih (.element tag inside after)

theorem readsTo_write {content : Content} (h : content.IsWritable) (final : Bool) (rest : Text) :
    Token.ReadsTo final (content.write ++ rest) content.tokens rest := by
  induction h generalizing rest with
  | done => exact .refl final rest
  | @element tag inside next ordinary _ _ inIH nextIH =>
    have shape : (element tag inside next).write ++ rest =
        tag.write ++ (inside.write ++ ('<' :: '/' :: tag.name ++ '>' :: (next.write ++ rest))) := by
      simp [write]
    rw [shape, tokens]
    have start := Token.readsTo_start ordinary.toIsPlain ordinary.notRaw final
      (inside.write ++ ('<' :: '/' :: tag.name ++ '>' :: (next.write ++ rest)))
    have stop := Token.readsTo_stop ordinary.name final (next.write ++ rest)
    exact start.trans ((inIH _).trans (stop.trans (nextIH rest)))
  | @lastString text _ =>
    rw [write, tokens, List.append_assoc]
    exact (Token.readsTo_escape final text _).trans (.refl final rest)
  | @stringBefore text _ _ _ _ _ nextIH =>
    rw [write, tokens, List.append_assoc]
    exact (Token.readsTo_escape final text _).trans (nextIH rest)

end Content

namespace Builder

/-- The tree under construction with further siblings at the end of its innermost open element. -/
def append (b : Builder) (content : Content) : Builder :=
  match b.openElements with
  | [] => { b with outside := content.reverseOnto b.outside }
  | element :: rest =>
    { b with openElements := { element with inside := content.reverseOnto element.inside } :: rest }

/-- A tree under construction inside ordinary elements, between two strings. -/
structure IsOrdinary (b : Builder) : Prop where
  pending : b.pending = none
  closedEarly : b.closedEarly = []
  collapses : b.isInside preservingNames = false
  prose : b.isInside embeddingNames = false

variable {b : Builder}

theorem endString_of_pending (h : b.pending = none) : b.endString = b := by
  rw [endString, h]

theorem pending_addString (b : Builder) (kind : StringKind) (text : Text) :
    (b.addString kind text).pending = b.pending := by
  unfold addString
  dsimp only
  split <;> rfl

theorem pending_endString (b : Builder) : b.endString.pending = none := by
  unfold endString
  split
  · assumption
  · rw [pending_addString]

theorem closedEarly_endString (b : Builder) : b.endString.closedEarly = b.closedEarly := by
  unfold endString
  split
  · rfl
  · unfold addString
    dsimp only
    split <;> rfl

theorem endString_endString (b : Builder) : b.endString.endString = b.endString :=
  endString_of_pending (pending_endString b)

theorem startTag_endString (b : Builder) (tag : Tag) : b.endString.startTag tag false = b.startTag tag false := by
  rw [startTag, startTag, endString_endString]

theorem append_isOrdinary (h : b.IsOrdinary) (content : Content) : (b.append content).IsOrdinary := by
  obtain ⟨pending, closedEarly, collapses, prose⟩ := h
  unfold append
  split
  · exact ⟨pending, closedEarly, collapses, prose⟩
  · next element rest he =>
    refine ⟨pending, closedEarly, ?_, ?_⟩
    · simpa [isInside, he] using collapses
    · simpa [isInside, he] using prose

theorem append_string (b : Builder) (kind : StringKind) (text : Text) (next : Content) :
    (b.append (.string kind text .done)).append next = b.append (.string kind text next) := by
  obtain ⟨elements, outside, pending, early⟩ := b
  cases elements <;> rfl

theorem append_element (b : Builder) (tag : Tag) (inside next : Content) :
    (b.append (.element tag inside .done)).append next = b.append (.element tag inside next) := by
  obtain ⟨elements, outside, pending, early⟩ := b
  cases elements <;> rfl

theorem append_done (b : Builder) : b.append .done = b := by
  obtain ⟨elements, outside, pending, early⟩ := b
  cases elements <;> rfl

theorem foldl_characters (b : Builder) (text : Text) :
    (text.map fun c => Token.data [c]).foldl take b =
      if text = [] then b else { b with pending := some (b.pending.getD [] ++ text) } := by
  induction text generalizing b with
  | nil => rfl
  | cons c text ih =>
    rw [List.map_cons, List.foldl_cons, ih]
    cases text <;> simp [take]

theorem ne_nil_of_visible {text : Text} (visible : text.all isMarkupBlank = false) : text ≠ [] := by
  rintro rfl
  exact absurd visible (by decide)

/-- A string that is not white space alone joins the tree as it is. -/
theorem endString_characters (h : b.IsOrdinary) {text : Text} (visible : text.all isMarkupBlank = false) :
    ((text.map fun c => Token.data [c]).foldl take b).endString = b.append (.string .plain text .done) := by
  obtain ⟨pending, -, collapses, prose⟩ := h
  rw [foldl_characters, if_neg (ne_nil_of_visible visible), pending]
  obtain ⟨elements, outside, waiting, early⟩ := b
  dsimp only at pending
  subst pending
  have kept : collapse text = text := by
    rw [collapse, visible]
    rfl
  have inside : ({ openElements := elements, outside, pending := some text, closedEarly := early } :
      Builder).isInside embeddingNames = false := prose
  have collapses' : ({ openElements := elements, outside, pending := none, closedEarly := early } :
      Builder).isInside preservingNames = false := collapses
  rw [endString]
  simp only [Option.getD_none, List.nil_append, inside, Bool.false_eq_true, if_false, addString,
    collapses', kept]
  cases elements <;> rfl

/-- The tree under construction inside a further element. -/
def enter (b : Builder) (tag : Tag) : Builder :=
  { b with openElements := { tag, inside := .done } :: b.openElements }

theorem startTag_eq_enter (h : b.IsOrdinary) {tag : Tag} (ordinary : tag.IsOrdinary) :
    b.startTag tag false = b.enter tag := by
  have holds : voidNames.contains tag.name = false := by
    simpa using ordinary.holds
  rw [startTag, endString_of_pending h.pending]
  simp only [Bool.false_eq_true, if_false, holds]
  rfl

theorem enter_isOrdinary (h : b.IsOrdinary) {tag : Tag} (ordinary : tag.IsOrdinary) :
    (b.enter tag).IsOrdinary := by
  have preserving : preservingNames.contains tag.name = false := by
    simpa using ordinary.collapses
  have embedding : embeddingNames.contains tag.name = false := by
    simpa using ordinary.prose
  refine ⟨h.pending, h.closedEarly, ?_, ?_⟩
  · rw [isInside, enter, List.any_cons, preserving]
    exact h.collapses
  · rw [isInside, enter, List.any_cons, embedding]
    exact h.prose

theorem closeInnermost_enter (b : Builder) (tag : Tag) (inside : Content) :
    ((b.enter tag).append inside).closeInnermost = b.append (.element tag inside .done) := by
  obtain ⟨elements, outside, waiting, early⟩ := b
  cases elements <;> simp only [enter, append, closeInnermost, Content.reverse_reverseOnto] <;> rfl

/-- The end tag of the innermost open element puts it among its siblings. -/
theorem endTag_enter (h : b.IsOrdinary) {inner : Builder} {tag : Tag} {inside : Content}
    (same : inner.endString = (b.enter tag).append inside) :
    inner.endTag tag.name = b.append (.element tag inside .done) := by
  have early : inner.closedEarly = [] := by
    rw [← closedEarly_endString, same]
    exact h.closedEarly
  have innermost : ((b.enter tag).append inside).openElements.findIdx?
      (fun element => element.tag.name == tag.name) = some 0 := by
    simp [enter, append, List.findIdx?_cons]
  rw [endTag, early, List.contains_nil]
  simp only [Bool.false_eq_true, if_false]
  rw [close, same, innermost]
  exact closeInnermost_enter b tag inside

end Builder

namespace Content

/-- The tokens of written markup join its siblings to a tree under construction. -/
theorem foldl_tokens {content : Content} (h : content.IsWritable) {b : Builder} (hb : b.IsOrdinary) :
    (content.tokens.foldl Builder.take b).endString = b.append content := by
  induction h generalizing b with
  | done => rw [tokens, List.foldl_nil, Builder.endString_of_pending hb.pending, Builder.append_done]
  | @element tag inside next ordinary _ _ inIH nextIH =>
    have inner := inIH (Builder.enter_isOrdinary hb ordinary)
    have closed := Builder.endTag_enter hb inner
    rw [tokens, List.foldl_append, List.foldl_append, List.foldl_append]
    change (next.tokens.foldl Builder.take ((inside.tokens.foldl Builder.take
      (b.startTag tag false)).endTag tag.name)).endString = _
    rw [Builder.startTag_eq_enter hb ordinary, closed,
      nextIH (Builder.append_isOrdinary hb _), Builder.append_element]
  | lastString visible =>
    rw [tokens, tokens, List.append_nil, Builder.endString_characters hb visible]
  | @stringBefore text tag inside next visible _ nextIH =>
    have before := Builder.endString_characters hb visible
    -- The start tag ends the string, so that it may as well be ended before.
    have later (b : Builder) : (element tag inside next).tokens.foldl Builder.take b =
        (element tag inside next).tokens.foldl Builder.take b.endString := by
      have start : b.endString.take (.start tag false) = b.take (.start tag false) :=
        Builder.startTag_endString b tag
      rw [tokens, List.singleton_append, List.foldl_cons, List.foldl_cons, start]
    rw [tokens, List.foldl_append, later, before, nextIH (Builder.append_isOrdinary hb _),
      Builder.append_string]

theorem ofTokens_tokens {content : Content} (h : content.IsWritable) : ofTokens content.tokens = content := by
  have ordinary : Builder.empty.IsOrdinary := ⟨rfl, rfl, rfl, rfl⟩
  rw [ofTokens, Builder.finish, foldl_tokens h ordinary]
  exact reverse_reverseOnto content .done

/-- A document has the tree that its tokens build, also if a pass reads them in other pieces. -/
theorem ofText?_of_readsTo {text : Text} {found : List Token} (h : Token.ReadsTo false text found []) :
    ofText? text = some (ofTokens found) := by
  have nothing (final : Bool) : Token.wholePass final none [] = .ok ⟨[], none, []⟩ := rfl
  obtain ⟨pass, read, raw, rest, alike⟩ := h _ (nothing false)
  rw [List.append_nil] at alike
  have tokens : Token.ofText text = .ok pass.tokens := by
    change ((Token.wholePass false none text).bind fun first =>
      (Token.wholePass true first.raw first.rest).bind fun second => .ok _) = _
    rw [read]
    simp [Except.bind, raw, rest, nothing, Token.ofData]
  rw [ofText?, ofText, tokens, ofTokens, ← alike]
  rfl

/-- Written markup is read back as it was. -/
theorem ofText?_write {content : Content} (h : content.IsWritable) : ofText? content.write = some content := by
  have read := readsTo_write h false []
  rw [List.append_nil] at read
  rw [ofText?_of_readsTo read, ofTokens_tokens h]

end Content

end DocExamples.Markup
