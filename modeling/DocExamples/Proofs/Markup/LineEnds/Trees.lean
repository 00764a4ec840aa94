import DocExamples.Markup.Tree
import DocExamples.Proofs.Markup.LineEnds.Tokens
import DocExamples.Proofs.Markup.References

namespace DocExamples.Markup

open Text Relations
open List (Forall₂)

/-- Strings of trees, of which nothing is said where lone CR count. -/
def LikeString (lone : Prop) (text text' : Text) : Prop := lone ∨ Softens lone text text'

inductive Content.Alike (lone : Prop) : Content → Content → Prop
  | done : Alike lone .done .done
  | string (kind : StringKind) {text text' : Text} {next next' : Content} (h : LikeString lone text text')
    (hn : Alike lone next next') : Alike lone (.string kind text next) (.string kind text' next')
  | element {tag tag' : Tag} {inside inside' next next' : Content} (h : tag.Alike lone tag')
    (hi : Alike lone inside inside') (hn : Alike lone next next') :
    Alike lone (.element tag inside next) (.element tag' inside' next')

variable {lone : Prop} {t s : Text}

theorem LikeString.append {t' s' : Text} (h : LikeString lone t s) (h' : LikeString lone t' s') :
    LikeString lone (t ++ t') (s ++ s') := by
  rcases h with hl | h
  · exact .inl hl
  · exact h'.imp_right h.append

namespace Content

variable {content content' : Content}

theorem Alike.reverseOnto {after after' : Content} (h : Alike lone content content')
    (ha : Alike lone after after') : Alike lone (content.reverseOnto after) (content'.reverseOnto after') := by
  induction h generalizing after after' with
  | done => exact ha
  | string kind h _ ih => exact ih (.string kind h ha)
  | element h hi _ _ ih => exact ih (.element h hi ha)

/-- Elements in two trees. -/
structure LikeElement (lone : Prop) (element element' : Tag × Content) : Prop where
  tag : element.1.Alike lone element'.1
  inside : Alike lone element.2 element'.2

theorem Alike.children (h : Alike lone content content') :
    Forall₂ (LikeElement lone) content.children content'.children := by
  induction h with
  | done => exact .nil
  | string _ _ _ ih => exact ih
  | element h hi _ _ ih => exact .cons ⟨h, hi⟩ ih

theorem Alike.descendants (h : Alike lone content content') :
    Forall₂ (LikeElement lone) content.descendants content'.descendants := by
  induction h with
  | done => exact .nil
  | string _ _ _ ih => exact ih
  | element h hi _ inIH nextIH => exact List.rel_append (.cons ⟨h, hi⟩ inIH) nextIH

theorem Alike.prose (h : Alike lone content content') : LikeString lone content.prose content'.prose := by
  induction h with
  | done => exact .inr .nil
  | string kind h _ ih =>
    rw [Content.prose, Content.prose]
    split
    · exact h.append ih
    · exact ih
  | element _ _ _ inIH nextIH => exact inIH.append nextIH

theorem LikeElement.isNamed {element element' : Tag × Content} (h : LikeElement lone element element')
    (name : Text) : (element.1.name == name) = (element'.1.name == name) := by
  rw [h.tag.name]

theorem Alike.findAll (h : Alike lone content content') (name : Text) :
    Forall₂ (LikeElement lone) (content.findAll name) (content'.findAll name) :=
  forall₂_filter h.descendants fun _ _ same => same.isNamed name

theorem Alike.childrenNamed (h : Alike lone content content') (name : Text) :
    Forall₂ (LikeElement lone) (content.childrenNamed name) (content'.childrenNamed name) :=
  forall₂_filter h.children fun _ _ same => same.isNamed name

end Content

namespace Builder

structure LikeOpen (lone : Prop) (element element' : OpenElement) : Prop where
  tag : element.tag.Alike lone element'.tag
  inside : Content.Alike lone element.inside element'.inside

structure Alike (lone : Prop) (b b' : Builder) : Prop where
  openElements : Forall₂ (LikeOpen lone) b.openElements b'.openElements
  outside : Content.Alike lone b.outside b'.outside
  pending : Option.Rel (Softens lone) b.pending b'.pending
  closedEarly : b.closedEarly = b'.closedEarly

variable {b b' : Builder}

theorem collapse_alike (h : Softens lone t s) : LikeString lone (collapse t) (collapse s) := by
  by_cases hl : lone
  · exact .inl hl
  · have blanks : t.all isMarkupBlank = s.all isMarkupBlank := h.all_eq (by decide)
    have newline : t.contains '\n' = s.contains '\n' := by
      rw [Bool.eq_iff_iff, List.contains_iff_mem, List.contains_iff_mem, h.newline_mem_iff hl]
    refine .inr ?_
    rw [collapse, collapse, blanks, newline]
    split
    · exact .refl lone _
    · exact h

theorem isInside_eq (h : Alike lone b b') (names : List Text) : b.isInside names = b'.isInside names := by
  have any {opened opened' : List OpenElement} (h : Forall₂ (LikeOpen lone) opened opened') :
      (opened.any fun element => names.contains element.tag.name) =
        opened'.any fun element => names.contains element.tag.name := by
    induction h with
    | nil => rfl
    | cons same _ ih => rw [List.any_cons, List.any_cons, same.tag.name, ih]
  exact any h.openElements

theorem addString_alike (h : Alike lone b b') (kind : StringKind) (hs : Softens lone t s) :
    Alike lone (b.addString kind t) (b'.addString kind s) := by
  have strings : LikeString lone (if b'.isInside preservingNames then t else collapse t)
      (if b'.isInside preservingNames then s else collapse s) := by
    split
    · exact .inr hs
    · exact collapse_alike hs
  unfold addString
  rw [isInside_eq h]
  obtain ⟨elements, outside, pending, early⟩ := b
  obtain ⟨elements', outside', pending', early'⟩ := b'
  obtain ⟨opened, outsides, pendings, earlies⟩ := h
  dsimp only at opened outsides pendings earlies strings ⊢
  cases opened with
  | nil => exact ⟨.nil, .string kind strings outsides, pendings, earlies⟩
  | cons same rest => exact ⟨.cons ⟨same.tag, .string kind strings same.inside⟩ rest, outsides, pendings, earlies⟩

theorem endString_alike (h : Alike lone b b') : Alike lone b.endString b'.endString := by
  have prose := isInside_eq h embeddingNames
  obtain ⟨elements, outside, pending, early⟩ := b
  obtain ⟨elements', outside', pending', early'⟩ := b'
  obtain ⟨opened, outsides, pendings, earlies⟩ := h
  dsimp only at opened outsides pendings earlies
  cases pendings with
  | none => exact ⟨opened, outsides, .none, earlies⟩
  | some same =>
    rw [endString, endString, prose]
    exact addString_alike ⟨opened, outsides, .none, earlies⟩ _ same

theorem closeInnermost_alike (h : Alike lone b b') : Alike lone b.closeInnermost b'.closeInnermost := by
  obtain ⟨elements, outside, pending, early⟩ := b
  obtain ⟨elements', outside', pending', early'⟩ := b'
  obtain ⟨opened, outsides, pendings, earlies⟩ := h
  dsimp only at opened outsides pendings earlies
  cases opened with
  | nil => exact ⟨.nil, outsides, pendings, earlies⟩
  | cons same rest =>
    have reversed := same.inside.reverseOnto .done
    cases rest with
    | nil => exact ⟨.nil, .element same.tag reversed outsides, pendings, earlies⟩
    | cons parent rest =>
      exact ⟨.cons ⟨parent.tag, .element same.tag reversed parent.inside⟩ rest, outsides, pendings, earlies⟩

theorem closeMany_alike (n : Nat) (h : Alike lone b b') : Alike lone (closeMany n b) (closeMany n b') := by
  induction n generalizing b b' with
  | zero => exact h
  | succ n ih => exact ih (closeInnermost_alike h)

theorem close_alike (h : Alike lone b b') (name : Text) : Alike lone (b.close name) (b'.close name) := by
  have ended := endString_alike h
  have depth {opened opened' : List OpenElement} (h : Forall₂ (LikeOpen lone) opened opened') :
      opened.findIdx? (fun element => element.tag.name == name) =
        opened'.findIdx? fun element => element.tag.name == name := by
    induction h with
    | nil => rfl
    | cons same _ ih => rw [List.findIdx?_cons, List.findIdx?_cons, same.tag.name, ih]
  unfold close
  dsimp only
  rw [depth ended.openElements]
  split
  · exact closeMany_alike _ ended
  · exact ended

theorem endTag_alike (h : Alike lone b b') (name : Text) : Alike lone (b.endTag name) (b'.endTag name) := by
  unfold endTag
  rw [h.closedEarly]
  split
  · exact { h with closedEarly := rfl }
  · exact close_alike h name

theorem startTag_alike (h : Alike lone b b') {tag tag' : Tag} (same : tag.Alike lone tag')
    (selfClosing : Bool) : Alike lone (b.startTag tag selfClosing) (b'.startTag tag' selfClosing) := by
  have ended := endString_alike h
  have entered : Alike lone
      { b.endString with openElements := { tag, inside := .done } :: b.endString.openElements }
      { b'.endString with openElements := { tag := tag', inside := .done } :: b'.endString.openElements } :=
    { ended with openElements := .cons ⟨same, .done⟩ ended.openElements }
  have closed := close_alike entered tag'.name
  unfold startTag
  dsimp only
  rw [same.name]
  split
  · exact closed
  · split
    · exact { closed with closedEarly := congrArg (tag'.name :: ·) ended.closedEarly }
    · exact entered

theorem take_alike (h : Alike lone b b') {token token' : Token} (same : token.Alike lone token') :
    Alike lone (b.take token) (b'.take token') := by
  cases same with
  | data text =>
    exact { h with pending := .some ((rel_getD h.pending .nil).append text) }
  | start tag selfClosing => exact startTag_alike h tag selfClosing
  | stop name => exact endTag_alike h name
  | aside kind text => exact addString_alike (endString_alike h) _ text

theorem foldl_alike {tokens tokens' : List Token} (h : Alike lone b b')
    (same : Forall₂ (Token.Alike lone) tokens tokens') :
    Alike lone (tokens.foldl take b) (tokens'.foldl take b') := by
  induction same generalizing b b' with
  | nil => exact h
  | cons same _ ih => exact ih (take_alike h same)

theorem finish_alike (h : Alike lone b b') : Content.Alike lone b.finish b'.finish := by
  have ended := endString_alike h
  have depth := ended.openElements.length_eq
  rw [finish, finish, depth]
  exact (closeMany_alike _ ended).outside.reverseOnto .done

end Builder

/-- The trees of two sources that differ in line ends have one shape. -/
theorem Content.ofText?_alike (h : Softens lone t s) :
    Option.Rel (Content.Alike lone) (ofText? t) (ofText? s) := by
  refine ((Token.ofText_alike h).map fun tokens tokens' same => ?_).toOption
  exact Builder.finish_alike (Builder.foldl_alike ⟨.nil, .done, .none, rfl⟩ same)

end DocExamples.Markup
