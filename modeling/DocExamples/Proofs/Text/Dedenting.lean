import DocExamples.Proofs.Text.LineEnds
import DocExamples.Proofs.Text.Margin

namespace DocExamples.Text

open Relations

/-- Lines of two texts of which the second one lacks the CR at the end of some lines. -/
inductive SoftLines : List Text → List Text → Prop
  | last (line : Text) : SoftLines [line] [line]
  | same (line : Text) {lines lines' : List Text} (h : SoftLines lines lines') :
    SoftLines (line :: lines) (line :: lines')
  | ended (line : Text) {lines lines' : List Text} (h : SoftLines lines lines') :
    SoftLines ((line ++ ['\r']) :: lines) (line :: lines')

/-- Whether the blank lines of a text that CRLF ends hold the margin of the text and nothing else. -/
def KeepsMargin (t : Text) : Prop :=
  ∀ line ∈ pieces '\n' t, line.getLast? = some '\r' → isHollow line.dropLast = true →
    line.dropLast = margin (pieces '\n' (unifyNewlines t))

instance (t : Text) : Decidable (KeepsMargin t) :=
  inferInstanceAs (Decidable (∀ line ∈ pieces '\n' t, line.getLast? = some '\r' →
    isHollow line.dropLast = true → line.dropLast = margin (pieces '\n' (unifyNewlines t))))

/-- The part of a block of code whose margin is removed. -/
def indentedPart (code : Text) : Text :=
  match cutAt? '\n' code with
  | some (first, rest) => if startsInTag first rest then rest else code
  | none => code

variable {t s : Text} {lines lines' : List Text}

theorem isHollow_return (line : Text) : isHollow (line ++ ['\r']) = false := by
  rw [isHollow_append]
  exact Bool.and_false _

theorem takeWhile_isIndent_return (line : Text) :
    (line ++ ['\r']).takeWhile isIndent = line.takeWhile isIndent := by
  induction line with
  | nil => rfl
  | cons c line ih => rw [List.cons_append, List.takeWhile_cons, List.takeWhile_cons, ih]

namespace SoftLines

theorem cons_first {c : Char} {line line' : Text} (h : SoftLines (line :: lines) (line' :: lines')) :
    SoftLines ((c :: line) :: lines) ((c :: line') :: lines') := by
  cases h with
  | last => exact .last _
  | same _ h => exact .same _ h
  | ended _ h => exact .ended (c :: line') h

/-- Each line of the second text is one of the first text, but for a CR at its end. -/
theorem mem_left (h : SoftLines lines lines') {line : Text} (inside : line ∈ lines') :
    line ∈ lines ∨ line ++ ['\r'] ∈ lines := by
  induction h with
  | last => exact .inl inside
  | same other _ ih =>
    rcases List.mem_cons.mp inside with rfl | inside
    · exact .inl List.mem_cons_self
    · exact (ih inside).imp (List.mem_cons_of_mem other) (List.mem_cons_of_mem other)
  | ended other _ ih =>
    rcases List.mem_cons.mp inside with rfl | inside
    · exact .inr List.mem_cons_self
    · exact (ih inside).imp (List.mem_cons_of_mem _) (List.mem_cons_of_mem _)

theorem mem_right (h : SoftLines lines lines') {line : Text} (inside : line ∈ lines) :
    line ∈ lines' ∨ ∃ front ∈ lines', line = front ++ ['\r'] := by
  induction h with
  | last => exact .inl inside
  | same other _ ih =>
    rcases List.mem_cons.mp inside with rfl | inside
    · exact .inl List.mem_cons_self
    · refine (ih inside).imp (List.mem_cons_of_mem other) ?_
      exact fun ⟨front, there, ends⟩ => ⟨front, List.mem_cons_of_mem other there, ends⟩
  | ended other _ ih =>
    rcases List.mem_cons.mp inside with rfl | inside
    · exact .inr ⟨other, List.mem_cons_self, rfl⟩
    · refine (ih inside).imp (List.mem_cons_of_mem other) ?_
      exact fun ⟨front, there, ends⟩ => ⟨front, List.mem_cons_of_mem other there, ends⟩

theorem softens_joinWith (h : SoftLines lines lines') :
    Softens False (joinWith ['\n'] lines) (joinWith ['\n'] lines') := by
  have joined (line : Text) {lines : List Text} (filled : lines ≠ []) :
      joinWith ['\n'] (line :: lines) = line ++ '\n' :: joinWith ['\n'] lines := by
    obtain ⟨next, lines, rfl⟩ := List.exists_cons_of_ne_nil filled
    rw [joinWith, List.append_assoc, List.singleton_append]
  have filled {lines lines' : List Text} (h : SoftLines lines lines') : lines ≠ [] ∧ lines' ≠ [] := by
    cases h <;> simp
  induction h with
  | last line => exact .refl False line
  | same line h ih =>
    rw [joined line (filled h).1, joined line (filled h).2]
    exact (Softens.refl False line).append (.same '\n' ih)
  | ended line h ih =>
    rw [joined _ (filled h).1, joined line (filled h).2, List.append_assoc]
    exact (Softens.refl False line).append (.pair ih)

end SoftLines

theorem Softens.softLines (h : Softens False t s) : SoftLines (pieces '\n' t) (pieces '\n' s) := by
  induction h with
  | nil => exact .last []
  | @same c t s _ ih =>
    rw [pieces, pieces]
    split
    · exact .same [] ih
    · obtain ⟨line, lines, ht⟩ := List.exists_cons_of_ne_nil (pieces_ne_nil '\n' t)
      obtain ⟨line', lines', hs⟩ := List.exists_cons_of_ne_nil (pieces_ne_nil '\n' s)
      rw [ht, hs] at ih ⊢
      exact ih.cons_first
  | pair _ ih => exact .ended [] ih
  | single hl => exact hl.elim

section Margin

theorem prefix_commonStart {m a b : Text} (ha : m <+: a) (hb : m <+: b) : m <+: commonStart a b := by
  obtain ⟨a, rfl⟩ := ha
  obtain ⟨b, rfl⟩ := hb
  induction m with
  | nil => exact List.nil_prefix
  | cons c m ih =>
    rw [List.cons_append, List.cons_append, commonStart, if_pos rfl]
    exact List.cons_prefix_cons.mpr ⟨rfl, ih⟩

theorem prefix_foldl_commonStart {m first : Text} {others : List Text} (hf : m <+: first)
    (ho : ∀ other ∈ others, m <+: other) : m <+: others.foldl commonStart first := by
  induction others generalizing first with
  | nil => exact hf
  | cons other others ih =>
    obtain ⟨head, tail⟩ := List.forall_mem_cons.mp ho
    exact ih (prefix_commonStart hf head) tail

/-- What every line that is not hollow starts with is a part of the margin, if there is such a line. -/
theorem prefix_margin {m line : Text} (inside : line ∈ lines) (visible : isHollow line = false)
    (starts : ∀ line ∈ lines, isHollow line = false → m <+: line.takeWhile isIndent) : m <+: margin lines := by
  have every : ∀ indent ∈ (lines.filter fun line => !isHollow line).map (·.takeWhile isIndent),
      m <+: indent := by
    intro indent found
    obtain ⟨line, hl, rfl⟩ := List.mem_map.mp found
    obtain ⟨inside, visible⟩ := List.mem_filter.mp hl
    exact starts line inside (by simpa using visible)
  have filled : (lines.filter fun line => !isHollow line).map (·.takeWhile isIndent) ≠ [] := by
    refine List.ne_nil_of_mem (List.mem_map_of_mem (List.mem_filter.mpr ⟨inside, ?_⟩))
    rw [visible]
    rfl
  rw [margin]
  obtain ⟨first, others, found⟩ := List.exists_cons_of_ne_nil filled
  rw [found] at every ⊢
  obtain ⟨head, tail⟩ := List.forall_mem_cons.mp every
  exact prefix_foldl_commonStart head tail

variable (h : SoftLines lines lines')
  (kept : ∀ indent, isHollow indent = true → indent ++ ['\r'] ∈ lines → indent = margin lines')

include h kept

theorem SoftLines.prefix_margin : margin lines' <+: margin lines := by
  by_cases filled : margin lines' = []
  · rw [filled]
    exact List.nil_prefix
  obtain ⟨line, inside, visible⟩ := exists_visible_of_margin_ne_nil filled
  have starts : ∀ line ∈ lines, isHollow line = false → margin lines' <+: line.takeWhile isIndent := by
    intro line inside visible
    rcases h.mem_right inside with there | ⟨front, there, rfl⟩
    · exact isPrefix_margin there visible
    · rw [takeWhile_isIndent_return]
      cases hollow : isHollow front with
      | false => exact isPrefix_margin there hollow
      | true =>
        have whole := List.takeWhile_eq_self_iff.mpr (List.all_eq_true.mp hollow)
        rw [whole]
        exact kept front hollow inside ▸ List.prefix_rfl
  rcases h.mem_left inside with inside | inside
  · exact Text.prefix_margin inside visible starts
  · exact Text.prefix_margin inside (isHollow_return line) starts

theorem SoftLines.margin_prefix : margin lines <+: margin lines' := by
  have indents : ∀ line ∈ lines', isHollow line = false → margin lines <+: line.takeWhile isIndent := by
    intro line inside visible
    rcases h.mem_left inside with inside | inside
    · exact isPrefix_margin inside visible
    · rw [← takeWhile_isIndent_return]
      exact isPrefix_margin inside (isHollow_return line)
  by_cases none : ∀ line ∈ lines', isHollow line = true
  · -- Only blank lines that CRLF ends are left to tell the margin from.
    by_contra apart
    have filled : margin lines ≠ [] := by
      intro empty
      rw [empty] at apart
      exact apart List.nil_prefix
    obtain ⟨line, inside, visible⟩ := exists_visible_of_margin_ne_nil filled
    rcases h.mem_right inside with there | ⟨front, there, rfl⟩
    · rw [none line there] at visible
      cases visible
    · have indent := isPrefix_margin inside visible
      rw [takeWhile_isIndent_return, kept front (none front there) inside] at indent
      exact apart (indent.trans (List.takeWhile_prefix isIndent))
  · simp only [not_forall, Bool.not_eq_true] at none
    obtain ⟨line, inside, visible⟩ := none
    exact Text.prefix_margin inside visible indents

theorem SoftLines.margin_eq : margin lines = margin lines' :=
  (h.margin_prefix kept).eq_of_length_le (h.prefix_margin kept).length_le

end Margin

/-- A margin is removed from lines with CR at their ends as from the lines without them. -/
theorem SoftLines.map_dropMargin {m : Text} (h : SoftLines lines lines')
    (starts : ∀ line ∈ lines', isHollow line = false → m <+: line)
    (kept : ∀ indent, isHollow indent = true → indent ++ ['\r'] ∈ lines → indent = m) :
    SoftLines (lines.map (dropMargin m)) (lines'.map (dropMargin m)) := by
  induction h with
  | last line => exact .last _
  | same line _ ih =>
    refine .same _ (ih (fun line inside => starts line (List.mem_cons_of_mem _ inside)) ?_)
    exact fun indent hollow inside => kept indent hollow (List.mem_cons_of_mem _ inside)
  | @ended line lines lines' _ ih =>
    have others := ih (fun line inside => starts line (List.mem_cons_of_mem _ inside))
      fun indent hollow inside => kept indent hollow (List.mem_cons_of_mem _ inside)
    have fits : m.length ≤ line.length := by
      cases hollow : isHollow line with
      | false => exact (starts line List.mem_cons_self hollow).length_le
      | true => exact (kept line hollow List.mem_cons_self ▸ le_rfl)
    have ended : dropMargin m (line ++ ['\r']) = dropMargin m line ++ ['\r'] := by
      rw [dropMargin, dropMargin, isHollow_return, if_neg (by decide), List.drop_append_of_le_length fits]
      split
      · next hollow =>
        obtain rfl := kept line hollow List.mem_cons_self
        rw [List.drop_length]
      · rfl
    rw [List.map_cons, List.map_cons, ended]
    exact .ended _ others

/-- Removing the margin keeps texts alike but for line ends. -/
theorem Softens.dedent (h : Softens False t s)
    (kept : ∀ indent, isHollow indent = true → indent ++ ['\r'] ∈ pieces '\n' t →
      indent = margin (pieces '\n' s)) : Softens False (dedent t) (dedent s) := by
  have lines := h.softLines
  refine SoftLines.softens_joinWith ?_
  rw [dedentLines, dedentLines, lines.margin_eq kept]
  refine lines.map_dropMargin (fun line inside visible => ?_) kept
  exact (isPrefix_margin inside visible).trans (List.takeWhile_prefix isIndent)

theorem Softens.cutAt?_newline (h : Softens False t s) :
    Option.Rel (fun parts parts' => (parts.1 = parts'.1 ∨ parts.1 = parts'.1 ++ ['\r']) ∧
      Softens False parts.2 parts'.2) (Text.cutAt? '\n' t) (Text.cutAt? '\n' s) := by
  induction h with
  | nil => exact .none
  | same c h ih =>
    rw [Text.cutAt?, Text.cutAt?]
    split
    · exact .some ⟨.inl rfl, h⟩
    · refine rel_map ih fun parts parts' related => ⟨?_, related.2⟩
      exact related.1.imp (congrArg (c :: ·)) (congrArg (c :: ·))
  | pair h => exact .some ⟨.inr rfl, h⟩
  | single hl => exact hl.elim

/-- Whether code starts in its opening tag does not depend on line ends. -/
theorem startsInTag_eq {first first' rest rest' : Text} (hf : first = first' ∨ first = first' ++ ['\r'])
    (h : Softens False rest rest') : startsInTag first rest = startsInTag first' rest' := by
  have blank : rest.all isBlank = rest'.all isBlank := h.all_eq (by decide)
  rw [startsInTag, startsInTag, blank]
  rcases hf with rfl | rfl
  · rfl
  · cases first' with
    | nil => rfl
    | cons c first' =>
      have trimmed : trimEnd isBlank (c :: first' ++ ['\r']) = trimEnd isBlank (c :: first') := by
        simp only [trimEnd, List.reverse_append]
        rfl
      rw [trimmed]
      rfl

theorem Softens.dedentCode (h : Softens False t s) (hr : '\r' ∉ s) (kept : KeepsMargin (indentedPart t)) :
    Softens False (dedentCode t) (dedentCode s) := by
  have part {t s : Text} (h : Softens False t s) (hr : '\r' ∉ s) (kept : KeepsMargin t) :
      Softens False (Text.dedent t) (Text.dedent s) := by
    refine h.dedent fun indent hollow inside => ?_
    have same := kept (indent ++ ['\r']) inside (by simp) (by rwa [List.dropLast_concat])
    rwa [List.dropLast_concat, ← (h.eq_unifyNewlines hr).2] at same
  have cut := h.cutAt?_newline
  rw [indentedPart] at kept
  rw [Text.dedentCode, Text.dedentCode]
  generalize Text.cutAt? '\n' t = found at cut kept ⊢
  generalize hs : Text.cutAt? '\n' s = found' at cut ⊢
  cases cut with
  | none => exact part h hr kept
  | @some parts parts' related =>
    obtain ⟨rfl, -⟩ := cutAt?_eq_some_iff.mp hs
    obtain ⟨firsts, rests⟩ := related
    dsimp only at kept ⊢
    rw [startsInTag_eq firsts rests] at kept ⊢
    split at kept
    · next inTag =>
      have below : '\r' ∉ parts'.2 := by
        intro inside
        exact hr (List.mem_append_right _ (List.mem_cons_of_mem _ inside))
      rw [if_pos inTag, if_pos inTag]
      rcases firsts with same | ended
      · rw [same]
        exact (Softens.refl False _).append (.same '\n' (part rests below kept))
      · rw [ended, List.append_assoc]
        exact (Softens.refl False _).append (.pair (part rests below kept))
    · next inTag =>
      rw [if_neg inTag, if_neg inTag]
      exact part h hr kept

/-- Line ends may be unified before the margin is removed or after it. -/
theorem dedentCode_unifyNewlines (paired : isPaired t = true) (kept : KeepsMargin (indentedPart t)) :
    dedentCode (unifyNewlines t) = unifyNewlines (dedentCode t) := by
  have noReturn := carriage_not_mem_unifyNewlines t
  have soft := (softens_of_isPaired paired).dedentCode noReturn kept
  exact (soft.eq_unifyNewlines (not_mem_dedentCode noReturn (by decide))).2

end DocExamples.Text
