import DocExamples.Proofs.Script.LineEnds
import DocExamples.Proofs.Text.Dedenting
import DocExamples.Proofs.Text.Indentation

namespace DocExamples.Text

open List (Forall₂)

/-- The longest run of spaces and tabs with which each line starts that is not hollow. -/
structure IsMargin (m : Text) (lines : List Text) : Prop where
  indent : m.all isIndent = true
  common : ∀ line ∈ lines, isHollow line = false → m <+: line
  longest : ∀ line ∈ lines, isHollow line = false → ∀ other : Text, other.all isIndent = true →
    (∀ line ∈ lines, isHollow line = false → other <+: line) → other <+: m
  empty : (∀ line ∈ lines, isHollow line = true) → m = []

/-- What is left of a line without a margin. -/
inductive IsLeft (m : Text) : (line left : Text) → Prop
  | hollow {line : Text} (indent : isHollow line = true) : IsLeft m line []
  | visible {left : Text} (visible : isHollow (m ++ left) = false) : IsLeft m (m ++ left) left

/-- A first line that stands right after an opening tag, with something below it into which it does not
reach. -/
structure StandsInTag (first : Text) (below : List Text) : Prop where
  visible : ∃ c ∈ first, isBlank c = false
  flush : ∀ c, first.head? = some c → isBlank c = false
  closed : ∀ front c space, first = front ++ c :: space → space.all isBlank = true →
    c ∉ ['\\', ':', '(', '[', '\x7b', ',']
  followed : ∃ line ∈ below, ∃ c ∈ line, isBlank c = false

/-- The lines of a text, which CRLF, LF or a lone CR ends. -/
def universalLines (t : Text) : List Text := pieces '\n' (unifyNewlines t)

variable {m code line left : Text} {lines : List Text}

theorem all_isIndent_margin (lines : List Text) : (margin lines).all isIndent = true := by
  by_cases empty : margin lines = []
  · rw [empty]
    rfl
  · obtain ⟨line, inside, visible⟩ := exists_visible_of_margin_ne_nil empty
    obtain ⟨rest, whole⟩ := isPrefix_margin inside visible
    have indent : (line.takeWhile isIndent).all isIndent = true := List.all_takeWhile
    rw [← whole, List.all_append, Bool.and_eq_true] at indent
    exact indent.1

theorem prefix_takeWhile_of_all {p : Char → Bool} {word text : Text} (all : word.all p = true)
    (start : word <+: text) : word <+: text.takeWhile p := by
  obtain ⟨rest, rfl⟩ := start
  rw [List.takeWhile_append_of_pos (List.all_eq_true.mp all)]
  exact List.prefix_append word (rest.takeWhile p)

theorem isMargin_margin (lines : List Text) : IsMargin (margin lines) lines where
  indent := all_isIndent_margin lines
  common line inside visible := (isPrefix_margin inside visible).trans (List.takeWhile_prefix isIndent)
  longest line inside visible other indent starts :=
    prefix_margin inside visible fun line inside visible =>
      prefix_takeWhile_of_all indent (starts line inside visible)
  empty hollow := by
    by_contra filled
    obtain ⟨line, inside, visible⟩ := exists_visible_of_margin_ne_nil filled
    rw [hollow line inside] at visible
    cases visible

theorem isLeft_dropMargin (start : isHollow line = false → m <+: line) :
    IsLeft m line (dropMargin m line) := by
  rw [dropMargin]
  cases hollow : isHollow line with
  | true => exact .hollow hollow
  | false =>
    obtain ⟨left, rfl⟩ := start hollow
    rw [if_neg Bool.false_ne_true, List.drop_left]
    exact .visible hollow

theorem forall₂_dedentLines (lines : List Text) :
    Forall₂ (IsLeft (margin lines)) lines (dedentLines lines) := by
  rw [dedentLines, List.forall₂_map_right_iff, List.forall₂_same]
  intro line inside
  exact isLeft_dropMargin ((isMargin_margin lines).common line inside)

/-- Whether a line reaches into the next one is told from its last visible character. -/
theorem opensNext_iff {c : Char} : opensNext c = true ↔ c ∈ ['\\', ':', '(', '[', '\x7b', ','] := by
  simp [opensNext, or_assoc]

theorem isBlank_eq_false_of_opensNext {c : Char} (opens : opensNext c = true) : isBlank c = false := by
  have each : ['\\', ':', '(', '[', '\x7b', ','].any isBlank = false := by decide
  exact Bool.eq_false_iff.mpr (List.any_eq_false.mp each c (opensNext_iff.mp opens))

theorem trimEnd_getLast?_iff {p : Char → Bool} {t : Text} {c : Char} :
    (trimEnd p t).getLast? = some c ↔
      p c = false ∧ ∃ front space, t = front ++ c :: space ∧ space.all p = true := by
  constructor
  · intro last
    obtain ⟨front, kept⟩ := List.getLast?_eq_some_iff.mp last
    have whole := trimEnd_append_takeWhile p t
    have stop := List.head?_dropWhile_not p t.reverse
    rw [trimEnd, List.getLast?_reverse] at last
    rw [last] at stop
    rw [kept, List.append_assoc, List.singleton_append] at whole
    refine ⟨by simpa using stop, front, (t.reverse.takeWhile p).reverse, whole.symm, ?_⟩
    rw [List.all_reverse]
    exact List.all_takeWhile
  · rintro ⟨outside, front, space, rfl, all⟩
    have blank : ∀ d ∈ space.reverse, p d = true :=
      List.all_eq_true.mp (by rwa [List.all_reverse])
    rw [trimEnd, List.reverse_append, List.reverse_cons, List.append_assoc,
      List.dropWhile_append_of_pos blank, List.singleton_append,
      List.dropWhile_cons_of_neg (by simp [outside]), List.reverse_cons, List.getLast?_concat]

theorem all_isBlank_pieces (t : Text) :
    t.all isBlank = true ↔ ∀ line ∈ pieces '\n' t, line.all isBlank = true := by
  constructor
  · intro blank line inside
    obtain ⟨before, after, rfl, -, -⟩ := exists_of_mem_pieces inside
    simp only [List.all_append, Bool.and_eq_true] at blank
    exact blank.1.2
  · intro blank
    rw [← joinWith_pieces '\n' t, List.all_eq_true]
    intro c mem
    rcases mem_joinWith mem with newline | ⟨line, inside, mem⟩
    · rw [List.mem_singleton.mp newline]
      decide
    · exact List.all_eq_true.mp (blank line inside) c mem

theorem startsInTag_iff {first rest : Text} :
    startsInTag first rest = true ↔ StandsInTag first (pieces '\n' rest) := by
  have ends : (trimEnd isBlank first).getLast?.any opensNext = false ↔
      ∀ front c space, first = front ++ c :: space → space.all isBlank = true →
        c ∉ ['\\', ':', '(', '[', '\x7b', ','] := by
    constructor
    · intro shut front c space whole blank opens
      have solid : isBlank c = false := isBlank_eq_false_of_opensNext (opensNext_iff.mpr opens)
      rw [trimEnd_getLast?_iff.mpr ⟨solid, front, space, whole, blank⟩, Option.any_some,
        opensNext_iff.mpr opens] at shut
      cases shut
    · intro shut
      cases last : (trimEnd isBlank first).getLast? with
      | none => rfl
      | some c =>
        obtain ⟨-, front, space, whole, blank⟩ := trimEnd_getLast?_iff.mp last
        rw [Option.any_some, ← Bool.not_eq_true, opensNext_iff]
        exact shut front c space whole blank
  have below : rest.all isBlank = false ↔ ∃ line ∈ pieces '\n' rest, ∃ c ∈ line, isBlank c = false := by
    rw [← Bool.not_eq_true, all_isBlank_pieces]
    simp
  simp only [startsInTag, Bool.and_eq_true, Bool.not_eq_true', ends, below]
  constructor
  · rintro ⟨⟨start, shut⟩, followed⟩
    obtain ⟨c, head, solid⟩ : ∃ c, first.head? = some c ∧ isBlank c = false := by
      simpa [Option.any_eq_true] using start
    refine ⟨⟨c, List.mem_of_mem_head? head, solid⟩, ?_, shut, followed⟩
    intro d same
    rw [head, Option.some.injEq] at same
    exact same ▸ solid
  · rintro ⟨⟨c, inside, -⟩, flush, shut, followed⟩
    obtain ⟨d, others, rfl⟩ := List.exists_cons_of_ne_nil (List.ne_nil_of_mem inside)
    exact ⟨⟨by simpa using flush d rfl, shut⟩, followed⟩

/-- What is left of a line is an end of it, after spaces and tabs. -/
theorem IsLeft.exists_indent (h : IsLeft m line left) (indent : m.all isIndent = true) :
    ∃ lead : Text, lead.all isIndent = true ∧ line = lead ++ left := by
  cases h with
  | hollow all => exact ⟨line, all, (List.append_nil line).symm⟩
  | visible _ => exact ⟨m, indent, rfl⟩

theorem carriage_not_mem_indent {lead : Text} (indent : lead.all isIndent = true) : '\r' ∉ lead := by
  intro mem
  have found := List.all_eq_true.mp indent '\r' mem
  revert found
  decide

theorem unifyNewlines_append_of_not_mem {lead : Text} (h : '\r' ∉ lead) (t : Text) :
    unifyNewlines (lead ++ t) = lead ++ unifyNewlines t := by
  induction lead with
  | nil => rfl
  | cons c lead ih =>
    rw [List.mem_cons, not_or] at h
    rw [List.cons_append, unifyNewlines_cons_of_ne (Ne.symm h.1), ih h.2, List.cons_append]

theorem pieces_append_of_not_mem {mark : Char} {lead t first : Text} {others : List Text}
    (h : mark ∉ lead) (ht : pieces mark t = first :: others) :
    pieces mark (lead ++ t) = (lead ++ first) :: others := by
  induction lead with
  | nil => exact ht
  | cons c lead ih =>
    rw [List.mem_cons, not_or] at h
    rw [List.cons_append, pieces, if_neg (Ne.symm h.1), ih h.2]
    rfl

/-- Spaces and tabs at the start of a text stand in its first line. -/
theorem suffix_pieces {lead : Text} (indent : lead.all isIndent = true) (t : Text) :
    Forall₂ (fun line left => left <:+ line) (pieces '\n' (lead ++ t)) (pieces '\n' t) := by
  obtain ⟨first, others, ht⟩ := List.exists_cons_of_ne_nil (pieces_ne_nil '\n' t)
  rw [pieces_append_of_not_mem (newline_not_mem_indent indent) ht, ht]
  refine .cons (List.suffix_append lead first) ?_
  exact List.forall₂_same.mpr fun line _ => List.suffix_rfl

theorem universalLines_lead {lead : Text} (indent : lead.all isIndent = true) (t : Text) :
    Forall₂ (fun line left => left <:+ line) (universalLines (lead ++ t)) (universalLines t) := by
  rw [universalLines, unifyNewlines_append_of_not_mem (carriage_not_mem_indent indent)]
  exact suffix_pieces indent (unifyNewlines t)

/-- A LF ends the lines before it, also where it makes one line end with a CR. -/
theorem universalLines_more {lead rest rest' : Text} (indent : lead.all isIndent = true) (left : Text)
    (below : Forall₂ (fun line left => left <:+ line) (universalLines rest) (universalLines rest')) :
    Forall₂ (fun line left => left <:+ line) (universalLines (lead ++ left ++ '\n' :: rest))
      (universalLines (left ++ '\n' :: rest')) := by
  have last : (unifyNewlines (left ++ ['\n'])).getLast? = some '\n' := by
    rw [Script.getLast?_unifyNewlines, List.getLast?_concat]
    rfl
  obtain ⟨body, ended⟩ := List.getLast?_eq_some_iff.mp last
  have apart (rest : Text) : unifyNewlines (left ++ '\n' :: rest) = body ++ '\n' :: unifyNewlines rest := by
    have cut := Script.unifyNewlines_append (a := left ++ ['\n']) (b := rest) (by simp)
    rwa [ended, List.append_assoc, List.append_assoc] at cut
  rw [List.append_assoc, universalLines, universalLines,
    unifyNewlines_append_of_not_mem (carriage_not_mem_indent indent), apart, apart, ← List.append_assoc,
    pieces_append_mark, pieces_append_mark]
  exact List.rel_append (suffix_pieces indent body) below

/-- The induction is on the lines that LF ends; each of them may hold several that a CR ends. -/
theorem universalLines_joinWith (indent : m.all isIndent = true) {lefts : List Text}
    (h : Forall₂ (IsLeft m) lines lefts) :
    Forall₂ (fun line left => left <:+ line) (universalLines (joinWith ['\n'] lines))
      (universalLines (joinWith ['\n'] lefts)) := by
  induction h with
  | nil => exact List.forall₂_same.mpr fun line _ => List.suffix_rfl
  | @cons line left lines lefts first others ih =>
    obtain ⟨lead, blank, rfl⟩ := first.exists_indent indent
    cases others with
    | nil => exact universalLines_lead blank left
    | cons =>
      rw [joinWith_cons (List.cons_ne_nil _ _), joinWith_cons (List.cons_ne_nil _ _)]
      exact universalLines_more blank left ih

theorem universalLines_dedent (t : Text) :
    Forall₂ (fun line left => left <:+ line) (universalLines t) (universalLines (dedent t)) := by
  have lines := universalLines_joinWith (all_isIndent_margin _) (forall₂_dedentLines (pieces '\n' t))
  rwa [joinWith_pieces] at lines

theorem universalLines_dedentCode (code : Text) :
    Forall₂ (fun line left => left <:+ line) (universalLines code) (universalLines (dedentCode code)) := by
  rw [dedentCode]
  split
  · next first rest cut =>
    split
    · obtain ⟨rfl, -⟩ := cutAt?_eq_some_iff.mp cut
      have noLead : ([] : Text).all isIndent = true := rfl
      exact universalLines_more noLead first (universalLines_dedent rest)
    · exact universalLines_dedent code
  · exact universalLines_dedent code

/-- The lines of a block of code without its indentation, told from its lines. -/
theorem pieces_dedentCode (code : Text) : ∃ first below, pieces '\n' code = first :: below ∧
    ((StandsInTag first below ∧ pieces '\n' (dedentCode code) = first :: dedentLines below) ∨
      (¬ StandsInTag first below ∧ pieces '\n' (dedentCode code) = dedentLines (first :: below))) := by
  rw [dedentCode]
  cases cut : cutAt? '\n' code with
  | none =>
    have single : pieces '\n' code = [code] := by
      refine pieces_of_not_mem fun mem => ?_
      obtain ⟨first, rest, rfl, outside⟩ := List.eq_append_cons_of_mem mem
      cases cut.symm.trans (cutAt?_eq_some_iff.mpr ⟨rfl, outside⟩)
    refine ⟨code, [], single, .inr ⟨?_, by rw [pieces_dedent, single]⟩⟩
    rintro ⟨-, -, -, line, inside, -⟩
    exact absurd inside List.not_mem_nil
  | some parts =>
    obtain ⟨first, rest⟩ := parts
    obtain ⟨rfl, outside⟩ := cutAt?_eq_some_iff.mp cut
    have whole (rest : Text) : pieces '\n' (first ++ '\n' :: rest) = first :: pieces '\n' rest := by
      rw [pieces_append_mark, pieces_of_not_mem outside, List.singleton_append]
    refine ⟨first, pieces '\n' rest, whole rest, ?_⟩
    dsimp only
    by_cases inTag : startsInTag first rest = true
    · rw [if_pos inTag, whole, pieces_dedent]
      exact .inl ⟨startsInTag_iff.mp inTag, rfl⟩
    · rw [if_neg inTag, pieces_dedent, whole]
      exact .inr ⟨fun stands => inTag (startsInTag_iff.mpr stands), rfl⟩

/-- Removing the indentation of a block of code. There is a longest run of spaces and tabs common to the
affected lines: the lines below the first one where that stands right after its opening tag, else all of
them. Of an affected line of spaces and tabs nothing is left, and each other one is this run followed by
what is left of it. However line ends are counted, a line of the result is an end of the line with the same
number. -/
theorem dedentCode_removes_margin (code : Text) :
    (∃ first below m, pieces '\n' code = first :: below ∧
      ((StandsInTag first below ∧ IsMargin m below ∧
          ∃ lefts, pieces '\n' (dedentCode code) = first :: lefts ∧ Forall₂ (IsLeft m) below lefts) ∨
        (¬ StandsInTag first below ∧ IsMargin m (first :: below) ∧
          Forall₂ (IsLeft m) (first :: below) (pieces '\n' (dedentCode code))))) ∧
    (pieces '\n' (dedentCode code)).length = (pieces '\n' code).length ∧
    Forall₂ (fun line left => left <:+ line) (universalLines code) (universalLines (dedentCode code)) := by
  obtain ⟨first, below, whole, ⟨inTag, same⟩ | ⟨notInTag, same⟩⟩ := pieces_dedentCode code
  · have lines := forall₂_dedentLines below
    refine ⟨⟨first, below, _, whole, .inl ⟨inTag, isMargin_margin below, _, same, lines⟩⟩, ?_,
      universalLines_dedentCode code⟩
    rw [whole, same, List.length_cons, List.length_cons, lines.length_eq]
  · have lines := forall₂_dedentLines (first :: below)
    refine ⟨⟨first, below, _, whole, .inr ⟨notInTag, isMargin_margin _, same ▸ lines⟩⟩, ?_,
      universalLines_dedentCode code⟩
    rw [whole, same, lines.length_eq]

/-- A tab and a space are different, and a first line that opens a block has no place of its own. -/
example : dedentCode "if x:\n\t  a\n\t b\n \t".toList = "if x:\n\t  a\n\t b\n".toList ∧
    dedentCode "x\n\t  a\n\t b\n \t".toList = "x\n a\nb\n".toList := by decide

end DocExamples.Text
