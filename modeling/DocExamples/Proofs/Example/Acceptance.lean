import Mathlib.Data.List.TakeWhile
import DocExamples.Example.Verdict
import DocExamples.Proofs.Example.CommentText
import DocExamples.Proofs.Example.Marker

namespace DocExamples

open Text

/-- A token that can start a comment line: its first character is no white space, and it stands within
a line. -/
structure IsCommentToken (comment : Text) : Prop where
  visible : comment.head?.any (fun c => !isBlank c) = true
  noNewline : '\n' ∉ comment

/-- How a comment line stands in a block: after some spaces and tabs, and before a line end. -/
structure Placement where
  indent : Text
  ending : LineEnd
  isIndent : indent.all Text.isIndent = true

def commentLine (comment : Text) (place : Placement) (text : Text) : Text :=
  place.indent ++ (comment ++ ' ' :: text) ++ place.ending.text

/-- The parts of a documented block. The program is made of whole lines, none of which is a marker. -/
structure Block (comment : Text) where
  program : Text
  marker : Placement
  lines : List (Placement × Text)
  tail : Text
  whole : program = [] ∨ program.getLast? = some '\n'
  unmarked : Expectation.splitAtMarker? comment program = none
  areLines : ∀ line ∈ lines, IsLine line.2
  isTail : tail.all isIndent = true

namespace Block

variable {comment : Text}

/-- The output that a block documents. -/
def output (block : Block comment) : List Text := block.lines.map (·.2)

/-- The comment lines after the marker line. -/
def remainder (block : Block comment) : Text :=
  block.lines.flatMap (fun (place, line) => commentLine comment place line) ++ block.tail

/-- A block as it is written. -/
def text (block : Block comment) : Text :=
  block.program ++ (commentLine comment block.marker Expectation.markerWord ++ block.remainder)

end Block

namespace Expectation

variable {comment : Text}

theorem IsCommentToken.exists_cons (hc : IsCommentToken comment) :
    ∃ c rest, comment = c :: rest ∧ isBlank c = false := by
  cases comment with
  | nil => simpa using hc.visible
  | cons c rest => exact ⟨c, rest, rfl, by simpa using hc.visible⟩

theorem IsCommentToken.startsVisibly (hc : IsCommentToken comment) : StartsVisibly comment := by
  obtain ⟨c, token, rfl, visible⟩ := IsCommentToken.exists_cons hc
  exact ⟨by simp, by simpa using visible⟩

/-- The text of a comment line is what stands after the token and one space. -/
theorem stripComment_comment {indent : Text} (hi : indent.all isIndent = true)
    (hc : IsCommentToken comment) (line : Text) :
    stripComment comment (indent ++ (comment ++ ' ' :: line)) = line := by
  have blank : indent.all isBlank = true := by
    rw [List.all_eq_true] at hi ⊢
    exact fun d hd => isBlank_of_isIndent (hi d hd)
  exact (IsCommentToken.startsVisibly hc).stripComment_space blank line

/-- A line of spaces and tabs alone is an empty one. -/
theorem stripComment_indent {indent : Text} (hi : indent.all isIndent = true)
    (hc : IsCommentToken comment) : stripComment comment indent = [] := by
  obtain ⟨c, token, rfl, -⟩ := IsCommentToken.exists_cons hc
  have blank : ∀ d ∈ indent, isBlank d = true :=
    fun d hd => isBlank_of_isIndent (List.all_eq_true.mp hi d hd)
  have none : indent.dropWhile isBlank = [] := List.dropWhile_eq_nil_iff.mpr blank
  simp [stripComment, none, after?]

theorem afterIndents_indent {indent : Text} (hi : indent.all isIndent = true)
    (hc : IsCommentToken comment) (rest : Text) :
    ∃ others, afterIndents (indent ++ (comment ++ rest)) = (comment ++ rest) :: others := by
  obtain ⟨c, token, rfl, hb⟩ := IsCommentToken.exists_cons hc
  have visible : isIndent c = false := by
    cases h : isIndent c with
    | false => rfl
    | true => simp [isBlank_of_isIndent h] at hb
  induction indent with
  | nil => exact ⟨[], by simp [afterIndents, visible]⟩
  | cons d indent ih =>
    simp only [List.all_cons, Bool.and_eq_true] at hi
    obtain ⟨others, h⟩ := ih hi.2
    exact ⟨others ++ [d :: (indent ++ (c :: token ++ rest))], by
      rw [List.cons_append, afterIndents, if_pos hi.1, h, List.cons_append]⟩

theorem afterLineEnd?_text (ending : LineEnd) (rest : Text) :
    afterLineEnd? (ending.text ++ rest) = some rest := by
  cases ending <;> simp [LineEnd.text, afterLineEnd?]

theorem afterMarkerBody?_marker (ending : LineEnd) (rest : Text) :
    afterMarkerBody? comment (comment ++ (' ' :: markerWord ++ (ending.text ++ rest))) =
      some rest := by
  have space : (' ' :: markerWord ++ (ending.text ++ rest)).dropWhile isIndent =
      markerWord ++ (ending.text ++ rest) := rfl
  have stop : (ending.text ++ rest).dropWhile isIndent = ending.text ++ rest := by
    cases ending <;> rfl
  simp only [afterMarkerBody?, Option.bind_eq_bind, after?_append, Option.bind_some, space, stop,
    afterLineEnd?_text]

/-- A marker line is found at the start of a text, whatever its place. -/
theorem splitAtMarker?_marker (hc : IsCommentToken comment) (place : Placement) (rest : Text) :
    splitAtMarker? comment (commentLine comment place markerWord ++ rest) = some ([], rest) := by
  have line : commentLine comment place markerWord ++ rest =
      place.indent ++ (comment ++ (' ' :: markerWord ++ (place.ending.text ++ rest))) := by
    simp [commentLine]
  have start : afterMarker? comment (commentLine comment place markerWord ++ rest) = some rest := by
    obtain ⟨others, h⟩ := afterIndents_indent place.isIndent hc
      (' ' :: markerWord ++ (place.ending.text ++ rest))
    rw [afterMarker?, line, h, List.findSome?_cons, afterMarkerBody?_marker]
  rw [splitAtMarker?]
  generalize commentLine comment place markerWord ++ rest = text at start
  cases text with
  | nil => simp [splitFrom, start]
  | cons c text => simp [splitFrom, start]

theorem isLine_comment (hc : IsCommentToken comment) {indent : Text}
    (hi : indent.all isIndent = true) {line : Text} (hl : IsLine line) :
    IsLine (indent ++ (comment ++ ' ' :: line)) where
  noNewline h := by
    rcases List.mem_append.mp h with h | h
    · have := List.all_eq_true.mp hi _ h
      simp [isIndent] at this
    · rcases List.mem_append.mp h with h | h
      · exact hc.noNewline h
      · exact hl.noNewline (by simpa using h)
  noReturn h := by
    have last := hl.noReturn
    cases line with
    | nil => simp at h
    | cons d line => simp_all [List.getLast?_append]

theorem splitLines_remainder (hc : IsCommentToken comment) (block : Block comment) :
    (splitLines block.remainder).map (stripComment comment) = block.output ++ [[]] := by
  obtain ⟨_, _, lines, tail, _, _, areLines, isTail⟩ := block
  simp only [Block.remainder, Block.output]
  induction lines with
  | nil =>
    have noNewline : '\n' ∉ tail := fun h => by
      have := List.all_eq_true.mp isTail _ h
      simp [isIndent] at this
    simp [splitLines_of_not_mem noNewline, stripComment_indent isTail hc]
  | cons line lines ih =>
    obtain ⟨place, line⟩ := line
    have first := isLine_comment hc place.isIndent (areLines (place, line) (by simp))
    rw [List.flatMap_cons, List.append_assoc, commentLine, splitLines_ended first, List.map_cons,
      stripComment_comment place.isIndent hc, ih fun l hl => areLines l (by simp [hl])]
    rfl

/-- A block is read as its program, and as its output with an empty line after it. -/
theorem read_block (hc : IsCommentToken comment) (block : Block comment) :
    read comment block.text = { exercised := block.program, lines := block.output ++ [[]] } := by
  have split := splitAtMarker?_append (commentLine comment block.marker markerWord ++ block.remainder)
    hc.noNewline block.whole block.unmarked
  rw [splitAtMarker?_marker hc] at split
  simp [read, Block.text, split, splitLines_remainder hc]

end Expectation

theorem verify_eq_ok_iff (expected : List Text) (stdout : Text) :
    verify expected stdout [] = .ok () ↔
      comparableLines (splitLines stdout) = comparableLines expected := by
  simp [verify]

/-- Captured output is accepted exactly when its lines are those that the block documents. So the
printed output of the block is accepted, and no other printed lines are. -/
theorem Block.verify_iff {comment : Text} (hc : IsCommentToken comment) (block : Block comment) :
    (∀ stdout, verify (Expectation.read comment block.text).lines stdout [] = .ok () ↔
      comparableLines (splitLines stdout) = block.output) ∧
    verify (Expectation.read comment block.text).lines (printed block.output) [] = .ok () ∧
    ∀ others : List Text, (∀ line ∈ others, IsLine line) → others ≠ block.output →
      verify (Expectation.read comment block.text).lines (printed others) [] =
        .error (.differentLines block.output others) := by
  have accepted (stdout : Text) : verify (Expectation.read comment block.text).lines stdout [] =
      .ok () ↔ comparableLines (splitLines stdout) = block.output := by
    rw [verify_eq_ok_iff, Expectation.read_block hc, comparableLines_append_nil]
  have areLines : ∀ line ∈ block.output, IsLine line := by
    intro line hl
    obtain ⟨entry, he, rfl⟩ := List.mem_map.mp hl
    exact block.areLines entry he
  refine ⟨accepted, (accepted _).mpr (comparableLines_printed areLines), ?_⟩
  intro others ho ne
  simp [verify, Expectation.read_block hc, comparableLines_append_nil, comparableLines_printed ho, ne]

/-- A block of slash comments with both line ends, an indented and an empty line. -/
def slashBlock : Block "//".toList where
  program := "print(1)\r\n".toList
  marker := ⟨"\t".toList, .crlf, by decide⟩
  lines := [(⟨"  ".toList, .lf, by decide⟩, "  a//".toList), (⟨[], .crlf, by decide⟩, [])]
  tail := " \t".toList
  whole := by decide
  unmarked := by decide
  areLines line h := by
    simp only [List.mem_cons, List.not_mem_nil, or_false] at h
    rcases h with rfl | rfl <;> exact ⟨by decide, by decide⟩
  isTail := by decide

theorem slashBlock_verify :
    verify (Expectation.read "//".toList slashBlock.text).lines "  a//\r\n\n".toList [] = .ok () ∧
    verify (Expectation.read "//".toList slashBlock.text).lines (printed [[], []]) [] =
      .error (.differentLines slashBlock.output [[], []]) := by
  have all := Block.verify_iff ⟨by decide, by decide⟩ slashBlock
  refine ⟨(all.1 _).mpr (by decide), all.2.2 _ ?_ (by decide)⟩
  intro line h
  simp only [List.mem_cons, List.not_mem_nil, or_false] at h
  rcases h with rfl | rfl <;> exact ⟨by decide, by decide⟩

end DocExamples
