import DocExamples.Proofs.Script.Beginning
import DocExamples.Proofs.Script.LineEnds
import DocExamples.Proofs.Text.Trim

namespace DocExamples.Script

open Text Lexing

variable {lead text tail white other : Text}

/-- How white space goes on after the last line of a text. -/
inductive Border
  /-- It ends the line. -/
  | line
  /-- It ends the line at once, and further lines follow, to which a backslash joins it. -/
  | lines
  /-- It holds foreign characters before the end of the line. -/
  | foreign
  deriving DecidableEq, Repr

namespace Border

def of (white : Text) : Border :=
  if (inLine white).all isLineBlank then
    if inLine white = [] ∧ belowLine white ≠ [] then .lines else .line
  else .foreign

/-- White space that goes on like this. -/
def sample : Border → Text
  | line => []
  | lines => ['\n', '\n']
  | foreign => ['\x0b']

theorem all_isBlank_sample (border : Border) : border.sample.all isBlank = true := by
  cases border <;> decide

theorem of_sample (border : Border) : of (unified border.sample) = border := by
  cases border <;> decide

theorem below_sample (border : Border) :
    (belowLine (unified border.sample)).all isSpacing = true := by
  cases border <;> decide

theorem of_eq_foreign_iff : of white = .foreign ↔ (inLine white).all isLineBlank = false := by
  unfold of
  split
  · split <;> simp_all
  · simp_all

theorem of_eq_lines_iff : of white = .lines ↔ inLine white = [] ∧ belowLine white ≠ [] := by
  unfold of
  by_cases line : inLine white = []
  · simp [line]
  · simp only [line, false_and, if_false, iff_false]
    split <;> simp

end Border

namespace Lexing

/-- White space that goes on alike after the last line may stand in the place of other. -/
theorem Replaces.of_border_eq (same : Border.of white = Border.of other)
    (hb : other.all Text.isBlank = true) (newline : other.getLast? = some '\n')
    (below : (belowLine other).all isSpacing = true) : Replaces text white other := by
  refine .of_blank hb (List.mem_of_getLast? newline) below ?_ ?_
  · intro blank
    have visible : Border.of other ≠ .foreign := by
      rw [← same, Ne, Border.of_eq_foreign_iff, blank]
      decide
    simpa [Border.of_eq_foreign_iff] using visible
  · intro _ further hw hne
    have lines : Border.of white = .lines := by
      subst hw
      rw [Border.of_eq_lines_iff]
      exact ⟨rfl, by simpa [belowLine] using hne⟩
    rw [same, Border.of_eq_lines_iff] at lines
    exact ⟨lines.1, List.mem_of_getLast? (getLast?_belowLine newline lines.2)⟩

/-- Where a script starts does not matter but for levels and brackets. -/
theorem Reads.of_alike {fresh : Bool} {here place : Position} {tokens : List Token}
    (h : Reads fresh here (text ++ white) tokens) (alike : here.Alike place)
    (visible : EndsVisible text) (hb : white.all isBlank = true)
    (newline : white.getLast? = some '\n') : Reads fresh place (text ++ white) tokens := by
  obtain ⟨below, again⟩ := h.replay visible hb (List.mem_of_getLast? newline)
  exact again place white alike (.of_border_eq rfl hb newline below)

end Lexing

/-- A script of white space is an empty program. -/
theorem compiles_blank_iff (hb : white.all isBlank = true) :
    Compiles white ↔ white.all isLayout = true := by
  have sound : Sound (endTokens start.levels) := ⟨[], _, rfl, rfl⟩
  have blank : (unified white).all isBlank = true := by rwa [all_isBlank_unified]
  rw [compiles_iff, ← all_isSpacing_unified]
  constructor
  · rintro ⟨tokens, reads, -⟩
    exact ((reads_blank_fresh blank).mp reads).1
  · intro spaced
    exact ⟨_, (reads_blank_fresh blank).mpr ⟨spaced, rfl⟩, sound⟩

/-- A text between visible characters is empty or starts and ends with one. -/
theorem exists_of_isTrimmed (trimmed : IsTrimmed isBlank text) :
    text = [] ∨ EndsVisible text ∧ ∃ c rest, text = c :: rest ∧ isBlank c = false := by
  cases text with
  | nil => exact .inl rfl
  | cons c rest =>
    have last := List.getLast?_eq_some_getLast (List.cons_ne_nil c rest)
    exact .inr ⟨⟨_, last, trimmed.last _ last⟩, c, rest, rfl, trimmed.first c rfl⟩

/-- White space that does not indent the script after it, or stands in a line with a comment or nothing. -/
def IsFlush (lead script : Text) : Prop :=
  lead.all isLayout = true ∧
    (lead.getLast?.any isIndent = false ∨ startsIdle (unified script) = true)

/-- White space before white space leaves it sound exactly when it is flush. -/
theorem compiles_blank_lead_iff (hl : lead.all isBlank = true) (hb : tail.all isBlank = true) :
    Compiles (lead ++ tail) ↔ IsFlush lead tail ∧ Compiles tail := by
  have whole : (lead ++ tail).all isBlank = true := by simp [hl, hb]
  rw [compiles_blank_iff whole, compiles_blank_iff hb, List.all_append, Bool.and_eq_true, IsFlush,
    ← all_isSpacing_unified tail]
  constructor
  · rintro ⟨spaced, below⟩
    exact ⟨⟨spaced, .inr (startsIdle_of_spacing below)⟩, below⟩
  · rintro ⟨⟨spaced, -⟩, below⟩
    exact ⟨spaced, below⟩

/-- White space before the first visible character of a sound script is of scripts, and does not indent it. -/
theorem flush_of_sound {c : Char} {tokens : List Token} (first : isBlank c = false)
    (hl : lead.all isBlank = true) (reads : Reads true start (lead ++ c :: text) tokens)
    (sound : Sound tokens) :
    lead.all isSpacing = true ∧ (lead.getLast?.any isIndent = false ∨ startsIdle (c :: text) = true) := by
  have spaced : lead.all isSpacing = true := by
    by_contra foreign
    exact not_reads_of_foreign_lead hl (by simpa using foreign) rfl reads
  refine ⟨spaced, ?_⟩
  by_contra indented
  rw [not_or, Bool.not_eq_false, Bool.not_eq_true] at indented
  exact head?_ne_indent_of_sound sound (head?_eq_indent first indented.2 spaced indented.1 rfl rfl reads)

/-- White space before a script leaves it sound exactly when it is flush. -/
theorem compiles_lead_iff (hl : lead.all isBlank = true) (trimmed : IsTrimmed isBlank text)
    (hb : tail.all isBlank = true) :
    Compiles (lead ++ (text ++ tail)) ↔ IsFlush lead (text ++ tail) ∧ Compiles (text ++ tail) := by
  rcases exists_of_isTrimmed trimmed with rfl | ⟨visible, c, rest, rfl, first⟩
  · exact compiles_blank_lead_iff hl hb
  have visible' : EndsVisible (c :: unifyNewlines rest) := by
    rw [← unifyNewlines_visible first]
    exact endsVisible_unifyNewlines visible
  have blank : (unifyNewlines lead).all isBlank = true := by rwa [all_isBlank_unifyNewlines]
  have blank' : (unified tail).all isBlank = true := by rwa [all_isBlank_unified]
  have script : unified (c :: rest ++ tail) = c :: unifyNewlines rest ++ unified tail :=
    unified_lead first visible [] tail
  rw [compiles_iff, compiles_iff, unified_lead first visible, IsFlush, script, List.cons_append]
  constructor
  · rintro ⟨tokens, reads, sound⟩
    obtain ⟨spaced, flush⟩ := flush_of_sound first blank reads sound
    obtain ⟨place, alike, same⟩ := reads_after_lead spaced flush start rfl
    rw [isIndent_getLast?_unifyNewlines] at flush
    rw [all_isSpacing_unifyNewlines] at spaced
    refine ⟨⟨spaced, flush⟩, tokens, ?_, sound⟩
    exact ((same _).mp reads).of_alike alike.symm visible' blank' (getLast?_unified tail)
  · rintro ⟨⟨spaced, flush⟩, tokens, reads, sound⟩
    rw [← all_isSpacing_unifyNewlines] at spaced
    rw [← isIndent_getLast?_unifyNewlines] at flush
    obtain ⟨place, alike, same⟩ := reads_after_lead spaced flush start rfl
    refine ⟨tokens, (same _).mpr ?_, sound⟩
    exact reads.of_alike alike visible' blank' (getLast?_unified tail)

/-- The lines below a script that is read hold white space of scripts only, and the script is read alike
with anything that may stand in the place of the white space after it. -/
theorem Lexing.Reads.replace {tokens : List Token} (h : Reads true start (unified (text ++ tail)) tokens)
    (ends : text = [] ∨ EndsVisible text) (hb : tail.all isBlank = true) :
    (belowLine (unified tail)).all isSpacing = true ∧ ∀ other,
      Replaces (unifyNewlines text) (unified tail) (unified other) →
        Reads true start (unified (text ++ other)) tokens := by
  have blank : (unified tail).all isBlank = true := by rwa [all_isBlank_unified]
  have newline := List.mem_of_getLast? (getLast?_unified tail)
  rcases ends with rfl | visible
  · rw [List.nil_append, reads_blank_fresh blank, all_isSpacing_iff newline] at h
    obtain ⟨⟨line, below⟩, rfl⟩ := h
    exact ⟨below, fun other replaces => (replaces.endsLine line).2.1 start⟩
  · rw [unified_append visible] at h
    obtain ⟨below, again⟩ := h.replay (endsVisible_unifyNewlines visible) blank newline
    refine ⟨below, fun other replaces => ?_⟩
    rw [unified_append visible]
    exact again start _ (.refl start) replaces

/-- The lines below a sound script hold white space of scripts only, and anything may follow it that may
stand in the place of the white space after it. -/
theorem Compiles.replace (compiles : Compiles (text ++ tail)) (trimmed : IsTrimmed isBlank text)
    (hb : tail.all isBlank = true) :
    (belowLine (unified tail)).all isSpacing = true ∧ ∀ other,
      Replaces (unifyNewlines text) (unified tail) (unified other) → Compiles (text ++ other) := by
  obtain ⟨tokens, reads, sound⟩ := (compiles_iff _).mp compiles
  obtain ⟨below, again⟩ := reads.replace ((exists_of_isTrimmed trimmed).imp_right And.left) hb
  exact ⟨below, fun other replaces => (compiles_iff _).mpr ⟨tokens, again other replaces, sound⟩⟩

/-- White space after a script leaves it sound exactly when the lines below hold white space of scripts
only and white space that goes on alike after the last line leaves it sound. -/
theorem compiles_tail_iff (trimmed : IsTrimmed isBlank text) (hb : tail.all isBlank = true) :
    Compiles (text ++ tail) ↔
      (belowLine (unified tail)).all isSpacing = true ∧
        Compiles (text ++ (Border.of (unified tail)).sample) := by
  have blank : (unified tail).all isBlank = true := by rwa [all_isBlank_unified]
  have newline := getLast?_unified tail
  have alike := Border.of_sample (Border.of (unified tail))
  constructor
  · intro compiles
    obtain ⟨below, again⟩ := compiles.replace trimmed hb
    refine ⟨below, again _ (.of_border_eq alike.symm ?_ (getLast?_unified _) (Border.below_sample _))⟩
    rw [all_isBlank_unified]
    exact Border.all_isBlank_sample _
  · rintro ⟨below, compiles⟩
    obtain ⟨-, again⟩ := compiles.replace trimmed (Border.all_isBlank_sample _)
    exact again _ (.of_border_eq alike blank newline below)

/-- A sound script stays sound before an empty line. -/
theorem Compiles.before_lines (compiles : Compiles text) (trimmed : IsTrimmed isBlank text) :
    Compiles (text ++ Border.lines.sample) := by
  rw [← List.append_nil text] at compiles
  refine (compiles.replace trimmed rfl).2 _ (.of_blank rfl (by decide) rfl (fun _ => rfl) ?_)
  intro _ below line hne
  obtain rfl : [] = below := List.tail_eq_of_cons_eq line
  exact absurd rfl hne

/-- A script that is sound before an empty line is so without it, unless a backslash joins the two. -/
theorem Compiles.of_lines (compiles : Compiles (text ++ Border.lines.sample))
    (trimmed : IsTrimmed isBlank text) (joined : text.getLast? ≠ some '\\') : Compiles text := by
  rw [← List.append_nil text]
  refine (compiles.replace trimmed (Border.all_isBlank_sample _)).2 _
    (.of_blank rfl (by decide) rfl (fun _ => rfl) fun last => absurd last ?_)
  rw [getLast?_unifyNewlines]
  cases last : text.getLast? with
  | none => simp
  | some c =>
    by_cases carriage : c = '\r'
    · simp [carriage]
    · simpa [carriage, last] using joined

/-- A script that is sound before foreign white space is so without it. -/
theorem Compiles.of_foreign (compiles : Compiles (text ++ Border.foreign.sample))
    (trimmed : IsTrimmed isBlank text) : Compiles text := by
  rw [← List.append_nil text]
  refine (compiles.replace trimmed (Border.all_isBlank_sample _)).2 _
    (.of_blank rfl (by decide) rfl (fun _ => rfl) ?_)
  intro _ below line
  cases line

/-- White space around a text that neither indents it nor puts foreign characters below it. -/
def Harmless (lead text tail : Text) : Prop :=
  IsFlush lead (text ++ tail) ∧ (belowLine (unified tail)).all isSpacing = true

/-- White space that is trimmed off a script without deciding whether the script is sound. -/
structure TrimsAlike (script : Text) : Prop where
  /-- A sound text is sound between the white space. -/
  sound : Compiles (trim isBlank script) →
    Harmless (script.takeWhile isBlank) (trim isBlank script) (trailing isBlank script) ∧
      (Border.of (unified (trailing isBlank script)) = .foreign →
        Compiles (trim isBlank script ++ Border.foreign.sample))
  /-- An unsound text is not made sound by a line to which a backslash joins it. -/
  joined : ¬ Compiles (trim isBlank script) →
    Harmless (script.takeWhile isBlank) (trim isBlank script) (trailing isBlank script) →
    Border.of (unified (trailing isBlank script)) = .lines →
    (trim isBlank script).getLast? = some '\\' →
      ¬ Compiles (trim isBlank script ++ Border.lines.sample)

theorem compiles_parts_iff (script : Text) :
    Compiles script ↔
      Harmless (script.takeWhile isBlank) (trim isBlank script) (trailing isBlank script) ∧
        Compiles (trim isBlank script ++ (Border.of (unified (trailing isBlank script))).sample) := by
  have trimmed := isTrimmed_trim isBlank script
  have blank := all_trailing isBlank script
  conv_lhs => rw [← takeWhile_trim_trailing isBlank script]
  rw [compiles_lead_iff List.all_takeWhile trimmed blank, compiles_tail_iff trimmed blank, Harmless,
    and_assoc]

/-- A script and its text without the white space around it compile alike exactly when the white space
does not decide it. -/
theorem compiles_trim_iff (script : Text) :
    (Compiles (trim isBlank script) ↔ Compiles script) ↔ TrimsAlike script := by
  have trimmed := isTrimmed_trim isBlank script
  have parts := compiles_parts_iff script
  constructor
  · intro same
    refine ⟨fun compiles => ?_, fun unsound harmless lines _ compiles => unsound ?_⟩
    · obtain ⟨harmless, sample⟩ := parts.mp (same.mp compiles)
      exact ⟨harmless, fun foreign => foreign ▸ sample⟩
    · exact same.mpr (parts.mpr ⟨harmless, lines ▸ compiles⟩)
  · rintro ⟨sound, joined⟩
    rw [parts]
    constructor
    · intro compiles
      obtain ⟨harmless, foreign⟩ := sound compiles
      refine ⟨harmless, ?_⟩
      cases border : Border.of (unified (trailing isBlank script)) with
      | line => rwa [Border.sample, List.append_nil]
      | lines => exact compiles.before_lines trimmed
      | foreign => exact foreign border
    · rintro ⟨harmless, compiles⟩
      cases border : Border.of (unified (trailing isBlank script)) with
      | line => rwa [border, Border.sample, List.append_nil] at compiles
      | lines =>
        rw [border] at compiles
        by_contra unsound
        have last := mt (compiles.of_lines trimmed) unsound
        exact joined unsound harmless border (not_not.mp last) compiles
      | foreign =>
        rw [border] at compiles
        exact compiles.of_foreign trimmed

end DocExamples.Script
