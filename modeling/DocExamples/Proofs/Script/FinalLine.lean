import DocExamples.Proofs.Script.Comments

namespace DocExamples.Script

open Text Lexing

variable {script : Text} {program : Program}

/-- White space without CR that ends in a line end. -/
structure BlankLines (tail : Text) : Prop where
  blank : tail.all isBlank = true
  newline : tail.getLast? = some '\n'
  noReturn : '\r' ∉ tail

namespace BlankLines

variable {tail : Text}

theorem unified (h : BlankLines tail) : unified tail = tail := unified_of_lines h.noReturn h.newline

theorem more (h : BlankLines tail) : BlankLines (tail ++ ['\n']) where
  blank := by
    rw [List.all_append, h.blank]
    rfl
  newline := List.getLast?_concat
  noReturn := by simp [h.noReturn]

end BlankLines

/-- A script of whole lines ends in a visible character but for blank lines. -/
theorem exists_blankLines (noReturn : '\r' ∉ script) (last : script.getLast? = some '\n') :
    ∃ text tail, script = text ++ tail ∧ (text = [] ∨ EndsVisible text) ∧ BlankLines tail := by
  obtain ⟨text, tail, rfl, visible, blank⟩ := exists_visible script
  rw [List.mem_append, not_or] at noReturn
  exact ⟨text, tail, rfl, visible, blank, getLast?_of_lines visible last, noReturn.2⟩

/-- A sound script of whole lines is read alike with an empty line after it. -/
theorem Lexing.Reads.before_line {tokens : List Token} (h : Reads true start (unified script) tokens)
    (noReturn : '\r' ∉ script) (last : script.getLast? = some '\n') :
    Reads true start (unified (script ++ ['\n'])) tokens := by
  obtain ⟨text, tail, rfl, visible, lines⟩ := exists_blankLines noReturn last
  obtain ⟨below, again⟩ := h.replace visible lines.blank
  rw [List.append_assoc]
  refine again _ ?_
  rw [lines.unified] at below ⊢
  rw [lines.more.unified]
  have empty : IsReadOver [] := .of_spacing rfl
  have replaces := Replaces.of_lines lines.blank lines.newline below (.of_spacing rfl)
    (.of_newline empty) (unifyNewlines text) []
  rwa [List.append_nil] at replaces

/-- A sound script of whole lines is the same program, but for lines, with an empty line after it. -/
theorem ofText_before_line (compiled : Program.ofText script = .ok program) (noReturn : '\r' ∉ script)
    (last : script.getLast? = some '\n') :
    ∃ other, Program.ofText (script ++ ['\n']) = .ok other ∧
      unlinedBlock other = unlinedBlock program := by
  obtain ⟨tokens, reads, -⟩ := (compiles_iff script).mp ⟨program, compiled⟩
  exact ofText_of_tokens reads (reads.before_line noReturn last) compiled

/-- A script that is sound before an empty line is so without it, unless a backslash joins the two. -/
theorem Compiles.of_line (compiles : Compiles (script ++ ['\n'])) (noReturn : '\r' ∉ script)
    (last : script.getLast? = some '\n') (apart : ¬ ['\\', '\n'] <:+ script) : Compiles script := by
  obtain ⟨tokens, reads, sound⟩ := (compiles_iff _).mp compiles
  obtain ⟨text, tail, rfl, visible, lines⟩ := exists_blankLines noReturn last
  have inside := List.mem_of_getLast? lines.newline
  obtain ⟨line, lower⟩ := inLine_append inside ['\n']
  rw [List.append_assoc] at reads
  obtain ⟨below, again⟩ := reads.replace visible lines.more.blank
  rw [lines.more.unified, lower, List.all_append, Bool.and_eq_true] at below
  refine (compiles_iff _).mpr ⟨tokens, again tail ?_, sound⟩
  rw [lines.more.unified, lines.unified]
  refine .of_blank lines.blank inside below.1 (fun spaced => by rwa [line] at spaced) ?_
  intro backslash further start _
  obtain ⟨c, rest, rfl⟩ := List.exists_cons_of_ne_nil (List.ne_nil_of_mem inside)
  obtain ⟨rfl, -⟩ := List.cons_eq_cons.mp start
  refine ⟨rfl, ?_⟩
  by_cases single : rest = []
  · -- The line end right after the backslash is the only one.
    have joined : text.getLast? = some '\\' :=
      ((softens_unifyNewlines text).getLast?_eq_iff (by decide)).mpr backslash
    obtain ⟨front, rfl⟩ := List.getLast?_eq_some_iff.mp joined
    exact absurd ⟨front, by rw [single, List.append_assoc]; rfl⟩ apart
  · exact List.mem_of_getLast? (getLast?_belowLine lines.newline single)

/-- Whether a script that ends in a backslash and a line end needs no empty line below. -/
def StandsAlone (script : Text) : Prop :=
  ['\\', '\n'] <:+ script → Compiles (script ++ ['\n']) → Compiles script

instance (script : Text) : Decidable (StandsAlone script) :=
  inferInstanceAs (Decidable (['\\', '\n'] <:+ script → Compiles (script ++ ['\n']) → Compiles script))

/-- A script with CRLF at its end is read as one with LF there and an empty line below. -/
theorem unifyLines_of_suffix (ends : ['\r', '\n'] <:+ script) :
    unifyLines script = unifyLines (unifyNewlines script ++ ['\n']) := by
  have noReturn : '\r' ∉ unifyNewlines script ++ ['\n'] := by
    simp [carriage_not_mem_unifyNewlines script]
  rw [unifyLines_of_not_mem noReturn, unifyLines, if_pos (List.isSuffixOf_iff_suffix.mpr ends)]

theorem getLast?_unifyNewlines_of_suffix (ends : ['\r', '\n'] <:+ script) :
    (unifyNewlines script).getLast? = some '\n' := by
  obtain ⟨front, rfl⟩ := ends
  rw [getLast?_unifyNewlines, List.getLast?_append]
  rfl

/-- A script without CRLF at its end is read as with unified line ends. -/
theorem parse_unifyNewlines (ends : ¬ ['\r', '\n'] <:+ script) :
    Program.parse script = Program.parse (unifyNewlines script) := by
  have noReturn := carriage_not_mem_unifyNewlines script
  have ends' : ['\r', '\n'].isSuffixOf script = false := by
    rwa [Bool.eq_false_iff, Ne, List.isSuffixOf_iff_suffix]
  have same : unifyLines script = unifyLines (unifyNewlines script) := by
    rw [unifyLines_of_not_mem noReturn, unifyLines, ends']
    rfl
  rw [Program.parse, Program.parse, same]

/-- A script with CRLF at its end is the same program, but for lines, with unified line ends if that is sound. -/
theorem ofText_of_unifyNewlines (ends : ['\r', '\n'] <:+ script)
    (compiled : Program.ofText (unifyNewlines script) = .ok program) :
    ∃ other, Program.ofText script = .ok other ∧ unlinedBlock other = unlinedBlock program := by
  have last := getLast?_unifyNewlines_of_suffix ends
  obtain ⟨other, compiled', like⟩ :=
    ofText_before_line compiled (carriage_not_mem_unifyNewlines script) last
  rw [Program.ofText, Program.parse, ← unifyLines_of_suffix ends, ← Program.parse,
    ← Program.ofText] at compiled'
  exact ⟨other, compiled', like⟩

/-- A script with CRLF at its end is refused if it is so with unified line ends, unless it has to be sound
without an empty line below for that. -/
theorem not_compiles_of_unifyNewlines (ends : ['\r', '\n'] <:+ script)
    (alone : StandsAlone (unifyNewlines script)) (unsound : ¬ Compiles (unifyNewlines script)) :
    ¬ Compiles script := by
  have longer : ¬ Compiles (unifyNewlines script ++ ['\n']) := by
    intro compiles
    by_cases joined : ['\\', '\n'] <:+ unifyNewlines script
    · exact unsound (alone joined compiles)
    · exact unsound (compiles.of_line (carriage_not_mem_unifyNewlines script)
        (getLast?_unifyNewlines_of_suffix ends) joined)
  rwa [Compiles, Program.ofText, Program.parse, unifyLines_of_suffix ends, ← Program.parse,
    ← Program.ofText, ← Compiles]

end DocExamples.Script
