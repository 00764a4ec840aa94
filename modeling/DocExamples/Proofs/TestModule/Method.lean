import DocExamples.DocTest
import DocExamples.Proofs.Script.Strings
import DocExamples.TestModule.Generation

namespace DocExamples.TestModule

open Text Script Script.Lexing Documentation

/-- The texts in a method: its documentation, the literals in a row that make up the code, the name of the
file, and what is expected on standard error and as lines of standard output. -/
structure MethodParts where
  docstring : Text
  code : List Text
  file : Text
  stderr : Text
  lines : List Text

namespace MethodParts

def word (text : String) : Token := .name text.toList

def mark (text : String) : Token := .op text.toList

/-- One literal, or several ones between parentheses, which are one text. -/
def codeTokens : List Text → List Token
  | [literal] => [.str literal]
  | literals => mark "(" :: literals.map .str ++ [mark ")"]

def runTokens (file : Text) : List Token :=
  [word "with", word "ConsoleRedirector", mark "(", mark ")", word "as", word "redirector", mark ":",
    .newline, .indent, word "ExecutionContext", mark "(", word "code", mark ",", word "filename",
    mark "=", .str file, mark ")", mark ".", word "run", mark "(", word "dict", mark "(",
    word "globals", mark "(", mark ")", mark ")", mark ")", .newline]

def assertTokens (stderr : Text) (lines : List Text) : List Token :=
  [.dedent, word "assert", word "redirector", mark ".", word "captured_err", mark "==", .str stderr, .newline,
    word "assert", word "comparable_lines", mark "(", word "split_lines", mark "(", word "redirector",
    mark ".", word "captured_out", mark ")", mark ")", mark "==", mark "["] ++
    lines.flatMap (fun line => [.str line, mark ","]) ++ [mark "]", .newline]

/-- The tokens of a method's body. -/
def tokens (parts : MethodParts) : List Token :=
  [.indent, .str parts.docstring, .newline] ++
    ([word "code", mark "="] ++ codeTokens parts.code ++ [.newline]) ++ runTokens parts.file ++
    assertTokens parts.stderr parts.lines ++ [.dedent, .stop]

/-- What the two assertions of a method accept. -/
def Accepts (parts : MethodParts) (stdout stderr : Text) : Prop :=
  stderr = parts.stderr ∧ comparableLines (splitLines stdout) = parts.lines

end MethodParts

open MethodParts

def within : List Level := [⟨8, 8⟩, ⟨0, 0⟩]

theorem covers_docstring (t : Text) :
    Covers true start (printed [step ++ (step ++ quote t)]) [.indent, .str t, .newline] [quote t]
      true ⟨2, within, [], Lexing.noLead⟩ := by
  have text : printed [step ++ (step ++ quote t)] = (step ++ step) ++ (quote t ++ ['\n']) := by
    simp only [printed, List.flatMap_cons, List.flatMap_nil, List.append_assoc, List.append_nil]
  have after : Covers false ⟨1, within, [], Lexing.noLead⟩ ['\n'] [.newline] [] true ⟨2, within, [], Lexing.noLead⟩ :=
    Covers.of_walk 1 fun _ => rfl
  rw [text]
  refine Covers.quoted 1 [.indent] (fun mark inside hq => ?_) t (by simp) rfl after
  rcases isQuote_iff.mp hq with rfl | rfl <;> rfl

/-- The statement that names the code where it is one literal. -/
theorem covers_literal (code : Text) (line : Nat) :
    Covers true ⟨line, within, [], Lexing.noLead⟩ (printed [step ++ (step ++ ("code = ".toList ++ quote code))])
      [word "code", mark "=", .str code, .newline] [quote code] true ⟨line + 1, within, [], Lexing.noLead⟩ := by
  have text : printed [step ++ (step ++ ("code = ".toList ++ quote code))] =
      (step ++ (step ++ "code = ".toList)) ++ (quote code ++ ['\n']) := by
    simp only [printed, List.flatMap_cons, List.flatMap_nil, List.append_assoc, List.append_nil]
  have after : Covers false ⟨line, within, [], Lexing.noLead⟩ ['\n'] [.newline] [] true ⟨line + 1, within, [], Lexing.noLead⟩ :=
    Covers.of_walk 1 fun _ => rfl
  rw [text]
  exact Covers.quoted 5 [word "code", mark "="] (fun _ _ _ => rfl) code (by simp) rfl after

/-- Literals on lines of their own between brackets, each with a text after it. -/
theorem covers_rows {after : Text} {following : List Token} {brackets : List (Char × Nat)}
    (noQuote : (after ++ ['\n']).head?.any isQuote = false)
    (row : ∀ line, Covers false ⟨line, within, brackets, Lexing.noLead⟩ (after ++ ['\n']) following [] false
      ⟨line + 1, within, brackets, Lexing.noLead⟩) (texts : List Text) (line : Nat) :
    Covers false ⟨line, within, brackets, Lexing.noLead⟩
      (printed (texts.map fun t => step ++ (step ++ (step ++ (quote t ++ after)))))
      (texts.flatMap fun t => .str t :: following) (texts.map quote) false
      ⟨line + texts.length, within, brackets, Lexing.noLead⟩ := by
  induction texts generalizing line with
  | nil => exact Covers.nil
  | cons t texts ih =>
    have text : printed ((t :: texts).map fun t => step ++ (step ++ (step ++ (quote t ++ after)))) =
        (step ++ (step ++ step)) ++ (quote t ++ (after ++ ['\n'])) ++
          printed (texts.map fun t => step ++ (step ++ (step ++ (quote t ++ after)))) := by
      simp only [printed, List.map_cons, List.flatMap_cons, List.append_assoc]
    have first : Covers false ⟨line, within, brackets, Lexing.noLead⟩
        ((step ++ (step ++ step)) ++ (quote t ++ (after ++ ['\n']))) (.str t :: following) [quote t] false
        ⟨line + 1, within, brackets, Lexing.noLead⟩ :=
      Covers.quoted 12 [] (fun _ _ _ => rfl) t (by simp) noQuote (row line)
    have lines : line + 1 + texts.length = line + (t :: texts).length := by
      rw [List.length_cons]
      omega
    rw [text, ← lines]
    exact first.append (ih (line + 1))

/-- The literals in a row that stand for a code. -/
def literalsOf (code : Text) : List Text :=
  if (wholeLines code).length < 2 then [code] else wholeLines code

theorem flatten_literalsOf (code : Text) : (literalsOf code).flatten = code := by
  rw [literalsOf]
  split
  · simp
  · exact flatten_wholeLines code

theorem literalsOf_ne_nil (code : Text) : literalsOf code ≠ [] := by
  rw [literalsOf]
  split
  · simp
  · next several =>
    intro none
    simp [none] at several

theorem codeTokens_of_length {literals : List Text} (h : 2 ≤ literals.length) :
    codeTokens literals = mark "(" :: literals.map .str ++ [mark ")"] := by
  cases literals with
  | nil => simp at h
  | cons first literals =>
    cases literals with
    | nil => simp at h
    | cons second literals => rfl

theorem flatMap_str (texts : List Text) :
    (texts.flatMap fun t => [Token.str t]) = texts.map .str := List.map_eq_flatMap.symm

/-- The statement that names the code. -/
theorem covers_code (code : Text) (line : Nat) : ∃ last,
    Covers true ⟨line, within, [], Lexing.noLead⟩ (printed ((codeAssignment code).map fun row => step ++ (step ++ row)))
      ([word "code", mark "="] ++ codeTokens (literalsOf code) ++ [.newline])
      ((literalsOf code).map quote) true ⟨last, within, [], Lexing.noLead⟩ := by
  by_cases short : (wholeLines code).length < 2
  · have rows : codeAssignment code = ["code = ".toList ++ quote code] := by
      rw [codeAssignment, if_pos short]
    have single : literalsOf code = [code] := if_pos short
    rw [rows, single]
    exact ⟨line + 1, covers_literal code line⟩
  · have several : literalsOf code = wholeLines code := if_neg short
    have opened : Covers true ⟨line, within, [], Lexing.noLead⟩ (printed [step ++ (step ++ "code = (".toList)])
        [word "code", mark "=", mark "("] [] false ⟨line + 1, within, [('(', line)], Lexing.noLead⟩ :=
      Covers.of_walk 7 fun _ => rfl
    have row (line' : Nat) : Covers false ⟨line', within, [('(', line)], Lexing.noLead⟩ ([] ++ ['\n']) [] [] false
        ⟨line' + 1, within, [('(', line)], Lexing.noLead⟩ := Covers.of_walk 1 fun _ => rfl
    have rows := covers_rows rfl row (wholeLines code) (line + 1)
    have closed (line' : Nat) : Covers false ⟨line', within, [('(', line)], Lexing.noLead⟩
        (printed [step ++ (step ++ [')'])]) [mark ")", .newline] [] true ⟨line' + 1, within, [], Lexing.noLead⟩ :=
      Covers.of_walk 10 fun _ => rfl
    have text : printed ((codeAssignment code).map fun row => step ++ (step ++ row)) =
        printed [step ++ (step ++ "code = (".toList)] ++
          printed ((wholeLines code).map fun t => step ++ (step ++ (step ++ (quote t ++ [])))) ++
          printed [step ++ (step ++ [')'])] := by
      rw [codeAssignment, if_neg short, ← printed_append, ← printed_append]
      simp only [List.append_nil, List.map_append, List.map_cons, List.map_nil, List.map_map,
        Function.comp_def, List.cons_append, List.nil_append]
    have tokens : [word "code", mark "="] ++ codeTokens (literalsOf code) ++ [.newline] =
        [word "code", mark "=", mark "("] ++ (wholeLines code).flatMap (fun t => [.str t]) ++
          [mark ")", .newline] := by
      rw [several, codeTokens_of_length (Nat.le_of_not_lt short), flatMap_str]
      simp
    have literals : (literalsOf code).map quote = [] ++ (wholeLines code).map quote ++ [] := by
      rw [several, List.nil_append, List.append_nil]
    rw [text, tokens, literals]
    exact ⟨_, (opened.append rows).append (closed _)⟩

def runLines (file : Text) : List Text :=
  [step ++ (step ++ "with ConsoleRedirector() as redirector:".toList),
    step ++ (step ++ (step ++
      ("ExecutionContext(code, filename=".toList ++ (quote file ++ ").run(dict(globals()))".toList)))),
    []]

set_option maxRecDepth 4000 in
/-- The statement that runs the code in a window, and the empty line after it. -/
theorem covers_run (file : Text) (line : Nat) :
    Covers true ⟨line, within, [], Lexing.noLead⟩ (printed (runLines file)) (runTokens file) [quote file]
      true ⟨line + 3, ⟨12, 12⟩ :: within, [], Lexing.noLead⟩ := by
  have text : printed (runLines file) =
      (step ++ (step ++ ("with ConsoleRedirector() as redirector:".toList ++ ('\n' ::
        (step ++ (step ++ (step ++ "ExecutionContext(code, filename=".toList))))))) ++
      (quote file ++ (").run(dict(globals()))".toList ++ ['\n', '\n'])) := by
    simp only [runLines, printed, List.flatMap_cons, List.flatMap_nil, List.append_assoc,
      List.nil_append, List.cons_append, List.append_nil]
  have after : Covers false ⟨line + 1, ⟨12, 12⟩ :: within, [('(', line + 1)], Lexing.noLead⟩
      (").run(dict(globals()))".toList ++ ['\n', '\n'])
      [mark ")", mark ".", word "run", mark "(", word "dict", mark "(", word "globals", mark "(",
        mark ")", mark ")", mark ")", .newline] [] true ⟨line + 3, ⟨12, 12⟩ :: within, [], Lexing.noLead⟩ :=
    Covers.of_walk 13 fun _ => rfl
  rw [text]
  have before : ∀ mark' inside, isQuote mark' = true →
      walk 20 true ⟨line, within, [], Lexing.noLead⟩
        ((step ++ (step ++ ("with ConsoleRedirector() as redirector:".toList ++ ('\n' ::
          (step ++ (step ++ (step ++ "ExecutionContext(code, filename=".toList))))))) ++
          mark' :: inside) =
        some ([word "with", word "ConsoleRedirector", mark "(", mark ")", word "as",
          word "redirector", mark ":", .newline, .indent, word "ExecutionContext", mark "(",
          word "code", mark ",", word "filename", mark "="], false,
          ⟨line + 1, ⟨12, 12⟩ :: within, [('(', line + 1)], Lexing.noLead⟩, mark' :: inside) := by
    intro mark' inside hq
    rcases isQuote_iff.mp hq with rfl | rfl <;> rfl
  exact Covers.quoted 20 _ before file (by simp) rfl after

def assertLines (lines : List Text) : List Text :=
  [step ++ (step ++ "assert redirector.captured_err == \"\"".toList),
    step ++ (step ++
      "assert comparable_lines(split_lines(redirector.captured_out)) == [".toList)] ++
    lines.map (fun line => step ++ (step ++ (step ++ (quote line ++ [','])))) ++
    [step ++ (step ++ [']'])]

def emptyLiteral : Text := ['\x22', '\x22']

/-- The assertion that nothing was written to standard error. -/
theorem covers_assertSilent (line : Nat) :
    Covers true ⟨line, ⟨12, 12⟩ :: within, [], Lexing.noLead⟩
      (printed [step ++ (step ++ "assert redirector.captured_err == \"\"".toList)])
      [.dedent, word "assert", word "redirector", mark ".", word "captured_err", mark "==", .str [],
        .newline] [emptyLiteral] true ⟨line + 1, within, [], Lexing.noLead⟩ := by
  have before : Covers true ⟨line, ⟨12, 12⟩ :: within, [], Lexing.noLead⟩
      (step ++ (step ++ "assert redirector.captured_err == ".toList))
      [.dedent, word "assert", word "redirector", mark ".", word "captured_err", mark "=="] [] false
      ⟨line, within, [], Lexing.noLead⟩ := Covers.of_walk 9 fun _ => rfl
  have newline : Covers false ⟨line, within, [], Lexing.noLead⟩ ['\n'] [.newline] [] true ⟨line + 1, within, [], Lexing.noLead⟩ :=
    Covers.of_walk 1 fun _ => rfl
  have literal : Covers false ⟨line, within, [], Lexing.noLead⟩ (emptyLiteral ++ ['\n']) [.str [], .newline]
      [emptyLiteral] true ⟨line + 1, within, [], Lexing.noLead⟩ := by
    refine ⟨fun {rest more others} left => ?_⟩
    have nothing : IsInside '\x22' [] := .nil
    have after : ('\n' :: rest).head?.any isQuote = false := rfl
    have move : Lexing.step false ⟨line, within, [], Lexing.noLead⟩ (emptyLiteral ++ ('\n' :: rest)) =
        .goes [⟨.str [], line, 0⟩] false ⟨line, within, [], Lexing.noLead⟩ ('\n' :: rest) :=
      innerStep_inside ⟨line, within, [], Lexing.noLead⟩ rfl nothing rfl after
    exact .literal move rfl (newline.spells left)
  exact before.append literal

/-- The assertion on the lines of standard output. -/
theorem covers_assertLines (lines : List Text) (line : Nat) : ∃ last,
    Covers true ⟨line, ⟨12, 12⟩ :: within, [], Lexing.noLead⟩ (printed (assertLines lines)) (assertTokens [] lines)
      (emptyLiteral :: lines.map quote) true ⟨last, within, [], Lexing.noLead⟩ := by
  have opened : Covers true ⟨line + 1, within, [], Lexing.noLead⟩
      (printed [step ++ (step ++
        "assert comparable_lines(split_lines(redirector.captured_out)) == [".toList)])
      [word "assert", word "comparable_lines", mark "(", word "split_lines", mark "(",
        word "redirector", mark ".", word "captured_out", mark ")", mark ")", mark "==", mark "["] []
      false ⟨line + 2, within, [('[', line + 1)], Lexing.noLead⟩ := Covers.of_walk 17 fun _ => rfl
  have row (line' : Nat) : Covers false ⟨line', within, [('[', line + 1)], Lexing.noLead⟩ ([','] ++ ['\n'])
      [mark ","] [] false ⟨line' + 1, within, [('[', line + 1)], Lexing.noLead⟩ := Covers.of_walk 2 fun _ => rfl
  have closed (line' : Nat) : Covers false ⟨line', within, [('[', line + 1)], Lexing.noLead⟩
      (printed [step ++ (step ++ [']'])]) [mark "]", .newline] [] true ⟨line' + 1, within, [], Lexing.noLead⟩ :=
    Covers.of_walk 10 fun _ => rfl
  have rows := covers_rows rfl row lines (line + 2)
  have whole := (((covers_assertSilent line).append opened).append rows).append (closed _)
  refine ⟨line + 2 + lines.length + 1, ?_⟩
  have literals : emptyLiteral :: lines.map quote =
      [emptyLiteral] ++ [] ++ lines.map quote ++ [] := by simp
  rw [literals, assertLines, printed_append, printed_append]
  exact whole

/-- The lines of a method below its first one. -/
def bodyLines (parts : MethodParts) (code : Text) : List Text :=
  [step ++ (step ++ quote parts.docstring)] ++
    (codeAssignment code).map (fun row => step ++ (step ++ row)) ++ runLines parts.file ++
    assertLines parts.lines

/-- What is read in a method of an example: the texts that it has to hold. -/
def partsOf (comment : Text) (e : Example) : MethodParts where
  docstring := e.name
  code := literalsOf (testedCode e)
  file := "<doctest ".toList ++ e.name ++ ['>']
  stderr := []
  lines := testedLines comment e

/-- The literals in a method as they are written. -/
def literals (parts : MethodParts) : List Text :=
  [quote parts.docstring] ++ parts.code.map quote ++ [quote parts.file] ++
    (emptyLiteral :: parts.lines.map quote)

theorem spells_bodyLines (comment : Text) (e : Example) :
    Spells true start (printed (bodyLines (partsOf comment e) (testedCode e)))
      (partsOf comment e).tokens (literals (partsOf comment e)) := by
  obtain ⟨line, code⟩ := covers_code (testedCode e) 2
  obtain ⟨last, asserts⟩ := covers_assertLines (testedLines comment e) (line + 3)
  have run := covers_run (partsOf comment e).file line
  have whole := (((covers_docstring e.name).append code).append run).append asserts
  have ends : Lexing.step true ⟨last, within, [], Lexing.noLead⟩ [] =
      .ends ⟨[⟨.dedent, last - 1, 0⟩, ⟨.stop, last - 1, 0⟩], .complete⟩ := rfl
  have read := whole.spells (.ends ends rfl)
  rw [List.append_nil, List.append_nil] at read
  rw [bodyLines, printed_append, printed_append, printed_append]
  exact read

theorem inLine_of_mem_literals {parts : MethodParts} {literal : Text} (h : literal ∈ literals parts) :
    InLine literal := by
  have quoted {texts : List Text} (mem : literal ∈ texts.map quote) : InLine literal := by
    obtain ⟨t, -, rfl⟩ := List.mem_map.mp mem
    exact quote_inLine t
  simp only [literals, List.mem_append, List.mem_cons, List.not_mem_nil, or_false] at h
  rcases h with ((rfl | code) | rfl) | rfl | lines
  · exact quote_inLine _
  · exact quoted code
  · exact quote_inLine _
  · decide
  · exact quoted lines

end DocExamples.TestModule
