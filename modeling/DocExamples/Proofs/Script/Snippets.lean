import DocExamples.Proofs.Language
import DocExamples.Proofs.Script.Compilation
import DocExamples.Proofs.Script.Running
import DocExamples.Proofs.Script.Warnings

namespace DocExamples.Snippet

open Text Script

variable {snippet : Snippet} {program other : Program}

/-- A snippet that NUL keeps from being read. -/
def HasNul (snippet : Snippet) : Prop :=
  '\x00' ∈ snippet.fileName ∨ '\x00' ∈ dedentCode snippet.code

theorem run_of_hasNul (nul : snippet.HasNul) (world : World) :
    snippet.run world = (some (.ofCause (.ofRefusal snippet.fileName
      (if '\x00' ∈ snippet.fileName then .nulInFileName else .nulInSource))), world) := by
  unfold HasNul at nul
  by_cases inFile : '\x00' ∈ snippet.fileName
  · simp [run, warn, compile, inFile]
  · simp only [inFile, false_or] at nul
    simp [run, warn, compile, inFile, nul]

/-- A snippet of a program is run after its warnings were given. -/
theorem run_of_ofText (noNul : ¬ snippet.HasNul)
    (read : Program.ofText (dedentCode snippet.code) = .ok program) (world : World) :
    snippet.run world =
      match Warning.giveAll snippet.fileName program.warnings world with
      | (none, between) => program.run between
      | ended => ended := by
  rw [HasNul, not_or] at noNul
  have compiled : compile snippet.fileName (dedentCode snippet.code) = .ok program :=
    compile_eq_ok_iff.mpr ⟨noNul.1, noNul.2, read⟩
  have warned : snippet.warn world = Warning.giveAll snippet.fileName program.warnings world := by
    have parsed := (ofText_eq_ok_iff.mp read).1
    simp only [warn, List.contains_eq_mem, noNul.1, noNul.2, decide_false, Bool.or_self,
      Bool.false_eq_true, if_false, Language.warn, Script.warn, parsed]
  rw [run, warned, compiled]
  rcases Warning.giveAll snippet.fileName program.warnings world with ⟨_ | thrown, between⟩ <;> rfl

/-- A snippet that is refused fails by an error that is told, and closes no stream. -/
theorem exists_of_refused (refused : ¬ Compiles (dedentCode snippet.code)) (world : World) :
    ∃ thrown after, snippet.run world = (some thrown, after) ∧ thrown.IsTold ∧
      after.streams.areOpen = world.streams.areOpen := by
  have mild : Warning.IsMild world (snippet.warn world) := by
    unfold warn
    dsimp only
    split
    · exact .idle world
    · change Warning.IsMild world (Script.warn _ _ world)
      unfold Script.warn
      split
      · exact Warning.giveAll_isMild _ _ world
      · exact .idle world
  rw [run]
  rcases warned : snippet.warn world with ⟨_ | thrown, after⟩
  · rw [warned] at mild
    cases compiled : compile snippet.fileName (dedentCode snippet.code) with
    | error refusal => exact ⟨_, _, rfl, .of_refusal _ refusal, mild.areOpen⟩
    | ok program => exact absurd ⟨program, (compile_eq_ok_iff.mp compiled).2.2⟩ refused
  · rw [warned] at mild
    exact ⟨thrown, after, rfl, mild.told thrown rfl, mild.areOpen⟩

section

variable {code code' : Text} (file : Text)

theorem hasNul_iff (nul : '\x00' ∈ dedentCode code ↔ '\x00' ∈ dedentCode code') :
    HasNul ⟨code, file⟩ ↔ HasNul ⟨code', file⟩ := or_congr_right nul

/-- Code that is read as the same program, or refused for the same reason, is run the same. -/
theorem run_of_parse_eq (nul : '\x00' ∈ dedentCode code ↔ '\x00' ∈ dedentCode code')
    (same : Program.parse (dedentCode code) = Program.parse (dedentCode code')) :
    run ⟨code, file⟩ = run ⟨code', file⟩ := by
  have read : Language.read (dedentCode code) = Language.read (dedentCode code') := by
    change Program.ofText _ = Program.ofText _
    rw [Program.ofText, Program.ofText, same]
  funext world
  have warned : warn ⟨code, file⟩ world = warn ⟨code', file⟩ world := by
    simp only [warn, List.contains_eq_mem, nul, Language.warn, Script.warn, same]
  have compiled : compile file (dedentCode code) = compile file (dedentCode code') := by
    simp only [compile, List.contains_eq_mem, nul, read]
  rw [run, run, warned, compiled]

/-- Code that is refused fails alike. -/
theorem runsNear_of_refused (refused : ¬ Compiles (dedentCode code))
    (refused' : ¬ Compiles (dedentCode code')) (world : World) :
    RunsNear (run ⟨code, file⟩ world) (run ⟨code', file⟩ world) := by
  obtain ⟨thrown, after, ran, told, areOpen⟩ := @exists_of_refused ⟨code, file⟩ refused world
  obtain ⟨thrown', after', ran', told', areOpen'⟩ :=
    @exists_of_refused ⟨code', file⟩ refused' world
  rw [ran, ran']
  exact .told told told' (areOpen.trans areOpen'.symm)

variable (nul : '\x00' ∈ dedentCode code ↔ '\x00' ∈ dedentCode code')
  (read : Program.ofText (dedentCode code) = .ok program)
  (read' : Program.ofText (dedentCode code') = .ok other)
  (like : unlinedBlock program = unlinedBlock other)

include nul read read' like

/-- Programs with the same warnings that differ in lines only are run the same. -/
theorem run_of_like_warned (warned : program.warnings = other.warnings) :
    run ⟨code, file⟩ = run ⟨code', file⟩ := by
  funext world
  by_cases noNul : HasNul ⟨code, file⟩
  · rw [run_of_hasNul noNul, run_of_hasNul ((hasNul_iff file nul).mp noNul)]
  · rw [run_of_ofText noNul read, run_of_ofText (mt (hasNul_iff file nul).mpr noNul) read', warned,
      Program.run_congr like]

/-- Programs that differ in lines only are run alike. -/
theorem runsNear_of_like (world : World) :
    RunsNear (run ⟨code, file⟩ world) (run ⟨code', file⟩ world) := by
  by_cases noNul : HasNul ⟨code, file⟩
  · rw [run_of_hasNul noNul, run_of_hasNul ((hasNul_iff file nul).mp noNul)]
    exact .refl _
  · rw [run_of_ofText noNul read, run_of_ofText (mt (hasNul_iff file nul).mpr noNul) read']
    have given := Warning.giveAll_near (Program.messages_congr like) file (.refl world)
    generalize Warning.giveAll _ program.warnings _ = one,
      Warning.giveAll _ other.warnings _ = two at given
    cases given with
    | ended thrown near =>
      cases thrown with
      | none =>
        rw [Program.run_congr like]
        exact other.run_near near
      | some thrown => exact .ended _ near
    | told told told' areOpen => exact .told told told' areOpen

/-- A program that leaves nothing on standard error does the same as one that differs in lines only. -/
theorem run_of_like_silent {world after : World} (ran : run ⟨code, file⟩ world = (none, after))
    (silent : after.streams.err.text = []) : run ⟨code', file⟩ world = (none, after) := by
  by_cases noNul : HasNul ⟨code, file⟩
  · rw [run_of_hasNul noNul] at ran
    cases ran
  rw [run_of_ofText noNul read] at ran
  rw [run_of_ofText (mt (hasNul_iff file nul).mpr noNul) read']
  split at ran
  · next between given =>
    have quiet := Program.silent_of_run ran silent
    -- A warning that was given is on standard error; so none was, and none is given for other lines.
    obtain rfl := Warning.eq_of_giveAll_silent given quiet
    have given' := Warning.giveAll_near (Program.messages_congr like) file (.refl between)
    rw [given] at given'
    generalize heq : Warning.giveAll _ other.warnings _ = outcome at given'
    cases given' with
    | ended _ near =>
      obtain rfl := Warning.eq_of_giveAll_silent heq (near.silent.mp quiet)
      rwa [← Program.run_congr like]
  · next ended => exact absurd ran (ended after)

end

end DocExamples.Snippet
