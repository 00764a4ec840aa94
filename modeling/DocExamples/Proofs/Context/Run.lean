import DocExamples.Context

namespace DocExamples

open Text Script

/-- What is said of a script that is refused is an error that a capture contains. -/
theorem Script.Cause.isContained_ofRefusal (file : Text) (refusal : Refusal) :
    (Cause.ofRefusal file refusal).type.isContained = true := by
  have fault (family : FaultFamily) : (Cause.familyType family).isContained = true := by
    cases family <;> decide
  cases refusal with
  | nulInFileName => rfl
  | nulInSource => rfl
  | fault error => exact fault error.fault.family

namespace Ending

theorem of_refusal (file : Text) (refusal : Refusal) :
    of (some (.ofCause (.ofRefusal file refusal))) = .failed (.ofRefusal file refusal) := by
  have contained := Cause.isContained_ofRefusal file refusal
  simp [of, Thrown.ofCause, contained]

theorem exists_of_thrown (thrown : Thrown) :
    ∃ cause, of (some thrown) = .failed cause ∨ of (some thrown) = .escaped cause := by
  unfold of
  dsimp only
  split
  · split
    · exact ⟨_, .inl rfl⟩
    · exact ⟨_, .inr rfl⟩
  · exact ⟨_, .inr rfl⟩

end Ending

variable [Language]

namespace Snippet

/-- Only the code without its margin counts, and the name of the file. -/
theorem run_congr {first second : Snippet} (file : first.fileName = second.fileName)
    (code : dedentCode first.code = dedentCode second.code) : first.run = second.run := by
  funext world
  rw [Snippet.run, Snippet.run, warn, warn, file, code]

theorem runAll_append (first second : List Snippet) (world : World) :
    runAll (first ++ second) world =
      match runAll first world with
      | (none, between) => runAll second between
      | ended => ended := by
  induction first generalizing world with
  | nil => rfl
  | cons snippet first ih =>
    rw [List.cons_append, runAll, runAll]
    rcases snippet.run world with ⟨_ | thrown, between⟩
    · exact ih between
    · rfl

theorem runAll_singleton (snippet : Snippet) (world : World) :
    runAll [snippet] world = snippet.run world := by
  rw [runAll]
  rcases snippet.run world with ⟨_ | thrown, between⟩ <;> rfl

/-- A snippet that compiles, and whose program ends without an error. -/
inductive Completes (snippet : Snippet) (world after : World) : Prop
  | intro (between : World) (program : Language.Program) (warned : snippet.warn world = (none, between))
    (compiled : compile snippet.fileName (dedentCode snippet.code) = .ok program)
    (ran : Language.run snippet.fileName program between = (none, after))

/-- A snippet whose compiling ends with an error, or whose program does. -/
inductive Fails (snippet : Snippet) (world after : World) : Thrown → Prop
  | warned {thrown : Thrown} (warned : snippet.warn world = (some thrown, after)) :
    Fails snippet world after thrown
  | refused (refusal : Refusal) (warned : snippet.warn world = (none, after))
    (compiled : compile snippet.fileName (dedentCode snippet.code) = .error refusal) :
    Fails snippet world after (.ofCause (.ofRefusal snippet.fileName refusal))
  | raised {thrown : Thrown} (between : World) (program : Language.Program)
    (warned : snippet.warn world = (none, between))
    (compiled : compile snippet.fileName (dedentCode snippet.code) = .ok program)
    (ran : Language.run snippet.fileName program between = (some thrown, after)) :
    Fails snippet world after thrown

/-- Snippets that complete one after another. -/
inductive AllComplete : List Snippet → World → World → Prop
  | nil {world : World} : AllComplete [] world world
  | cons {snippet : Snippet} {snippets : List Snippet} {world between after : World} :
    snippet.Completes world between → AllComplete snippets between after →
      AllComplete (snippet :: snippets) world after

/-- Snippets of which the first one that does not complete fails with an error, and leaves a world. -/
inductive FirstFails : List Snippet → World → World → Thrown → Prop
  | here {snippet : Snippet} {snippets : List Snippet} {world after : World} {thrown : Thrown} :
    snippet.Fails world after thrown → FirstFails (snippet :: snippets) world after thrown
  | later {snippet : Snippet} {snippets : List Snippet} {world between after : World}
    {thrown : Thrown} : snippet.Completes world between →
      FirstFails snippets between after thrown → FirstFails (snippet :: snippets) world after thrown

theorem run_eq_completed_iff {snippet : Snippet} {world after : World} :
    snippet.run world = (none, after) ↔ snippet.Completes world after := by
  constructor
  · intro h
    rw [run] at h
    split at h
    · cases h
    · next between warned =>
      split at h
      · cases h
      · next program compiled => exact ⟨between, program, warned, compiled, h⟩
  · rintro ⟨between, program, warned, compiled, ran⟩
    rw [run, warned, compiled]
    exact ran

theorem run_eq_failed_iff {snippet : Snippet} {world after : World} {thrown : Thrown} :
    snippet.run world = (some thrown, after) ↔ snippet.Fails world after thrown := by
  constructor
  · intro h
    rw [run] at h
    split at h
    · next warned =>
      cases h
      exact .warned warned
    · next between warned =>
      split at h
      · next refusal compiled =>
        cases h
        exact .refused refusal warned compiled
      · next program compiled => exact .raised between program warned compiled h
  · rintro (warned | ⟨refusal, warned, compiled⟩ | ⟨between, program, warned, compiled, ran⟩)
    · rw [run, warned]
    · rw [run, warned, compiled]
    · rw [run, warned, compiled]
      exact ran

theorem Completes.runAll_cons {snippet : Snippet} {world between : World}
    (h : snippet.Completes world between) (snippets : List Snippet) :
    runAll (snippet :: snippets) world = runAll snippets between := by
  rw [runAll, run_eq_completed_iff.mpr h]

theorem runAll_eq_completed_iff {snippets : List Snippet} {world after : World} :
    runAll snippets world = (none, after) ↔ AllComplete snippets world after := by
  constructor
  · intro h
    induction snippets generalizing world with
    | nil =>
      obtain rfl : world = after := congrArg Prod.snd h
      exact .nil
    | cons snippet snippets ih =>
      rw [runAll] at h
      split at h
      · next between ran => exact .cons (run_eq_completed_iff.mp ran) (ih h)
      · next ended => exact absurd h (ended after)
  · intro h
    induction h with
    | nil => rfl
    | cons first _ ih => rw [first.runAll_cons, ih]

theorem runAll_eq_failed_iff {snippets : List Snippet} {world after : World} {thrown : Thrown} :
    runAll snippets world = (some thrown, after) ↔ FirstFails snippets world after thrown := by
  constructor
  · intro h
    induction snippets generalizing world with
    | nil => cases h
    | cons snippet snippets ih =>
      rw [runAll] at h
      split at h
      · next between ran => exact .later (run_eq_completed_iff.mp ran) (ih h)
      · exact .here (run_eq_failed_iff.mp h)
  · intro h
    induction h with
    | here failed => rw [runAll, run_eq_failed_iff.mpr failed]
    | later first _ ih => rw [first.runAll_cons, ih]

/-- Snippets complete before a further one, which completes in the world that they leave. -/
theorem allComplete_concat_iff {snippets : List Snippet} {last : Snippet} {world after : World} :
    AllComplete (snippets ++ [last]) world after ↔
      ∃ between, AllComplete snippets world between ∧ last.Completes between after := by
  constructor
  · intro h
    induction snippets generalizing world with
    | nil =>
      cases h with
      | cons first none =>
        cases none
        exact ⟨world, .nil, first⟩
    | cons snippet snippets ih =>
      cases h with
      | cons first others =>
        obtain ⟨between, others, completes⟩ := ih others
        exact ⟨between, .cons first others, completes⟩
  · rintro ⟨between, others, completes⟩
    induction others with
    | nil => exact .cons completes .nil
    | cons first _ ih => exact .cons first (ih completes)

theorem AllComplete.unique {snippets : List Snippet} {world after after' : World}
    (h : AllComplete snippets world after) (h' : AllComplete snippets world after') :
    after' = after := by
  have ran := runAll_eq_completed_iff.mpr h
  rw [runAll_eq_completed_iff.mpr h'] at ran
  exact congrArg Prod.snd ran

theorem FirstFails.unique {snippets : List Snippet} {world after after' : World}
    {thrown thrown' : Thrown} (h : FirstFails snippets world after thrown)
    (h' : FirstFails snippets world after' thrown') : after' = after ∧ thrown' = thrown := by
  have ran := runAll_eq_failed_iff.mpr h
  rw [runAll_eq_failed_iff.mpr h'] at ran
  cases ran
  exact ⟨rfl, rfl⟩

theorem AllComplete.not_firstFails {snippets : List Snippet} {world after after' : World}
    (h : AllComplete snippets world after) (thrown : Thrown) :
    ¬ FirstFails snippets world after' thrown := by
  intro fails
  have ran := runAll_eq_failed_iff.mpr fails
  rw [runAll_eq_completed_iff.mpr h] at ran
  cases ran

/-- Snippets complete one after another, or a first one of them fails. -/
theorem allComplete_or_firstFails (snippets : List Snippet) (world : World) :
    (∃ after, AllComplete snippets world after) ∨
      ∃ after thrown, FirstFails snippets world after thrown := by
  rcases ran : runAll snippets world with ⟨_ | thrown, after⟩
  · exact .inl ⟨after, runAll_eq_completed_iff.mp ran⟩
  · exact .inr ⟨after, thrown, runAll_eq_failed_iff.mp ran⟩

end Snippet

namespace Context

/-- A context that extends another one runs its snippet in the world that the other one leaves. -/
theorem run_extend (parent : Context) (snippet : Snippet) (world : World) :
    (parent.extend snippet).run world =
      match Snippet.runAll parent.chain world with
      | (none, between) => (.of (snippet.run between).1, (snippet.run between).2)
      | (some thrown, after) => (.of (some thrown), after) := by
  rw [run, chain, Snippet.runAll_append]
  simp only [Snippet.runAll_singleton]
  rcases Snippet.runAll parent.chain world with ⟨_ | thrown, between⟩ <;> rfl

theorem run_of_allComplete {context : Context} {world after : World}
    (h : Snippet.AllComplete context.chain world after) : context.run world = (.completed, after) := by
  rw [run, Snippet.runAll_eq_completed_iff.mpr h]
  rfl

theorem run_of_firstFails {context : Context} {world after : World} {thrown : Thrown}
    (h : Snippet.FirstFails context.chain world after thrown) :
    context.run world = (.of (some thrown), after) := by
  rw [run, Snippet.runAll_eq_failed_iff.mpr h]

end Context

end DocExamples
