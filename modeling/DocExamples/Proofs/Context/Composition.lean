import DocExamples.Proofs.Console.Streams
import DocExamples.Proofs.Console.Run
import DocExamples.Proofs.Context.Run
import DocExamples.Script.Language
import Mathlib.Control.Monad.Basic

namespace DocExamples

open Text Script Console Effects

section

variable [Language]

namespace Console.Act

/-- An act and, if it completes, a further one in the namespace that it leaves. -/
def followedBy (first : Act (Ending × Language.Space)) (next : Language.Space → Act (Ending × Language.Space)) :
    Act (Ending × Language.Space) := do
  match ← first with
  | (.completed, between) => next between
  | ended => return ended

theorem run_followedBy (first : Act (Ending × Language.Space))
    (next : Language.Space → Act (Ending × Language.Space)) (console : Console) :
    (first.followedBy next).run console =
      match first.run console with
      | (.ok (.completed, between), console) => (next between).run console
      | ended => ended := by
  rw [followedBy, run_bind]
  rcases first.run console with ⟨problem | ⟨_ | _ | _, between⟩, console⟩ <;> rfl

theorem followedBy_assoc (first : Act (Ending × Language.Space))
    (second third : Language.Space → Act (Ending × Language.Space)) :
    (first.followedBy second).followedBy third =
      first.followedBy fun space => (second space).followedBy third := by
  funext console
  change ((first.followedBy second).followedBy third).run console = (first.followedBy _).run console
  rw [run_followedBy, run_followedBy, run_followedBy]
  rcases first.run console with ⟨problem | ⟨_ | _ | _, between⟩, console⟩
  · rfl
  · dsimp only
    rw [run_followedBy]
  · rfl
  · rfl

theorem followedBy_completed (first : Act (Ending × Language.Space)) :
    (first.followedBy fun space => return (.completed, space)) = first := by
  funext console
  change (first.followedBy _).run console = first.run console
  rw [run_followedBy]
  rcases first.run console with ⟨problem | ⟨_ | _ | _, between⟩, console⟩ <;> rfl

theorem completed_followedBy (space : Language.Space)
    (next : Language.Space → Act (Ending × Language.Space)) :
    followedBy (return (.completed, space)) next = next space := rfl

end Console.Act

namespace Snippet

/-- Snippets one after another, each by itself in the namespace that the one before it leaves, up to the
first one that does not complete. -/
def inTurn : List Snippet → Language.Space → Act (Ending × Language.Space)
  | [], space => return (.completed, space)
  | snippet :: snippets, space => ((Context.root snippet).act space).followedBy (inTurn snippets)

theorem inTurn_singleton (snippet : Snippet) : inTurn [snippet] = (Context.root snippet).act := by
  funext space
  exact Act.followedBy_completed _

theorem inTurn_append (first second : List Snippet) (space : Language.Space) :
    inTurn (first ++ second) space = (inTurn first space).followedBy (inTurn second) := by
  induction first generalizing space with
  | nil => exact (Act.completed_followedBy space (inTurn second)).symm
  | cons snippet first ih =>
    rw [List.cons_append, inTurn, inTurn, Act.followedBy_assoc, funext ih]

/-- A snippet that is refused for some reason: the compiler warns, and refuses it unless a warning is an error. -/
def refuse (snippet : Snippet) (refusal : Refusal) (space : Language.Space) : Act (Ending × Language.Space) :=
  Act.onStreams fun streams =>
    let (thrown, world) := snippet.warn { space, streams }
    ((.of (some (thrown.getD (.ofCause (.ofRefusal snippet.fileName refusal)))), world.space), world.streams)

theorem run_refuse_followedBy (snippet : Snippet) (refusal : Refusal) (space : Language.Space)
    (next : Language.Space → Act (Ending × Language.Space)) (console : Console) :
    ((snippet.refuse refusal space).followedBy next).run console =
      (snippet.refuse refusal space).run console := by
  rw [Act.run_followedBy, refuse, Act.run_onStreams]
  cases console.streams? with
  | none => rfl
  | some streams =>
    dsimp only
    obtain ⟨cause, failed | escaped⟩ := Ending.exists_of_thrown
      ((snippet.warn ⟨space, streams⟩).1.getD (.ofCause (.ofRefusal snippet.fileName refusal)))
    · rw [failed]
    · rw [escaped]

end Snippet

namespace Context

variable {console : Console}

/-- A context runs on the streams as they stand, and leaves them where they lead. -/
theorem run_act {streams : Streams} (found : console.streams? = some streams) (context : Context)
    (space : Language.Space) :
    (context.act space).run console =
      (.ok ((context.run ⟨space, streams⟩).1, (context.run ⟨space, streams⟩).2.space),
        console.putStreams (context.run ⟨space, streams⟩).2.streams) := by
  rw [act, Act.run_onStreams, found]

/-- A snippet after a context runs like one by itself in the namespace that the context leaves. -/
theorem run_act_extend (leads : console.Leads) (parent : Context) (snippet : Snippet)
    (space : Language.Space) :
    ((parent.extend snippet).act space).run console =
      ((parent.act space).followedBy (root snippet).act).run console := by
  obtain ⟨streams, found⟩ := leads.exists_streams?
  rw [run_act found, Act.run_followedBy, run_act found, run_extend, run]
  rcases Snippet.runAll parent.chain ⟨space, streams⟩ with ⟨_ | thrown, between⟩
  · have alone : (root snippet).run between = (.of (snippet.run between).1, (snippet.run between).2) := by
      rw [run, chain, Snippet.runAll_singleton]
    have completed : Ending.of none = .completed := rfl
    dsimp only
    rw [completed]
    dsimp only
    rw [run_act (streams?_putStreams leads between.streams), putStreams_putStreams, alone]
  · dsimp only
    obtain ⟨cause, failed | escaped⟩ := Ending.exists_of_thrown thrown
    · rw [failed]
    · rw [escaped]

/-- The streams lead where they did after a context was run. -/
theorem leads_act (leads : console.Leads) (context : Context) (space : Language.Space) :
    ((context.act space).run console).2.Leads := by
  obtain ⟨streams, found⟩ := leads.exists_streams?
  rw [run_act found]
  exact leads.putStreams _

theorem leads_inTurn (leads : console.Leads) (snippets : List Snippet) (space : Language.Space) :
    ((Snippet.inTurn snippets space).run console).2.Leads := by
  induction snippets generalizing console space with
  | nil => exact leads
  | cons snippet snippets ih =>
    have first := leads_act leads (root snippet) space
    rw [Snippet.inTurn, Act.run_followedBy]
    generalize ((root snippet).act space).run console = ran at first ⊢
    rcases ran with ⟨problem | ⟨_ | _ | _, between⟩, after⟩
    · exact first
    · exact ih first between
    · exact first
    · exact first

/-- A chain runs as its snippets do in turn. -/
theorem run_act_eq_inTurn (leads : console.Leads) (context : Context) (space : Language.Space) :
    (context.act space).run console = (Snippet.inTurn context.chain space).run console := by
  induction context with
  | root snippet => rw [chain, Snippet.inTurn_singleton]
  | extend parent snippet ih =>
    rw [run_act_extend leads, chain, Snippet.inTurn_append, Snippet.inTurn_singleton,
      Act.run_followedBy, Act.run_followedBy, ih]

/-- Of a snippet that is refused nothing runs. -/
theorem run_act_of_refused {snippet : Snippet} {refusal : Refusal}
    (refused : compile snippet.fileName (dedentCode snippet.code) = .error refusal)
    (space : Language.Space) :
    ((root snippet).act space).run console = (snippet.refuse refusal space).run console := by
  rw [act, Snippet.refuse, Act.run_onStreams, Act.run_onStreams]
  cases console.streams? with
  | none => rfl
  | some streams =>
    simp only [run, chain, Snippet.runAll_singleton, Snippet.run, refused]
    rcases snippet.warn ⟨space, streams⟩ with ⟨_ | thrown, world⟩ <;> rfl

theorem run_refuse_of_idle {streams : Streams} (found : console.streams? = some streams) {snippet : Snippet}
    {space : Language.Space} (idle : snippet.warn ⟨space, streams⟩ = (none, ⟨space, streams⟩))
    (refusal : Refusal) :
    (snippet.refuse refusal space).run console =
      (.ok (.failed (.ofRefusal snippet.fileName refusal), space), console) := by
  rw [Snippet.refuse, Act.run_onStreams, found]
  dsimp only
  rw [idle, Option.getD_none, Ending.of_refusal, putStreams_of_streams? found]

/-- At every console whose streams lead somewhere, in every namespace, a chain is the sequence of its
snippets. An extended context runs as the context does, and then, if that completes, its snippet by itself in
the namespace that is left: to the same ending, leaving the same namespace and the same console, with what
both write. A chain runs as its first snippets do in turn, and then the others. Where its first snippets do
not complete, it ends as they do and the others have no effect. Nothing runs of a snippet that is refused after
others completed: where the compiler has no warning for it, all is left as they left it, and what the warning
leaves otherwise. -/
theorem act_composes (leads : console.Leads) (context : Context) (space : Language.Space) :
    (∀ snippet, ((context.extend snippet).act space).run console =
      ((context.act space).followedBy (root snippet).act).run console) ∧
    (∀ count, (context.act space).run console =
      ((Snippet.inTurn (context.chain.take count) space).followedBy
        (Snippet.inTurn (context.chain.drop count))).run console) ∧
    (∀ count ending left after, ending ≠ .completed →
      (Snippet.inTurn (context.chain.take count) space).run console = (.ok (ending, left), after) →
      (context.act space).run console = (.ok (ending, left), after)) ∧
    ∀ count snippet refusal left after, context.chain[count]? = some snippet →
      compile snippet.fileName (dedentCode snippet.code) = .error refusal →
      (Snippet.inTurn (context.chain.take count) space).run console =
        (.ok (.completed, left), after) →
      (context.act space).run console = (snippet.refuse refusal left).run after ∧
      ∃ streams, after.streams? = some streams ∧
        (snippet.warn ⟨left, streams⟩ = (none, ⟨left, streams⟩) →
          (context.act space).run console =
            (.ok (.failed (.ofRefusal snippet.fileName refusal), left), after)) := by
  have split (count : Nat) : (context.act space).run console =
      ((Snippet.inTurn (context.chain.take count) space).followedBy
        (Snippet.inTurn (context.chain.drop count))).run console := by
    rw [run_act_eq_inTurn leads, ← Snippet.inTurn_append, List.take_append_drop]
  refine ⟨fun snippet => run_act_extend leads context snippet space, split, ?_, ?_⟩
  · intro count ending left after stopped ran
    rw [split count, Act.run_followedBy, ran]
    cases ending with
    | completed => exact absurd rfl stopped
    | failed cause | escaped cause => rfl
  · intro count snippet refusal left after here refused ran
    obtain ⟨short, rfl⟩ := List.getElem?_eq_some_iff.mp here
    have refuses : (context.act space).run console =
        (context.chain[count].refuse refusal left).run after := by
      rw [split count, Act.run_followedBy, ran, List.drop_eq_getElem_cons short]
      dsimp only
      rw [Snippet.inTurn, Act.run_followedBy, run_act_of_refused refused, ← Act.run_followedBy,
        Snippet.run_refuse_followedBy]
    have still := leads_inTurn leads (context.chain.take count) space
    rw [ran] at still
    obtain ⟨streams, found⟩ := still.exists_streams?
    refine ⟨refuses, streams, found, fun idle => ?_⟩
    rw [refuses, run_refuse_of_idle found idle]

end Context

end

namespace Context

/-- A chain whose last snippet does not compile. -/
def unclosedCall : Context :=
  ((preamble "n = 2".toList).extend ⟨"print(n)".toList, defaultFileName⟩).extend
    ⟨"print(n".toList, defaultFileName⟩

/-- A chain whose first snippet fails. -/
def dividedByNothing : Context :=
  (preamble "n = 1 // 0".toList).extend ⟨"print(n)".toList, defaultFileName⟩

/-- The last snippet is refused only after the others printed, and a snippet after one that fails prints
nothing. -/
theorem act_composes_of_failing :
    Console.initial.Leads ∧
    (unclosedCall.act Language.fresh).run .initial =
      (.ok (.failed (.ofRefusal defaultFileName (.fault ⟨.neverClosed '(', 1⟩)),
        Space.fresh.set ['n'] (.int 2)),
        { Console.initial with outside := .ofWritten ⟨"2\n".toList, []⟩ }) ∧
    (dividedByNothing.act Language.fresh).run .initial =
      (.ok (.failed ⟨.zeroDivisionError, "integer division or modulo by zero".toList⟩, Language.fresh),
        .initial) := by
  have leads : Console.initial.Leads := ⟨.outside, .outside, rfl, trivial, trivial⟩
  have refused : compile defaultFileName (dedentCode "print(n".toList) =
      .error (.fault ⟨.neverClosed '(', 1⟩) := by
    have told : (compile defaultFileName (dedentCode "print(n".toList)).map (fun _ => ()) =
        .error (.fault ⟨.neverClosed '(', 1⟩) := by decide +kernel
    exact eq_error_of_map told
  have idle (world : World) : Snippet.warn ⟨"print(n".toList, defaultFileName⟩ world = (none, world) := by
    have unread : (Program.parse (dedentCode "print(n".toList)).toOption.isNone = true := by decide +kernel
    unfold Snippet.warn
    dsimp only
    split
    · rfl
    · change Script.warn _ (dedentCode "print(n".toList) world = _
      unfold Script.warn
      split
      · next program parsed =>
        rw [parsed] at unread
        cases unread
      · rfl
  refine ⟨leads, ?_, ?_⟩
  · have printed : (Snippet.inTurn (unclosedCall.chain.take 2) Language.fresh).run .initial =
        (.ok (.completed, Space.fresh.set ['n'] (.int 2)),
          { Console.initial with outside := .ofWritten ⟨"2\n".toList, []⟩ }) :=
      Prod.ext (eq_ok_of_toOption (by decide +kernel)) (by decide +kernel)
    obtain ⟨-, streams, -, unwarned⟩ :=
      (act_composes leads unclosedCall Language.fresh).2.2.2 2 _ _ _ _ rfl refused printed
    exact unwarned (idle _)
  · refine (act_composes leads dividedByNothing Language.fresh).2.2.1 1 _ _ _ (by decide) ?_
    exact Prod.ext (eq_ok_of_toOption (by decide +kernel)) (by decide +kernel)

/-- A snippet that is refused for its second line, after a warning for the first one is shown. -/
def warnedBreak : Snippet := ⟨"assert (1, 'x')\nbreak\n".toList, defaultFileName⟩

def showingWarnings : Context :=
  .root ⟨"import warnings\nwarnings.simplefilter(\"always\")".toList, defaultFileName⟩

def assertionWarning : Text :=
  "<doctest>:1: SyntaxWarning: assertion is always true, perhaps remove parentheses?\n".toList

/-- The compiler's warning for a snippet that it refuses is on standard error, where the context before it left
nothing. -/
theorem act_of_warnedBreak :
    (showingWarnings.act Language.fresh).run .initial =
      (.ok (.completed, Space.fresh.set "warnings".toList (.module .warnings)), .initial) ∧
    ((showingWarnings.extend warnedBreak).act Language.fresh).run .initial =
      (.ok (.failed (.ofRefusal defaultFileName (.fault ⟨.breakOutsideLoop, 2⟩)),
        Space.fresh.set "warnings".toList (.module .warnings)),
        { Console.initial with outside := .ofWritten ⟨[], assertionWarning⟩ }) :=
  ⟨Prod.ext (eq_ok_of_toOption (by decide +kernel)) (by decide +kernel),
    Prod.ext (eq_ok_of_toOption (by decide +kernel)) (by decide +kernel)⟩

end Context

end DocExamples
