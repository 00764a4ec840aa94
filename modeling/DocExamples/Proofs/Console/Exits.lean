import DocExamples.Proofs.Console.Calls
import Mathlib.Logic.Function.Basic

namespace DocExamples.Console

/-- The sinks to which a window returns the streams. -/
def savedSinks (console : Console) (number : Nat) : Sinks :=
  (console.windows[number]?.map (·.saved)).getD ⟨none, none⟩

/-- The console after a window was left. -/
def leave (console : Console) (number : Nat) : Console :=
  { console with sinks := console.savedSinks number, active := none, locked := false }

theorem run_exit_eq (console : Console) (number : Nat) :
    (Act.exit number).run console =
      (if console.locked then .ok ()
        else .error (.raised ⟨.runtimeError, "release unlocked lock".toList⟩),
        console.leave number) := by
  rw [Act.run_exit, exit]
  cases held : console.locked with
  | true =>
    rw [if_pos (show (console.restore number).locked = true from held)]
    rfl
  | false =>
    rw [if_neg (show ¬ (console.restore number).locked = true by simp [restore, held])]
    simp only [restore, savedSinks, leave, held]
    rfl

/-- Leaving a window changes neither where the streams lead, nor which window is active, nor the lock. -/
def IsUndisturbed (console : Console) (number : Nat) : Prop :=
  let left := ((Act.exit number).run console).2
  left.sinks = console.sinks ∧ left.active = console.active ∧ left.locked = console.locked

instance (console : Console) (number : Nat) : Decidable (console.IsUndisturbed number) :=
  inferInstanceAs (Decidable (_ ∧ _ ∧ _))

theorem isUndisturbed_iff {console : Console} (balanced : console.IsBalanced) (number : Nat) :
    console.IsUndisturbed number ↔
      console.active = none ∧ console.savedSinks number = console.sinks := by
  rw [IsBalanced] at balanced
  simp only [IsUndisturbed, run_exit_eq, leave, balanced]
  cases console.active <;> simp

/-- A step of a thread at its windows. The thread goes on after it even if it raises a problem. -/
inductive Step
  | new
  | enter (number : Nat)
  | exit (number : Nat)
  | write (stream : Stream) (text : Text)
  | print (text : Text)

/-- How a window stands: never entered, entered and not left since, or left since. -/
inductive Standing
  | unused
  | entered
  | left
  deriving DecidableEq

/-- A window stays unused if it is left without ever having been entered. -/
def Standing.afterExit : Standing → Standing
  | unused => unused
  | entered | left => left

theorem Standing.afterExit_of_ne {standing : Standing} (h : standing ≠ .unused) :
    standing.afterExit = .left := by
  cases standing with
  | unused => exact absurd rfl h
  | entered | left => rfl

namespace Step

def call : Step → Call
  | new => .new
  | enter number => .enter number
  | exit number => .exit number
  | write stream text => .write stream text
  | print text => .print text

/-- The window that a step enters or leaves. -/
def window? : Step → Option Nat
  | enter number | exit number => some number
  | new | write _ _ | print _ => none

/-- The window that a step leaves. -/
def left? : Step → Option Nat
  | exit number => some number
  | new | enter _ | write _ _ | print _ => none

/-- How the windows stand after a step and its result. A window that is refused was not entered. -/
def stand (standing : Nat → Standing) (result : Except Problem Unit) : Step → Nat → Standing
  | enter number =>
    match result with
    | .ok _ => Function.update standing number .entered
    | .error _ => standing
  | exit number => Function.update standing number (standing number).afterExit
  | new | write _ _ | print _ => standing

end Step

/-- A console, and how each of its windows stands. -/
structure Session where
  console : Console
  standing : Nat → Standing

namespace Session

def initial : Session := { console := .initial, standing := fun _ => .unused }

/-- The session after a step. Only a window that was added can be entered or left. -/
def after (session : Session) (step : Step) : Session :=
  if step.window?.all (· < session.console.windows.length) then
    { console := (step.call.act.run session.console).2
      standing := step.stand session.standing (step.call.act.run session.console).1 }
  else session

def afterAll (session : Session) (steps : List Step) : Session := steps.foldl after session

/-- A window is left while it is active, or once more while none is. -/
def IsInTurn (session : Session) (number : Nat) : Prop :=
  session.console.active = some number ∨
    session.console.active = none ∧ session.standing number = .left

instance (session : Session) (number : Nat) : Decidable (session.IsInTurn number) :=
  inferInstanceAs (Decidable (_ ∨ _ ∧ _))

/-- Whenever steps leave a window, they do so in turn. -/
def LeavesInTurn (session : Session) : List Step → Prop
  | [] => True
  | step :: steps =>
    (∀ number ∈ step.left?, session.IsInTurn number) ∧ (session.after step).LeavesInTurn steps

instance decidableLeavesInTurn (session : Session) (steps : List Step) :
    Decidable (session.LeavesInTurn steps) :=
  match steps with
  | [] => inferInstanceAs (Decidable True)
  | step :: steps =>
    have := decidableLeavesInTurn (session.after step) steps
    inferInstanceAs (Decidable (_ ∧ _))

end Session

/-- Where the streams lead while a window is active, or while none is. -/
def Sinks.during : Option Nat → Sinks
  | none => ⟨some .outside, some .outside⟩
  | some number => ⟨some (.window number), some (.window number)⟩

/-- Two consoles differ in nothing on which entering and leaving windows depends. -/
structure HasFrame (console next : Console) : Prop where
  sinks : next.sinks = console.sinks
  active : next.active = console.active
  locked : next.locked = console.locked
  saved : ∀ number, next.savedSinks number = console.savedSinks number

namespace HasFrame

theorem refl (console : Console) : HasFrame console console := ⟨rfl, rfl, rfl, fun _ => rfl⟩

theorem addWindow (console : Console) : HasFrame console console.addWindow where
  sinks := rfl
  active := rfl
  locked := rfl
  saved number := by
    simp only [savedSinks, Console.addWindow, List.getElem?_append]
    split
    · rfl
    · next beyond =>
      -- A new window has no sinks to return to, like one that is not there.
      rw [List.getElem?_eq_none (Nat.not_lt.mp beyond)]
      cases h : [Window.new][number - console.windows.length]? with
      | none => rfl
      | some window =>
        rw [List.mem_singleton.mp (List.mem_of_getElem? h)]
        rfl

theorem update (console : Console) (sink : Sink) (change : Streams → Streams) :
    HasFrame console (console.update sink change) := by
  cases sink with
  | outside => exact ⟨rfl, rfl, rfl, fun _ => rfl⟩
  | window target =>
    refine ⟨rfl, rfl, rfl, fun number => ?_⟩
    simp only [savedSinks, Console.update, List.getElem?_modify]
    cases console.windows[number]? with
    | none => rfl
    | some window =>
      dsimp only [Option.map_eq_map, Option.map_some]
      split <;> rfl

theorem write (console : Console) (stream : Stream) (text : Text) :
    HasFrame console ((Act.write stream text).run console).2 := by
  rw [Act.run_write]
  cases wrote : console.write stream text with
  | error problem => exact refl console
  | ok next =>
    obtain ⟨sink, -, rfl⟩ := exists_of_write wrote
    exact update console sink (·.write stream text)

theorem print (console : Console) (text : Text) :
    HasFrame console ((Act.print text).run console).2 := by
  rw [Act.run_print, Console.print]
  cases console.sinks.out with
  | none => exact refl console
  | some sink =>
    dsimp only
    rw [writeTo]
    cases ((console.streamsAt sink).of .out).closed with
    | true => exact refl console
    | false => exact update console sink (·.write .out (text ++ ['\n']))

end HasFrame

/-- What entering a window comes to where it is not refused. -/
theorem enter_ok {console entered : Console} {number : Nat} (added : number < console.windows.length)
    (h : console.enter number = .ok entered) :
    console.active = none ∧ entered.active = some number ∧ entered.sinks = .during (some number) ∧
    ∀ other, entered.savedSinks other =
      if other = number then console.sinks else console.savedSinks other := by
  rw [enter] at h
  split at h
  · cases h
  · next inactive =>
    split at h
    · cases h
    · cases h
      refine ⟨by simpa using inactive, rfl, rfl, ?_⟩
      intro other
      simp only [savedSinks, List.getElem?_modify]
      by_cases same : other = number
      · subst same
        simp [added]
      · simp [same, Ne.symm same]

/-- All that a step can do to a session. -/
inductive Session.Moves (session : Session) : Step → Session → Prop
  | keeps {step : Step} {next : Console} (frame : HasFrame session.console next) :
    Moves session step { session with console := next }
  | enters {number : Nat} {entered : Console} (added : number < session.console.windows.length)
    (h : session.console.enter number = .ok entered) :
    Moves session (.enter number)
      { console := entered, standing := Function.update session.standing number .entered }
  | leaves (number : Nat) :
    Moves session (.exit number)
      { console := session.console.leave number
        standing := Function.update session.standing number (session.standing number).afterExit }

theorem Session.moves_after (session : Session) (step : Step) :
    session.Moves step (session.after step) := by
  rw [after]
  split
  · next possible =>
    cases step with
    | new => exact .keeps (.addWindow session.console)
    | write stream text => exact .keeps (.write session.console stream text)
    | print text => exact .keeps (.print session.console text)
    | exit number =>
      simp only [Step.call, Call.act, Step.stand, run_exit_eq]
      exact .leaves number
    | enter number =>
      have added : number < session.console.windows.length := by simpa [Step.window?] using possible
      simp only [Step.call, Call.act, Step.stand, Act.run_enter]
      cases enters : session.console.enter number with
      | error problem => exact .keeps (.refl session.console)
      | ok entered => exact .enters added enters
  · exact .keeps (.refl session.console)

/-- What all steps keep. A window that was never entered has no sinks to return to. -/
structure IsSound (session : Session) : Prop where
  balanced : session.console.IsBalanced
  unused : ∀ number, session.standing number = .unused →
    session.console.savedSinks number = ⟨none, none⟩

namespace IsSound

variable {session next : Session} {step : Step}

theorem initial : IsSound .initial where
  balanced := rfl
  unused _ _ := rfl

theorem moves (h : IsSound session) (moves : session.Moves step next) : IsSound next := by
  cases moves with
  | keeps frame =>
    refine ⟨h.balanced.of_same frame.locked frame.active, ?_⟩
    intro number unused
    rw [frame.saved]
    exact h.unused number unused
  | @enters number entered added enters =>
    refine ⟨.enter enters, ?_⟩
    intro other unused
    obtain ⟨-, -, -, saved⟩ := enter_ok added enters
    by_cases same : other = number
    · simp [same] at unused
    · rw [saved, if_neg same]
      exact h.unused other (by simpa [same] using unused)
  | leaves number =>
    refine ⟨rfl, ?_⟩
    intro other unused
    apply h.unused other
    by_cases same : other = number
    · by_contra used
      rw [same] at used
      simp [same, Standing.afterExit_of_ne used] at unused
    · simpa [same] using unused

theorem afterAll (h : IsSound session) (steps : List Step) : IsSound (session.afterAll steps) := by
  induction steps generalizing session with
  | nil => exact h
  | cons step steps ih => exact ih (h.moves (session.moves_after step))

end IsSound

/-- What steps keep as long as they leave windows in turn. -/
structure IsOrderly (session : Session) : Prop extends IsSound session where
  entered : ∀ number, session.standing number = .entered ↔ session.console.active = some number
  sinks : session.console.sinks = .during session.console.active
  used : ∀ number, session.standing number ≠ .unused →
    session.console.savedSinks number = .during none

namespace IsOrderly

variable {session next : Session} {step : Step}

theorem initial : IsOrderly .initial where
  toIsSound := .initial
  entered number := by simp [Session.initial, Console.initial]
  sinks := rfl
  used number h := absurd rfl h

/-- A window that is entered keeps the sinks of the time without a window. -/
theorem enters (h : IsOrderly session) {number : Nat} {entered : Console}
    (added : number < session.console.windows.length)
    (enters : session.console.enter number = .ok entered) :
    IsOrderly { console := entered, standing := Function.update session.standing number .entered } := by
  obtain ⟨inactive, active, sinks, saved⟩ := enter_ok added enters
  refine ⟨h.toIsSound.moves (.enters added enters), ?_, ?_, ?_⟩
  · intro other
    have before := h.entered other
    by_cases same : other = number
    · simp [same, active]
    · simp [same, before, inactive, active, Ne.symm same]
  · rw [sinks, active]
  · intro other used
    rw [saved]
    by_cases same : other = number
    · rw [if_pos same, h.sinks, inactive]
    · rw [if_neg same]
      exact h.used other (by simpa [same] using used)

/-- A window that is left in turn returns the streams to where they lead while none is active. -/
theorem leaves (h : IsOrderly session) {number : Nat} (inTurn : session.IsInTurn number) :
    IsOrderly { console := session.console.leave number
                standing := Function.update session.standing number
                  (session.standing number).afterExit } := by
  have used : session.standing number ≠ .unused := by
    rcases inTurn with active | ⟨-, left⟩
    · simp [(h.entered number).mpr active]
    · simp [left]
  have left := Standing.afterExit_of_ne used
  refine ⟨h.toIsSound.moves (.leaves number), ?_, h.used number used, ?_⟩
  · intro other
    by_cases same : other = number
    · simp [same, left, Console.leave]
    · have others : session.console.active ≠ some other := by
        rcases inTurn with active | ⟨none, -⟩
        · simp [active, Ne.symm same]
        · simp [none]
      simp [same, Console.leave, h.entered other, others]
  · intro other usedThen
    by_cases same : other = number
    · rw [same]
      exact h.used number used
    · exact h.used other (by simpa [same] using usedThen)

theorem moves (h : IsOrderly session) (inTurn : ∀ number ∈ step.left?, session.IsInTurn number)
    (moves : session.Moves step next) : IsOrderly next := by
  have sound := h.toIsSound.moves moves
  cases moves with
  | keeps frame =>
    refine ⟨sound, ?_, ?_, ?_⟩
    · intro number
      rw [frame.active, h.entered]
    · rw [frame.sinks, frame.active, h.sinks]
    · intro number used
      rw [frame.saved]
      exact h.used number used
  | enters added enters => exact h.enters added enters
  | leaves number => exact h.leaves (inTurn number rfl)

theorem afterAll (h : IsOrderly session) {steps : List Step} (inTurn : session.LeavesInTurn steps) :
    IsOrderly (session.afterAll steps) := by
  induction steps generalizing session with
  | nil => exact h
  | cons step steps ih => exact ih (h.moves inTurn.1 (session.moves_after step)) inTurn.2

theorem leads (h : IsOrderly session) (stream : Stream) : session.console.sinks.of stream ≠ none := by
  rw [h.sinks]
  cases session.console.active <;> cases stream <;> simp [Sinks.during, Sinks.of]

/-- Leaving a window changes nothing exactly if it was left before and no window is active. -/
theorem isUndisturbed_iff (h : IsOrderly session) (number : Nat) :
    session.console.IsUndisturbed number ↔
      session.console.active = none ∧ session.standing number = .left := by
  rw [Console.isUndisturbed_iff h.balanced, h.sinks]
  apply and_congr_right
  intro inactive
  rw [inactive]
  cases standing : session.standing number with
  | unused => simp [h.unused number standing, Sinks.during]
  | entered => simp [(h.entered number).mp standing] at inactive
  | left => simp [h.used number (by simp [standing])]

end IsOrderly

/-- After any steps of a thread, leaving a window keeps the streams, the active window and the lock exactly
if no window is active and the streams lead to where that window returns them, which is nowhere if it was
never entered. A problem is raised exactly if no window is active. If windows were always left in turn so far,
then a window is entered and not left exactly if it is the active one, so that at most one is, both streams
lead somewhere, and leaving a window keeps them, the active window and the lock exactly if it was left before
and no window is active. -/
theorem exit_undisturbed_iff {steps : List Step} {session : Session}
    (reached : Session.initial.afterAll steps = session) :
    (∀ number,
      (session.console.IsUndisturbed number ↔
        session.console.active = none ∧ session.console.savedSinks number = session.console.sinks) ∧
      (session.standing number = .unused → session.console.savedSinks number = ⟨none, none⟩) ∧
      (((Act.exit number).run session.console).1 = .ok () ↔ session.console.active ≠ none)) ∧
    (Session.initial.LeavesInTurn steps →
      (∀ number, session.standing number = .entered ↔ session.console.active = some number) ∧
      (∀ stream, session.console.sinks.of stream ≠ none) ∧
      ∀ number, session.console.IsUndisturbed number ↔
        session.console.active = none ∧ session.standing number = .left) := by
  subst reached
  constructor
  · intro number
    have sound := IsSound.initial.afterAll steps
    have balanced := sound.balanced
    refine ⟨isUndisturbed_iff balanced number, sound.unused number, ?_⟩
    rw [IsBalanced] at balanced
    rw [run_exit_eq, balanced]
    cases (Session.initial.afterAll steps).console.active <;> simp
  · intro inTurn
    have orderly := IsOrderly.initial.afterAll inTurn
    exact ⟨orderly.entered, orderly.leads, orderly.isUndisturbed_iff⟩

/-- A window is left, left once more, and then entered and left again. -/
def doubledSteps : List Step :=
  [.new, .new, .enter 0, .enter 1, .write .out ['o'], .exit 0, .exit 0, .enter 0, .exit 0]

theorem doubledSteps_undisturbed :
    Session.initial.LeavesInTurn doubledSteps ∧
    (Session.initial.afterAll doubledSteps).console.IsUndisturbed 0 ∧
    ¬ (Session.initial.afterAll doubledSteps).console.IsUndisturbed 1 := by
  have inTurn : Session.initial.LeavesInTurn doubledSteps := by decide
  obtain ⟨-, -, undisturbed⟩ := (exit_undisturbed_iff rfl).2 inTurn
  exact ⟨inTurn, (undisturbed 0).mpr ⟨rfl, rfl⟩, fun h => absurd ((undisturbed 1).mp h).2 (by decide)⟩

/-- A window that was never entered, and one that was left before, are left while another one is active,
which ends that one's time. In the first case the streams lead nowhere, and another window is entered before
the active one is left. -/
theorem strayExits_disturb :
    (let session := Session.initial.afterAll [.new, .new, .enter 0]
    session.console.active = some 0 ∧ session.standing 1 = .unused ∧
      ¬ session.console.IsUndisturbed 1 ∧
      (session.after (.exit 1)).console.sinks = ⟨none, none⟩ ∧
      ∀ number < 2, (session.afterAll [.exit 1, .enter 1]).standing number = .entered) ∧
    (let session := Session.initial.afterAll [.new, .new, .enter 0, .exit 0, .enter 1]
    session.console.active = some 1 ∧ session.standing 0 = .left ∧
      ¬ session.console.IsUndisturbed 0 ∧
      (session.after (.exit 0)).console.active = none) := by
  refine ⟨⟨rfl, rfl, ?_, rfl, ?_⟩, ⟨rfl, rfl, ?_, rfl⟩⟩ <;> decide

end DocExamples.Console
