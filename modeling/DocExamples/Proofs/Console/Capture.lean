import DocExamples.Proofs.Console.Run
import DocExamples.Proofs.Console.Streams

namespace DocExamples.Console

open Effects

namespace Action

/-- The problem that an action raises in a window. A capture is refused there, whatever its actions. -/
def problem? : Action → Option Problem
  | write _ _ | print _ => none
  | raise cause => some (.raised cause)
  | capture _ => some .windowActive

/-- What an action writes to a stream. -/
def text (stream : Stream) : Action → Text
  | write target text => if target = stream then text else []
  | print text => if stream = .out then text ++ ['\n'] else []
  | raise _ | capture _ => []

/-- The actions before the first one that raises. -/
def done (actions : List Action) : List Action := actions.takeWhile (·.problem?.isNone)

/-- All that the actions before the first one that raises write, in order. -/
def written (actions : List Action) : Written where
  out := (done actions).flatMap (text .out)
  err := (done actions).flatMap (text .err)

/-- What actions come to: the problem of the first one that raises, if one does. -/
def result (actions : List Action) : Except Problem Unit :=
  match actions.findSome? problem? with
  | none => .ok ()
  | some problem => .error problem

end Action

theorem Written.append_def (first second : Written) :
    first ++ second = ⟨first.out ++ second.out, first.err ++ second.err⟩ := rfl

theorem Written.append_empty (written : Written) : written ++ Written.empty = written := by
  simp [append_def, empty]

theorem Written.append_assoc (first second third : Written) :
    first ++ second ++ third = first ++ (second ++ third) := by
  simp [append_def]

theorem Streams.write_ofWritten (written : Written) (stream : Stream) (text : Text) :
    (ofWritten written).write stream text = ofWritten (written ++ Written.empty.write stream text) := by
  cases stream <;> simp [ofWritten, write, set, of, Written.write, Written.append_def, Written.empty]

/-- A window is active, both streams lead to it, and it holds what is given. -/
structure IsInside (console : Console) (number : Nat) (streams : Streams) : Prop where
  active : console.active = some number
  sinks : console.sinks = ⟨some (.window number), some (.window number)⟩
  there : number < console.windows.length
  streams : console.streamsAt (.window number) = streams

/-- Gives a window other streams. -/
def refill (console : Console) (number : Nat) (streams : Streams) : Console :=
  console.update (.window number) fun _ => streams

theorem refill_refill (console : Console) (number : Nat) (first second : Streams) :
    (console.refill number first).refill number second = console.refill number second :=
  update_update console (.window number) _ _

namespace IsInside

variable {console : Console} {number : Nat} {streams : Streams}

theorem refill_same (h : IsInside console number streams) : console.refill number streams = console :=
  update_id console h.streams.symm

theorem isIn (h : IsInside console number streams) : (Sink.window number).IsIn console := h.there

theorem refill (h : IsInside console number streams) (further : Streams) :
    IsInside (console.refill number further) number further where
  active := h.active
  sinks := h.sinks
  there := h.isIn.update _
  streams := streamsAt_update h.isIn _

theorem update_eq (h : IsInside console number streams) (change : Streams → Streams) :
    console.update (.window number) change = console.refill number (change streams) := by
  have refilled := update_update console (.window number) (fun _ => streams) change
  change (console.refill number streams).update _ _ = _ at refilled
  rw [h.refill_same] at refilled
  exact refilled

theorem leads (h : IsInside console number streams) : console.Leads :=
  ⟨_, _, h.sinks, h.there, h.there⟩

theorem streams?_eq (h : IsInside console number streams) : console.streams? = some streams := by
  rw [streams?, h.sinks]
  dsimp only
  rw [h.streams]

theorem putStreams (h : IsInside console number streams) (further : Streams) :
    console.putStreams further = console.refill number further := by
  rw [putStreams_of_sinks h.sinks, update_update]
  rfl

theorem writeTo {written : Written} (h : IsInside console number (.ofWritten written)) (stream : Stream)
    (text : Text) :
    console.writeTo (.window number) stream text =
      .ok (console.refill number (.ofWritten (written ++ Written.empty.write stream text))) := by
  have opened : ((console.streamsAt (.window number)).of stream).closed = false := by
    rw [h.streams]
    cases stream <;> rfl
  rw [Console.writeTo, opened, if_neg (by simp), h.update_eq, Streams.write_ofWritten]

end IsInside

namespace Act

/-- A capture is refused while a window is active, and leaves no trace. -/
theorem run_capture_of_active {α : Type} {console : Console} (h : console.active.isSome = true)
    (act : Act α) : (capture act).run console = (.error .windowActive, console) := by
  have refused : console.addWindow.enter console.windows.length = .error .windowActive := by
    simp [Console.enter, addWindow, h]
  simp only [capture, run_bind, run_get, run_modify, run_outcome, run_inside_of_refused refused,
    run_throw]
  simp [addWindow, dropWindow]

variable {console : Console} {number : Nat} {written : Written}

/-- One action in a window writes its text there, or raises its problem. -/
theorem run_perform (h : IsInside console number (.ofWritten written)) (action : Action) :
    (perform action).run console =
      match action.problem? with
      | none => (.ok (), console.refill number
          (.ofWritten (written ++ ⟨action.text .out, action.text .err⟩)))
      | some problem => (.error problem, console) := by
  cases action with
  | write stream text =>
    cases stream <;>
      simp [perform, run_write, Console.write, h.sinks, Sinks.of, h.writeTo, Action.problem?,
        Action.text, Written.write, Written.empty]
  | print text =>
    simp [perform, run_print, Console.print, h.sinks, h.writeTo, Action.problem?, Action.text,
      Written.write, Written.empty]
  | raise cause => rfl
  | capture actions =>
    rw [perform, run_bind, run_capture_of_active (by simp [h.active])]
    rfl

/-- Actions in a window write, up to the first one that raises, and change nothing else. -/
theorem run_performAll (h : IsInside console number (.ofWritten written)) (actions : List Action) :
    (performAll actions).run console =
      (Action.result actions,
        console.refill number (.ofWritten (written ++ Action.written actions))) := by
  induction actions generalizing console written with
  | nil =>
    have none : Action.written [] = .empty := rfl
    rw [none, Written.append_empty, h.refill_same]
    rfl
  | cons action actions ih =>
    rw [performAll, run_bind, run_perform h]
    cases hp : action.problem? with
    | some problem =>
      have none : Action.written (action :: actions) = .empty := by
        simp [Action.written, Action.done, hp, Written.empty]
      rw [none, Written.append_empty, h.refill_same]
      simp [Action.result, hp]
    | none =>
      have more : Action.written (action :: actions) =
          ⟨action.text .out, action.text .err⟩ ++ Action.written actions := by
        simp [Action.written, Action.done, hp, Written.append_def]
      simp only [ih (h.refill _), refill_refill, more, Written.append_assoc]
      simp [Action.result, hp]

end Act

/-- A new window as it is after actions were done in it and it was left again. -/
def leftWindow (console : Console) (actions : List Action) : Window where
  streams := .ofWritten (Action.written actions)
  saved := console.sinks

theorem modify_length_append (windows : List Window) (window : Window) (f : Window → Window) :
    (windows ++ [window]).modify windows.length f = windows ++ [f window] := by
  induction windows with
  | nil => rfl
  | cons first windows ih => simp [ih]

namespace Act

/-- An act in a new window that does nothing but fill it, at a console without an active one and with the
lock free: all but the window is as it was. -/
theorem run_inside_new {α : Type} {console : Console} (inactive : console.active = none)
    (free : console.locked = false) (act : Act α) (streams : Streams) (result : Except Problem α)
    (hact : ∀ inner, IsInside inner console.windows.length .empty →
      act.run inner = (result, inner.refill console.windows.length streams)) :
    (inside console.windows.length act).run console.addWindow =
      (result, { console with
        windows := console.windows ++ [{ streams, saved := console.sinks }] }) := by
  have entered : console.addWindow.enter console.windows.length = .ok
      { console with
        windows := console.windows ++ [{ Window.new with saved := console.sinks }]
        sinks := ⟨some (.window console.windows.length), some (.window console.windows.length)⟩
        active := some console.windows.length
        locked := true } := by
    simp [Console.enter, addWindow, inactive, free, modify_length_append]
  have isInside : IsInside { console with
      windows := console.windows ++ [{ Window.new with saved := console.sinks }]
      sinks := ⟨some (.window console.windows.length), some (.window console.windows.length)⟩
      active := some console.windows.length
      locked := true } console.windows.length .empty :=
    ⟨rfl, rfl, by simp, by simp [streamsAt, Window.new]⟩
  rw [run_inside_of_entered entered act (hact _ isInside) rfl]
  simp [Console.exit, restore, refill, update, modify_length_append, inactive, free]

end Act

namespace Act

variable {α : Type} {console : Console}

/-- What a capture returns for what its act came to, and for the streams of its window after the act. -/
def captureResult (streams : Streams) (result : Except Problem α) : Except Problem (Captured α) :=
  match containedResult result with
  | .ok contained => if streams.areOpen then .ok ⟨streams.written, contained⟩ else .error streamClosed
  | .error problem => .error problem

theorem captureResult_ofWritten (written : Written) (result : Except Problem α) :
    captureResult (.ofWritten written) result = (containedResult result).map (Captured.mk written) := by
  rw [captureResult]
  cases containedResult result <;> rfl

/-- A capture that returns for an act with a problem returns the problem. -/
theorem result_of_captureResult {streams : Streams} {problem : Problem} {captured : Captured α}
    (h : captureResult streams (.error problem) = .ok captured) : captured.result = .error problem := by
  cases contained : problem.isContained with
  | false => simp [captureResult, containedResult, contained] at h
  | true =>
    simp only [captureResult, containedResult, contained, if_true] at h
    split at h
    · exact (congrArg Captured.result (Except.ok.inj h)).symm
    · cases h

theorem enter_addWindow_of_locked (inactive : console.active = none) (held : console.locked = true) :
    console.addWindow.enter console.windows.length = .error .waiting := by
  simp [Console.enter, addWindow, inactive, held]

/-- A capture of an act that does nothing but fill its window leaves the console as it was. -/
theorem run_capture (inactive : console.active = none) (act : Act α) (streams : Streams)
    (result : Except Problem α)
    (hact : ∀ inner, IsInside inner console.windows.length .empty →
      act.run inner = (result, inner.refill console.windows.length streams)) :
    (capture act).run console =
      (if console.locked then .error .waiting else captureResult streams result, console) := by
  cases held : console.locked with
  | true =>
    simp only [capture, run_bind, run_get, run_modify, run_outcome,
      run_inside_of_refused (enter_addWindow_of_locked inactive held), run_throw]
    simp [addWindow, dropWindow]
  | false =>
    have inside := run_inside_new inactive held (contained act) streams (containedResult result)
      fun inner h => by rw [run_contained, hact inner h]
    simp only [capture, run_bind, run_get, run_modify, run_outcome, inside]
    cases captured : containedResult result with
    | error problem => simp [captureResult, captured, dropWindow]
    | ok contained =>
      cases opened : streams.areOpen <;>
        simp [captureResult, captured, opened, Console.captured, streamsAt, dropWindow]

end Act

/-- Whatever actions are done, captured or in a window of their own, at a console where no window is
active: the console is as it was, with the sinks, the active window and the lock, and nothing more is
written to any sink that was there. What was captured is what the actions before the first one that
raises wrote. A capture contains that one's problem or passes it on; a window lets every problem pass. A
lock that is held without an active window is waited for. -/
theorem capture_transparent (console : Console) (inactive : console.active = none)
    (actions : List Action) :
    (Act.capture (Act.performAll actions)).run console =
      (if console.locked then .error .waiting
        else (Act.containedResult (Action.result actions)).map (Captured.mk (Action.written actions)),
        console) ∧
    (Act.inNewWindow (Act.performAll actions)).run console =
      if console.locked then (.error .waiting, console.addWindow)
      else (Action.result actions,
        { console with windows := console.windows ++ [console.leftWindow actions] }) := by
  have performs (inner : Console) (h : IsInside inner console.windows.length .empty) :
      (Act.performAll actions).run inner = (Action.result actions,
        inner.refill console.windows.length (.ofWritten (Action.written actions))) :=
    @Act.run_performAll _ _ .empty h actions
  constructor
  · rw [Act.run_capture inactive _ _ _ performs, Act.captureResult_ofWritten]
  · cases held : console.locked with
    | true =>
      simp only [Act.inNewWindow, run_bind, run_get, run_modify,
        Act.run_inside_of_refused (Act.enter_addWindow_of_locked inactive held)]
      simp
    | false =>
      simp only [Act.inNewWindow, run_bind, run_get, run_modify,
        Act.run_inside_new inactive held _ _ _ performs]
      simp [held, leftWindow]

/-- A console where one stream leads to a window that was left, and the other one outside. -/
def redirectedConsole : Console :=
  { Console.initial with windows := [.new], sinks := ⟨some (.window 0), some .outside⟩ }

/-- A capture among actions ends them: neither it nor what follows it writes anything. -/
theorem redirectedConsole_capture :
    redirectedConsole.active = none ∧
    (Act.capture (Act.performAll
      [.write .err ['e'], .print ['o'], .capture [.write .out ['n']], .print ['l']])).run
        redirectedConsole =
      (.ok ⟨⟨['o', '\n'], ['e']⟩, .error .windowActive⟩, redirectedConsole) :=
  ⟨rfl, (capture_transparent redirectedConsole rfl
    [.write .err ['e'], .print ['o'], .capture [.write .out ['n']], .print ['l']]).1⟩

end DocExamples.Console
