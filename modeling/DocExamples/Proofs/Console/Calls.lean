import DocExamples.DocTest
import DocExamples.Proofs.Console.Run
import DocExamples.Proofs.Console.Streams
import DocExamples.Script.Language

namespace DocExamples.Console

open Effects

/-- A call of a thread. A block and a capture may hold any calls. -/
inductive Call
  | new
  | enter (number : Nat)
  | exit (number : Nat)
  | write (stream : Stream) (text : Text)
  | print (text : Text)
  | raise (cause : Script.Cause)
  | inside (number : Nat) (calls : List Call)
  | inNewWindow (calls : List Call)
  | capture (calls : List Call)
  | doctest (test : DocTest)
  /-- The thread goes on after the calls even if they raise a problem. -/
  | attempt (calls : List Call)

namespace Call

variable [Language]

mutual

def act : Call → Act Unit
  | new => modify addWindow
  | enter number => Act.enter number
  | exit number => Act.exit number
  | write stream text => Act.write stream text
  | print text => Act.print text
  | raise cause => throw (.raised cause)
  | inside number calls => Act.inside number (actAll calls)
  | inNewWindow calls => Act.inNewWindow (actAll calls)
  | capture calls => do
    let _ ← Act.capture (actAll calls)
    return
  | doctest test => do
    let _ ← test.outcome
    return
  | attempt calls => do
    let _ ← Act.outcome (actAll calls)
    return

/-- Makes calls one after another, up to the first one that raises a problem. -/
def actAll : List Call → Act Unit
  | [] => return
  | call :: calls => do
    act call
    actAll calls

end

/-- The window that a call enters first, and the console at which it does. -/
def entered? (console : Console) : Call → Option (Nat × Console)
  | enter number | inside number _ => some (number, console)
  | inNewWindow _ | capture _ | doctest _ => some (console.windows.length, console.addWindow)
  | new | exit _ | write _ _ | print _ | raise _ | attempt _ => none

/-- The calls that are made when calls are made at a console, the ones in blocks and captures among
them, each with the console at which it is made. -/
inductive MadeAt : List Call → Console → Call → Console → Prop
  | first {call : Call} {calls : List Call} {console : Console} :
    MadeAt (call :: calls) console call console
  | later {call made : Call} {calls : List Call} {console next there : Console}
    (returns : call.act.run console = (.ok (), next)) (h : MadeAt calls next made there) :
    MadeAt (call :: calls) console made there
  | inside {number : Nat} {made : Call} {body calls : List Call} {console entered there : Console}
    (enters : console.enter number = .ok entered) (h : MadeAt body entered made there) :
    MadeAt (.inside number body :: calls) console made there
  | inNewWindow {made : Call} {body calls : List Call} {console entered there : Console}
    (enters : console.addWindow.enter console.windows.length = .ok entered)
    (h : MadeAt body entered made there) : MadeAt (.inNewWindow body :: calls) console made there
  | capture {made : Call} {body calls : List Call} {console entered there : Console}
    (enters : console.addWindow.enter console.windows.length = .ok entered)
    (h : MadeAt body entered made there) : MadeAt (.capture body :: calls) console made there
  | attempt {made : Call} {body calls : List Call} {console there : Console}
    (h : MadeAt body console made there) : MadeAt (.attempt body :: calls) console made there

end Call

/-- The lock is held exactly when a window is marked active. -/
def IsBalanced (console : Console) : Prop := console.locked = console.active.isSome

theorem IsBalanced.of_same {console next : Console} (h : console.IsBalanced)
    (locked : next.locked = console.locked) (active : next.active = console.active) :
    next.IsBalanced := by
  rw [IsBalanced, locked, active]
  exact h

theorem IsBalanced.enter {console entered : Console} {number : Nat}
    (h : console.enter number = .ok entered) : entered.IsBalanced := by
  rw [Console.enter] at h
  split at h
  · cases h
  · split at h
    · cases h
    · cases h
      rfl

/-- Leaving a window unlocks and unmarks, even if it raises a problem. -/
theorem IsBalanced.exit (console : Console) (number : Nat) : (console.exit number).2.IsBalanced := by
  rw [Console.exit]
  split
  · rfl
  · next free =>
    have unlocked : (console.restore number).locked = false := by simpa using free
    rw [IsBalanced, unlocked]
    rfl

/-- A text that is written to a stream is added where the stream leads. -/
theorem exists_of_write {console next : Console} {stream : Stream} {text : Text}
    (h : console.write stream text = .ok next) :
    ∃ sink, console.sinks.of stream = some sink ∧ console.update sink (·.write stream text) = next := by
  rw [write] at h
  cases sinks : console.sinks.of stream with
  | none => simp [sinks] at h
  | some sink =>
    simp only [sinks, writeTo] at h
    split at h
    · cases h
    · exact ⟨sink, rfl, Except.ok.inj h⟩

theorem ne_waiting_of_write {console : Console} {stream : Stream} {text : Text} {problem : Problem}
    (h : console.write stream text = .error problem) : problem ≠ .waiting := by
  rw [write] at h
  rintro rfl
  cases sinks : console.sinks.of stream with
  | none => simp [sinks, streamMissing] at h
  | some sink =>
    simp only [sinks, writeTo] at h
    split at h <;> simp [streamClosed] at h

namespace Act

variable {α β : Type}

/-- From a balanced console an act leads to a balanced one, and does not wait for the lock. -/
def KeepsLock (act : Act α) : Prop :=
  ∀ console : Console, console.IsBalanced →
    (act.run console).2.IsBalanced ∧ (act.run console).1 ≠ .error .waiting

/-- The values with which an act may return at a balanced console. -/
def MayReturn (act : Act α) (value : α) : Prop :=
  ∃ console : Console, console.IsBalanced ∧ (act.run console).1 = .ok value

namespace KeepsLock

theorem pure (value : α) : KeepsLock (pure value) := by
  intro console h
  exact ⟨h, by simp⟩

theorem raise {problem : Problem} (h : problem ≠ .waiting) : KeepsLock (throw problem : Act α) := by
  intro console balanced
  refine ⟨balanced, ?_⟩
  rw [run_throw]
  intro same
  exact h (Except.error.inj same)

theorem get : KeepsLock get := by
  intro console h
  exact ⟨h, by simp⟩

/-- The second act is needed only for the values that the first one returns. -/
theorem bind {act : Act α} {next : α → Act β} (h : KeepsLock act)
    (hn : ∀ value, act.MayReturn value → KeepsLock (next value)) : KeepsLock (act >>= next) := by
  intro console balanced
  have first := h console balanced
  rw [run_bind]
  cases ran : act.run console with
  | mk result after =>
    rw [ran] at first
    cases result with
    | ok value => exact hn value ⟨console, balanced, by rw [ran]⟩ after first.1
    | error problem =>
      refine ⟨first.1, ?_⟩
      intro same
      exact first.2 (congrArg Except.error (Except.error.inj same))

theorem update {f : Console → Console}
    (h : ∀ console, (f console).locked = console.locked ∧ (f console).active = console.active) :
    KeepsLock (modify f) := by
  intro console balanced
  exact ⟨balanced.of_same (h console).1 (h console).2, by simp⟩

theorem outcome {act : Act α} (h : KeepsLock act) : KeepsLock (Act.outcome act) := by
  intro console balanced
  exact ⟨(h console balanced).1, by simp⟩

theorem enter (number : Nat) : KeepsLock (Act.enter number) := by
  intro console balanced
  rw [run_enter]
  cases entered : console.enter number with
  | ok next => exact ⟨.enter entered, by simp⟩
  | error problem =>
    refine ⟨balanced, ?_⟩
    rintro ⟨⟩
    -- The lock is waited for only where it is held and no window is active.
    rw [Console.enter] at entered
    split at entered
    · cases entered
    · next inactive =>
      rw [IsBalanced, Bool.eq_false_iff.mpr inactive] at balanced
      simp [balanced] at entered

theorem exit (number : Nat) : KeepsLock (Act.exit number) := by
  intro console balanced
  have left := IsBalanced.exit console number
  rw [run_exit]
  cases exited : console.exit number with
  | mk problem next =>
    rw [exited] at left
    cases problem with
    | none => exact ⟨left, by simp⟩
    | some problem =>
      refine ⟨left, ?_⟩
      rintro ⟨⟩
      rw [Console.exit] at exited
      split at exited <;> cases exited

theorem write (stream : Stream) (text : Text) : KeepsLock (Act.write stream text) := by
  intro console balanced
  rw [run_write]
  cases wrote : console.write stream text with
  | ok next =>
    obtain ⟨sink, -, rfl⟩ := exists_of_write wrote
    exact ⟨balanced.of_same (locked_update ..) (active_update ..), by simp⟩
  | error problem => exact ⟨balanced, by simpa using ne_waiting_of_write wrote⟩

theorem print (text : Text) : KeepsLock (Act.print text) := by
  intro console balanced
  rw [run_print, Console.print]
  cases sinks : console.sinks.out with
  | none => exact ⟨balanced, by simp⟩
  | some sink =>
    have same : console.writeTo sink .out (text ++ ['\n']) = console.write .out (text ++ ['\n']) := by
      rw [Console.write, Sinks.of, sinks]
    dsimp only
    rw [same, ← run_write]
    exact write .out (text ++ ['\n']) console balanced

theorem onStreams (change : Streams → α × Streams) : KeepsLock (Act.onStreams change) := by
  intro console balanced
  rw [run_onStreams]
  cases console.streams? with
  | none => exact ⟨balanced, by simp [streamMissing]⟩
  | some streams => exact ⟨balanced.of_same (locked_putStreams ..) (active_putStreams ..), by simp⟩

theorem raise_of_ne {problem : Problem} (h : (.error problem : Except Problem α) ≠ .error .waiting) :
    KeepsLock (throw problem : Act β) := by
  apply raise
  rintro rfl
  exact h rfl

theorem ne_waiting_of_outcome {act : Act α} (h : KeepsLock act) {result : Except Problem α}
    (hr : (Act.outcome act).MayReturn result) : result ≠ .error .waiting := by
  obtain ⟨console, balanced, returned⟩ := hr
  rw [run_outcome] at returned
  rw [← Except.ok.inj returned]
  exact (h console balanced).2

theorem inside {act : Act α} (number : Nat) (h : KeepsLock act) :
    KeepsLock (Act.inside number act) := by
  apply (enter number).bind
  intro _ _
  apply h.outcome.bind
  intro outcome returned
  apply (exit number).bind
  intro _ _
  have ready := h.ne_waiting_of_outcome returned
  cases outcome with
  | ok value => exact pure value
  | error problem => exact raise_of_ne ready

theorem addWindow : KeepsLock (modify Console.addWindow : Act Unit) := by
  apply update
  intro _
  exact ⟨rfl, rfl⟩

theorem inNewWindow {act : Act α} (h : KeepsLock act) : KeepsLock (Act.inNewWindow act) := by
  apply get.bind
  intro _ _
  apply KeepsLock.addWindow.bind
  intro _ _
  exact h.inside _

theorem contained {act : Act α} (h : KeepsLock act) : KeepsLock (Act.contained act) := by
  apply h.outcome.bind
  intro outcome returned
  have ready := h.ne_waiting_of_outcome returned
  cases outcome with
  | ok value => exact pure _
  | error problem =>
    dsimp only
    split
    · exact pure _
    · exact raise_of_ne ready

theorem capture {act : Act α} (h : KeepsLock act) : KeepsLock (Act.capture act) := by
  have block (number : Nat) : KeepsLock (Act.inside number (Act.contained act)) := h.contained.inside number
  apply get.bind
  intro console _
  apply KeepsLock.addWindow.bind
  intro _ _
  apply (block _).outcome.bind
  intro outcome returned
  have ready := (block _).ne_waiting_of_outcome returned
  apply get.bind
  intro after _
  apply bind
  · apply update
    intro console
    rw [dropWindow]
    split <;> exact ⟨rfl, rfl⟩
  · intro _ _
    cases outcome with
    | error problem => exact raise_of_ne ready
    | ok value =>
      split
      · exact pure _
      · next raised => cases raised
      · next unread _ =>
        apply raise
        rintro rfl
        rw [captured] at unread
        split at unread <;> cases unread

variable [Language]

/-- Running a doctest opens one window and writes in it. -/
theorem doctest (test : DocTest) : KeepsLock test.outcome := by
  have executes : KeepsLock test.execute := by
    apply (onStreams _).bind
    rintro ⟨ending, space⟩ _
    cases ending with
    | completed => exact pure ()
    | failed cause => exact raise (by simp)
    | escaped cause => exact raise (by simp)
  have runs : KeepsLock test.run := by
    apply executes.capture.bind
    intro _ _
    exact pure _
  apply runs.bind
  intro _ _
  exact pure _

end KeepsLock

end Act

namespace Call

open Act

/-- A window is entered at a balanced console with a free lock, or refused without a trace. -/
theorem enter_of_isBalanced {console : Console} (balanced : console.IsBalanced) (number : Nat) :
    (console.active ≠ none ∧ (Act.enter number).run console = (.error .windowActive, console)) ∨
    (console.locked = false ∧ ∃ entered, (Act.enter number).run console = (.ok (), entered) ∧
      entered.locked = true ∧ entered.active = some number) := by
  rw [run_enter, Console.enter]
  rw [IsBalanced] at balanced
  cases active : console.active with
  | some other => exact .inl ⟨by simp, rfl⟩
  | none =>
    have free : console.locked = false := by simpa [active] using balanced
    rw [if_neg (by simp), if_neg (by simp [free])]
    exact .inr ⟨free, _, rfl, rfl, rfl⟩

variable [Language]

/-- A call keeps the lock, whatever calls stand in it. -/
theorem keepsLock : ∀ call : Call, KeepsLock call.act
  | new => .addWindow
  | enter number => .enter number
  | exit number => .exit number
  | write stream text => .write stream text
  | print text => .print text
  | raise _ => .raise (by simp)
  | inside number calls => (keepsLock_actAll calls).inside number
  | inNewWindow calls => (keepsLock_actAll calls).inNewWindow
  | capture calls => (keepsLock_actAll calls).capture.bind fun _ _ => .pure ()
  | doctest test => (KeepsLock.doctest test).bind fun _ _ => .pure ()
  | attempt calls => (keepsLock_actAll calls).outcome.bind fun _ _ => .pure ()
where
  keepsLock_actAll : ∀ calls : List Call, KeepsLock (actAll calls)
  | [] => .pure ()
  | call :: calls => (keepsLock call).bind fun _ _ => keepsLock_actAll calls

/-- Every call among calls that are made at a balanced console is made at one. -/
theorem MadeAt.isBalanced {calls : List Call} {start here : Console} {call : Call}
    (made : MadeAt calls start call here) (balanced : start.IsBalanced) : here.IsBalanced := by
  induction made with
  | first => exact balanced
  | @later call _ _ console _ _ returns _ ih =>
    have kept := (call.keepsLock console balanced).1
    rw [returns] at kept
    exact ih kept
  | inside enters _ ih => exact ih (.enter enters)
  | inNewWindow enters _ ih => exact ih (.enter enters)
  | capture enters _ ih => exact ih (.enter enters)
  | attempt _ ih => exact ih balanced

end Call

/-- Whatever calls a thread makes, of which any may stand in blocks, in captures or after problems: before
and after each of them the lock is held exactly when a window is active. None of them waits for the lock:
when a window is entered it is refused and the console stays as it is, or the lock is free. -/
theorem lock_held_iff_active [Language] {calls : List Call} {start here : Console} {call : Call}
    (balanced : start.IsBalanced) (made : Call.MadeAt calls start call here) :
    (here.IsBalanced ∧ (call.act.run here).2.IsBalanced) ∧
    (call.act.run here).1 ≠ .error .waiting ∧
    ∀ number console, call.entered? here = some (number, console) →
      (console.active ≠ none ∧ (Act.enter number).run console = (.error .windowActive, console)) ∨
      (console.locked = false ∧ ∃ entered, (Act.enter number).run console = (.ok (), entered) ∧
        entered.locked = true ∧ entered.active = some number) := by
  have before := made.isBalanced balanced
  obtain ⟨after, ready⟩ := call.keepsLock here before
  refine ⟨⟨before, after⟩, ready, ?_⟩
  intro number console entry
  have same : console.locked = here.locked ∧ console.active = here.active := by
    cases call <;> simp only [Call.entered?, Option.some.injEq, Prod.mk.injEq, reduceCtorEq] at entry <;>
      · obtain ⟨rfl, rfl⟩ := entry
        exact ⟨rfl, rfl⟩
  exact Call.enter_of_isBalanced (before.of_same same.1 same.2) number

/-- A window that was never entered is left, first outside and then inside another one's block, which
frees the lock: so a third call can enter it there. -/
def strayCalls : List Call :=
  [.new, .new, .attempt [.exit 1], .inside 0 [.exit 1, .capture [.enter 1], .exit 0]]

theorem strayCalls_enter : Console.initial.IsBalanced ∧ ∃ here,
    Call.MadeAt strayCalls .initial (.capture [.enter 1]) here ∧
    ((here.IsBalanced ∧ ((Call.capture [.enter 1]).act.run here).2.IsBalanced) ∧
    ((Call.capture [.enter 1]).act.run here).1 ≠ .error .waiting ∧
    ∀ number console, (Call.capture [.enter 1]).entered? here = some (number, console) →
      (console.active ≠ none ∧ (Act.enter number).run console = (.error .windowActive, console)) ∨
      (console.locked = false ∧ ∃ entered, (Act.enter number).run console = (.ok (), entered) ∧
        entered.locked = true ∧ entered.active = some number)) := by
  have balanced : Console.initial.IsBalanced := rfl
  have made : ∃ here, Call.MadeAt strayCalls .initial (.capture [.enter 1]) here :=
    ⟨_, .later rfl (.later rfl (.later rfl (.inside rfl (.later rfl .first))))⟩
  obtain ⟨here, made⟩ := made
  exact ⟨balanced, here, made, lock_held_iff_active balanced made⟩

end DocExamples.Console
