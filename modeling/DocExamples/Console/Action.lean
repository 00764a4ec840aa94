import DocExamples.Console.Window

namespace DocExamples.Console

/-- Something that is done at the console and may raise a problem; the console is kept then. -/
abbrev Act := ExceptT Problem (StateM Console)

/-- The steps of which an action may be made. -/
inductive Action
  | write (stream : Stream) (text : Text)
  | print (text : Text)
  | raise (cause : Script.Cause)
  | capture (actions : List Action)

namespace Act

def enter (number : Nat) : Act Unit := do
  match (← get).enter number with
  | .ok console => set console
  | .error problem => throw problem

def exit (number : Nat) : Act Unit := do
  let (problem, console) := (← get).exit number
  set console
  match problem with
  | none => return
  | some problem => throw problem

def write (stream : Stream) (text : Text) : Act Unit := do
  match (← get).write stream text with
  | .ok console => set console
  | .error problem => throw problem

def print (text : Text) : Act Unit := do
  match (← get).print text with
  | .ok console => set console
  | .error problem => throw problem

def onStreams {α : Type} (change : Streams → α × Streams) : Act α := do
  match (← get).streams? with
  | some streams =>
    let (value, streams) := change streams
    modify (·.putStreams streams)
    return value
  | none => throw streamMissing

/-- What an act comes to, as a value. -/
def outcome {α : Type} (act : Act α) : Act (Except Problem α) := fun console =>
  let (result, console) := act.run console
  (.ok result, console)

/-- Runs an act inside a window, which is left whatever happens. -/
def inside {α : Type} (number : Nat) (act : Act α) : Act α := do
  enter number
  let result ← outcome act
  exit number
  match result with
  | .ok value => return value
  | .error problem => throw problem

def inNewWindow {α : Type} (act : Act α) : Act α := do
  let number := (← get).windows.length
  modify addWindow
  inside number act

end Act

/-- What a capture returns: what was written, and what the act came to. -/
structure Captured (α : Type) where
  written : Written
  result : Except Problem α

namespace Act

/-- The result of an act if it is contained, else its problem. -/
def contained {α : Type} (act : Act α) : Act (Except Problem α) := do
  match ← outcome act with
  | .ok value => return .ok value
  | .error problem => if problem.isContained then return .error problem else throw problem

/-- Captures what an act writes, in a window of its own that does not outlive the capture. What was written is
read after the window is left, unless a problem passes through it. -/
def capture {α : Type} (act : Act α) : Act (Captured α) := do
  let number := (← get).windows.length
  modify addWindow
  let result ← outcome (inside number (contained act))
  let captured := (← get).captured number
  modify (dropWindow · number)
  match result, captured with
  | .ok result, .ok written => return { written, result }
  | .error problem, _ => throw problem
  | _, .error problem => throw problem

mutual

def perform : Action → Act Unit
  | .write stream text => write stream text
  | .print text => print text
  | .raise cause => throw (.raised cause)
  | .capture actions => do
    let _ ← capture (performAll actions)
    return

def performAll : List Action → Act Unit
  | [] => return
  | action :: actions => do
    perform action
    performAll actions

end

end Act

end DocExamples.Console
