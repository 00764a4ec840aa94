import DocExamples.Console.Written
import DocExamples.Script.ErrorType

namespace DocExamples

open Script

namespace Console

inductive Sink
  | outside
  | window (number : Nat)
  deriving DecidableEq, Repr

structure Sinks where
  out : Option Sink
  err : Option Sink
  deriving DecidableEq, Repr

def Sinks.of (sinks : Sinks) : Stream → Option Sink
  | .out => sinks.out
  | .err => sinks.err

/-- A window: the streams that are captured in it, and the sinks to which it returns the streams when it is
left. -/
structure Window where
  streams : Streams
  saved : Sinks
  deriving DecidableEq, Repr

/-- A window that was never entered has no sinks to return to. -/
def Window.new : Window := { streams := .empty, saved := ⟨none, none⟩ }

end Console

open Console

/-- The console of one thread: two output streams, each of which leads to a sink. While a window is active, both
lead to the window. At most one window is active, and a lock is held for it. -/
structure Console where
  sinks : Sinks
  outside : Streams
  windows : List Window
  active : Option Nat
  locked : Bool
  deriving DecidableEq, Repr

namespace Console

def initial : Console :=
  { sinks := ⟨some .outside, some .outside⟩
    outside := .empty
    windows := []
    active := none
    locked := false }

inductive Problem
  | raised (cause : Cause)
  /-- Code fails by an error. -/
  | failed (cause : Cause)
  /-- A window is entered while one is active. -/
  | windowActive
  /-- A window is entered that would have to wait for a lock held by its own thread. -/
  | waiting
  deriving DecidableEq, Repr

namespace Problem

/-- Problems that a capture contains. The others pass through it. -/
def isContained : Problem → Bool
  | raised cause => cause.type.isContained
  | failed _ | windowActive => true
  | waiting => false

def message : Problem → Text
  | raised cause => cause.text
  | failed cause => cause.description
  | windowActive => "A capture window is already active in this thread.".toList
  | waiting => "The capture lock is held.".toList

end Problem

def streamClosed : Problem := .raised ⟨.valueError, "I/O operation on closed file".toList⟩

def streamMissing : Problem :=
  .raised ⟨.attributeError, "'NoneType' object has no attribute 'write'".toList⟩

def streamsAt (console : Console) : Sink → Streams
  | .outside => console.outside
  | .window number => (console.windows[number]?.map (·.streams)).getD .empty

/-- The captured text of a window, unless one of its streams is closed. -/
def captured (console : Console) (number : Nat) : Except Problem Written :=
  let streams := console.streamsAt (.window number)
  if streams.areOpen then .ok streams.written else .error streamClosed

def addWindow (console : Console) : Console :=
  { console with windows := console.windows ++ [.new] }

/-- Takes a window away if it is the last one. Where others were added after it, it keeps its place, by
which the others are numbered. -/
def dropWindow (console : Console) (number : Nat) : Console :=
  if console.windows.length = number + 1 then { console with windows := console.windows.dropLast }
  else console

def update (console : Console) (sink : Sink) (change : Streams → Streams) : Console :=
  match sink with
  | .outside => { console with outside := change console.outside }
  | .window number =>
    { console with windows := console.windows.modify number fun window =>
        { window with streams := change window.streams } }

def writeTo (console : Console) (sink : Sink) (stream : Stream) (text : Text) : Except Problem Console :=
  if ((console.streamsAt sink).of stream).closed then .error streamClosed
  else .ok (console.update sink (·.write stream text))

def write (console : Console) (stream : Stream) (text : Text) : Except Problem Console :=
  match console.sinks.of stream with
  | some sink => console.writeTo sink stream text
  | none => .error streamMissing

/-- Prints a line to standard output; nothing happens if it leads nowhere. -/
def print (console : Console) (text : Text) : Except Problem Console :=
  match console.sinks.out with
  | some sink => console.writeTo sink .out (text ++ ['\n'])
  | none => .ok console

def streams? (console : Console) : Option Streams :=
  match console.sinks with
  | ⟨some out, some err⟩ => some ⟨(console.streamsAt out).out, (console.streamsAt err).err⟩
  | _ => none

/-- Puts the two streams where they lead. -/
def putStreams (console : Console) (streams : Streams) : Console :=
  match console.sinks with
  | ⟨some out, some err⟩ =>
    (console.update out (·.set .out streams.out)).update err (·.set .err streams.err)
  | _ => console

/-- Enters a window: takes the lock, keeps the sinks in the window and leads both streams to it. -/
def enter (console : Console) (number : Nat) : Except Problem Console :=
  if console.active.isSome then .error .windowActive
  else if console.locked then .error .waiting
  else
    .ok { console with
      windows := console.windows.modify number fun window => { window with saved := console.sinks }
      sinks := ⟨some (.window number), some (.window number)⟩
      active := some number
      locked := true }

/-- Returns the streams to the sinks kept in a window and marks no window active. -/
def restore (console : Console) (number : Nat) : Console :=
  { console with
    sinks := (console.windows[number]?.map (·.saved)).getD ⟨none, none⟩
    active := none }

/-- Leaves a window: the streams are returned, and then the lock is released. -/
def exit (console : Console) (number : Nat) : Option Problem × Console :=
  let restored := console.restore number
  if restored.locked then (none, { restored with locked := false })
  else (some (.raised ⟨.runtimeError, "release unlocked lock".toList⟩), restored)

end Console

end DocExamples
