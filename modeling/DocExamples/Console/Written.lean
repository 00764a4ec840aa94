import DocExamples.Text.Basic

namespace DocExamples.Console

open Text

inductive Stream
  | out
  | err
  deriving DecidableEq, Repr

/-- The texts written to standard output and to standard error. -/
structure Written where
  out : Text
  err : Text
  deriving DecidableEq, Repr

namespace Written

def empty : Written := ⟨[], []⟩

def write (written : Written) (stream : Stream) (text : Text) : Written :=
  match stream with
  | .out => { written with out := written.out ++ text }
  | .err => { written with err := written.err ++ text }

def append (first second : Written) : Written :=
  ⟨first.out ++ second.out, first.err ++ second.err⟩

instance : Append Written := ⟨append⟩

end Written

/-- What a stream holds. A stream that is closed can neither be written to nor read. -/
structure Buffer where
  text : Text
  closed : Bool
  deriving DecidableEq, Repr

structure Streams where
  out : Buffer
  err : Buffer
  deriving DecidableEq, Repr

namespace Streams

def ofWritten (written : Written) : Streams := ⟨⟨written.out, false⟩, ⟨written.err, false⟩⟩

def empty : Streams := ofWritten .empty

def written (streams : Streams) : Written := ⟨streams.out.text, streams.err.text⟩

def of (streams : Streams) : Stream → Buffer
  | .out => streams.out
  | .err => streams.err

def set (streams : Streams) (stream : Stream) (buffer : Buffer) : Streams :=
  match stream with
  | .out => { streams with out := buffer }
  | .err => { streams with err := buffer }

def write (streams : Streams) (stream : Stream) (text : Text) : Streams :=
  streams.set stream { streams.of stream with text := (streams.of stream).text ++ text }

def close (streams : Streams) (stream : Stream) : Streams :=
  streams.set stream { streams.of stream with closed := true }

def areOpen (streams : Streams) : Bool := !streams.out.closed && !streams.err.closed

end Streams

end DocExamples.Console
