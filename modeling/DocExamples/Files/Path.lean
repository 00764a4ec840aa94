import DocExamples.Text.Quoted

namespace DocExamples.Files

open Text

structure Path where
  /-- The slashes that a path starts with, which make it absolute. -/
  root : Text
  parts : List Text
  deriving DecidableEq, Repr

namespace Path

def here : Text := ['.']

def up : Text := ['.', '.']

def absolute (path : Path) : Bool := !path.root.isEmpty

/-- The root of the path that a text writes: any number of slashes but two counts as one. -/
def rootOf (text : Text) : Text :=
  match text.takeWhile (· == '/') with
  | [] => []
  | ['/', '/'] => ['/', '/']
  | _ => ['/']

def ofText (text : Text) : Path :=
  { root := rootOf text
    parts := (pieces '/' text).filter fun part => !(part.isEmpty || part == here) }

def text (path : Path) : Text :=
  if path.absolute then path.root ++ joinWith ['/'] path.parts
  else if path.parts.isEmpty then here
  else joinWith ['/'] path.parts

def fileName (path : Path) : Text := path.parts.getLastD []

/-- The end of the file name from its last full stop on, if it neither starts nor ends there. -/
def suffix (path : Path) : Text :=
  let name := path.fileName
  let ending := (name.reverse.takeWhile (· != '.')).reverse
  if ending.isEmpty || name.length ≤ ending.length + 1 then [] else '.' :: ending

end Path

end DocExamples.Files
