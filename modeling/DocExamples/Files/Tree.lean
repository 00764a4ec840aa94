import DocExamples.Files.Path
import DocExamples.Text.Utf8

namespace DocExamples.Files

open Text

/-- A place in the tree, as the names that lead to it from the top. -/
abbrev Place := List Text

abbrev Bytes := List UInt8

/-- An error that the system reports: a number, and what it says. -/
structure SystemError where
  number : Nat
  reason : Text
  deriving DecidableEq, Repr

/-- What is asked of the system at a place: a name in the directory there, or to open the file there. -/
inductive Access
  | find (name : Text)
  | read
  | write
  deriving DecidableEq, Repr

/-- Files with their contents, directories beside those that hold them, the working directory, how the top
directory is called, and what the system refuses, for want of a permission or for any other reason. -/
structure Tree where
  top : Text
  files : List (Place × Bytes)
  directories : List Place
  working : Place
  refusal? : Access → Place → Option SystemError := fun _ _ => none

inductive AccessError
  | missing
  | notADirectory
  | isADirectory
  | nameTooLong
  | refused (error : SystemError)
  | nulInPath
  deriving DecidableEq, Repr

namespace AccessError

def report? : AccessError → Option SystemError
  | missing => some ⟨2, "No such file or directory".toList⟩
  | notADirectory => some ⟨20, "Not a directory".toList⟩
  | isADirectory => some ⟨21, "Is a directory".toList⟩
  | nameTooLong => some ⟨36, "File name too long".toList⟩
  | refused error => some error
  | nulInPath => none

def message (error : AccessError) (path : Text) : Text :=
  match error.report? with
  | some ⟨number, reason⟩ =>
    "[Errno ".toList ++ Text.ofNat number ++ "] ".toList ++ reason ++ ": ".toList ++ quote path
  | none => "embedded null byte".toList

/-- The numbers of what the system reports where there is nothing: no entry, a bad descriptor, no directory on
the way, or a loop of links. -/
def absenceNumbers : List Nat := [2, 9, 20, 40]

/-- Errors by which no file is found at a path. Other errors keep it from being looked at. -/
def isAbsence : AccessError → Bool
  | nameTooLong => false
  | refused error => absenceNumbers.contains error.number
  | missing | notADirectory | isADirectory | nulInPath => true

end AccessError

namespace Tree

def fileAt? (tree : Tree) (place : Place) : Option Bytes := tree.files.lookup place

/-- The top, the directories, and all that leads to a file or a directory. -/
def isDirectory (tree : Tree) (place : Place) : Bool :=
  place.isEmpty || tree.directories.any (place.isPrefixOf ·) ||
    tree.files.any fun entry => place.isPrefixOf entry.1 && place.length < entry.1.length

/-- Above the top only directories are known, and there names lead nowhere. -/
def aboveTop (parts : List Text) : AccessError :=
  if parts.all (· == Path.up) then .isADirectory else .missing

def longestName : Nat := 255

def longestPath : Nat := 4095

/-- Where names lead to from a directory; each one but the last has to lead to a directory. -/
def follow (tree : Tree) : Place → List Text → Except AccessError Place
  | place, [] => .ok place
  | place, part :: parts =>
    if tree.isDirectory place then
      match tree.refusal? (.find part) place with
      | some error => .error (.refused error)
      | none =>
        if part = Path.up then
          if place.isEmpty then .error (aboveTop parts) else follow tree place.dropLast parts
        else if longestName < (Utf8.encode part).length then .error .nameTooLong
        else follow tree (place ++ [part]) parts
    else if (tree.fileAt? place).isSome then .error .notADirectory
    else .error .missing

/-- The place of a path. An absolute one starts at the top if the top has no name of its own. -/
def locate (tree : Tree) (path : Path) : Except AccessError Place :=
  if path.text.contains '\x00' then .error .nulInPath
  else if longestPath < (Utf8.encode path.text).length then .error .nameTooLong
  else if !path.absolute then tree.follow tree.working path.parts
  else if tree.top.isEmpty then tree.follow [] path.parts
  else .error (aboveTop path.parts)

def content (tree : Tree) (place : Place) : Except AccessError Bytes :=
  match tree.fileAt? place with
  | some bytes => .ok bytes
  | none => .error (if tree.isDirectory place then .isADirectory else .missing)

/-- Goes on where the system does not refuse an access. -/
def unlessRefused {α : Type} (tree : Tree) (access : Access) (place : Place) (value : α) :
    Except AccessError α :=
  match tree.refusal? access place with
  | some error => .error (.refused error)
  | none => .ok value

def readAt (tree : Tree) (place : Place) : Except AccessError Bytes := do
  tree.unlessRefused .read place (← tree.content place)

def read (tree : Tree) (path : Path) : Except AccessError Bytes := do
  tree.readAt (← tree.locate path)

def isFile (tree : Tree) (path : Path) : Except AccessError Bool :=
  match tree.locate path with
  | .ok place => .ok (tree.fileAt? place).isSome
  | .error error => if error.isAbsence then .ok false else .error error

def hasEntry (tree : Tree) (path : Path) : Except AccessError Bool :=
  match tree.locate path with
  | .ok place => .ok ((tree.fileAt? place).isSome || tree.isDirectory place)
  | .error .isADirectory => .ok true
  | .error error => if error.isAbsence then .ok false else .error error

/-- Gives the file at a path a content; its directory has to be there. -/
def write (tree : Tree) (path : Path) (bytes : Bytes) : Except AccessError Tree := do
  let place ← tree.locate path
  if tree.isDirectory place then .error .isADirectory
  else if tree.isDirectory place.dropLast then
    tree.unlessRefused .write place
      { tree with files := (place, bytes) :: tree.files.filter (·.1 != place) }
  else .error (if (tree.fileAt? place.dropLast).isSome then .notADirectory else .missing)

/-- Where names lead to by their text alone; `none` above the top. -/
def resolveFrom : Place → List Text → Option Place
  | place, [] => some place
  | place, part :: parts =>
    if part = Path.up then
      if place.isEmpty then none else resolveFrom place.dropLast parts
    else resolveFrom (place ++ [part]) parts

def resolve (tree : Tree) (path : Path) : Option Place :=
  if !path.absolute then resolveFrom tree.working path.parts
  else if tree.top.isEmpty then resolveFrom [] path.parts
  else none

def textOf (tree : Tree) (place : Place) : Text :=
  tree.top ++ place.flatMap fun part => '/' :: part

end Tree

end DocExamples.Files
