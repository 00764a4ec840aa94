import DocExamples.CommandLine.Execution
import DocExamples.Script.Language

namespace DocExamples.CommandLine

open Text Files Documentation

def Command.paths : Command → List Path
  | list source _ => [.ofText source]
  | run source choice _ _ => .ofText source :: choice.file.toList
  | generate source choice output _ => source :: (choice.file.toList ++ output.toList)

def placesOn (working : Place) (path : Path) : List Place :=
  (List.range (path.parts.length + 1)).filterMap fun count =>
    Tree.resolveFrom (if path.absolute then [] else working) (path.parts.take count)

def consulted (working : Place) (arguments : List Text) : List Place :=
  Settings.candidates working ++
    ((Command.ofArguments? arguments).elim [] Command.paths).flatMap (placesOn working)

def shown (place : Place) : String := String.ofList (place.flatMap fun part => '/' :: part)

def offline : Fetch := fun _ => .error (.failed "there is no network".toList)

/-- Adds what is at a place to a tree. -/
def addPlace (tree : Tree) (place : Place) : IO Tree := do
  let path := (← IO.currentDir) / shown place
  if ← path.isDir then return { tree with directories := place :: tree.directories }
  if ← path.pathExists then
    let bytes ← IO.FS.readBinFile path
    return { tree with files := (place, bytes.toList) :: tree.files }
  return tree

def writeFile (entry : Place × Bytes) : IO Unit :=
  IO.FS.writeBinFile (shown entry.1) (ByteArray.mk entry.2.toArray)

def runIO (arguments : List Text) : IO UInt32 := do
  let working := (Path.ofText (← IO.currentDir).toString.toList).parts
  let mut tree : Tree := { top := [], files := [], directories := [working], working }
  for place in consulted working arguments do
    tree ← addPlace tree place
  let (result, after) := execute tree offline arguments
  (after.files.filter (!tree.files.contains ·)).forM writeFile
  (← IO.getStdout).putStr (String.ofList result.out)
  let complaint := result.crash.elim [] fun crash => crash.message ++ ['\n']
  (← IO.getStderr).putStr (String.ofList (result.err ++ complaint))
  return UInt32.ofNat result.exit

end DocExamples.CommandLine

def main (arguments : List String) : IO UInt32 :=
  DocExamples.CommandLine.runIO (arguments.map String.toList)
