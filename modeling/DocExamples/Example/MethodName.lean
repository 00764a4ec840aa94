import DocExamples.Text.Class

namespace DocExamples.MethodName

open Text

/-- Spaces and punctuation for which an underscore stands in a sanitized name. -/
def specialChars : Text := " <>*~\x60'\".,_-+&#^@".toList

def sanitize (name : Text) : Text :=
  name.map fun c => if specialChars.contains c then '_' else c

/-- The method name of an example: `test_` and the sanitized name, in which an underscore stands for
each character that is not a word character. -/
def collectable (name : Text) : Text :=
  "test_".toList ++ (sanitize name).map fun c => if isWord c then c else '_'

end DocExamples.MethodName
