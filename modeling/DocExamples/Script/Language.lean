import DocExamples.Script.Run
import DocExamples.Script.Warning

namespace DocExamples.Script

instance language : Language where
  Program := Program
  Space := Space
  fresh := .fresh
  read := Program.ofText
  warn := warn
  run _ program := program.run
  waits := anyWaits

instance : DecidableEq Language.Space := inferInstanceAs (DecidableEq Space)

end DocExamples.Script
