import DocExamples.Documentation.Record
import DocExamples.Text.Number

namespace DocExamples

open Documentation

structure Example where
  name : Text
  code : Text
  record : Text
  deriving DecidableEq, Repr

namespace Example

/-- The name of one of `count` blocks: the base alone, or the base and the block's index. -/
def nameAt (base : Text) (index count : Int) : Text :=
  if count > 1 then base ++ " > ".toList ++ Text.ofInt index else base

def baseName (record : Record) (part : Section) : Text :=
  part.name.getD record.name

def marked (part : Section) : List CodeBlock :=
  part.blocks.filter (·.doctest)

def ofSection (record : Record) (part : Section) : List Example :=
  (marked part).mapIdx fun index block =>
    { name := nameAt (baseName record part) index (marked part).length
      code := block.text
      record := record.name }

def ofRecord (record : Record) : List Example :=
  record.examples.flatMap (ofSection record)

def ofRecords (records : List Record) : List Example :=
  records.flatMap ofRecord

end Example

end DocExamples
