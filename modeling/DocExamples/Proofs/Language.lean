import DocExamples.Language
import DocExamples.Proofs.Effects

namespace DocExamples

open Text

variable [Language]

/-- A source that is read as a program. -/
def Language.Accepts (source : Text) : Prop := ∃ program, read source = .ok program

theorem compile_of_not_mem {file source : Text} (inFile : '\x00' ∉ file) (inSource : '\x00' ∉ source) :
    compile file source = (Language.read source).mapError .fault := by
  simp [compile, inFile, inSource]

theorem compile_eq_ok_iff {file source : Text} {program : Language.Program} :
    compile file source = .ok program ↔
      '\x00' ∉ file ∧ '\x00' ∉ source ∧ Language.read source = .ok program := by
  by_cases inFile : '\x00' ∈ file
  · simp [compile, inFile]
  by_cases inSource : '\x00' ∈ source
  · simp [compile, inFile, inSource]
  rw [compile_of_not_mem inFile inSource]
  constructor
  · intro compiled
    exact ⟨inFile, inSource, Effects.eq_ok_of_mapError compiled⟩
  · rintro ⟨_, _, read⟩
    rw [read]
    rfl

end DocExamples
