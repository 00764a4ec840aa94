import DocExamples.CommandLine.Execution
import DocExamples.Proofs.Text.Number

namespace DocExamples

open Text

namespace Json

/-- The character with which the control sequences of a terminal start. -/
def escape : Char := '\x1b'

/-- What a layout puts between the parts of a value starts no control sequence. -/
structure Layout.IsPlain (layout : Layout) : Prop where
  comma : escape ∉ layout.comma
  colon : escape ∉ layout.colon
  newLine : ∀ depth, escape ∉ layout.newLine depth

theorem escape_not_mem_hexDigits (width n : Nat) : escape ∉ hexDigits width n := by
  intro mem
  have digit := List.all_eq_true.mp (all_hexDigits width n) escape mem
  exact absurd digit (by decide)

theorem escape_not_mem_ofNat (n : Nat) : escape ∉ ofNat n := by
  intro mem
  exact absurd (isDigit_of_mem_ofNat mem) (by decide)

theorem escape_not_mem_ofInt (n : Int) : escape ∉ ofInt n := by
  cases n with
  | ofNat n => exact escape_not_mem_ofNat n
  | negSucc n =>
    rw [ofInt, List.mem_cons, not_or]
    exact ⟨by decide, escape_not_mem_ofNat (n + 1)⟩

theorem escape_not_mem_escapeChar (isAscii : Bool) (c : Char) : escape ∉ escapeChar isAscii c := by
  have unit (n : Nat) : escape ∉ '\\' :: 'u' :: hexDigits 4 n := by
    rw [List.mem_cons, List.mem_cons, not_or, not_or]
    exact ⟨by decide, by decide, escape_not_mem_hexDigits 4 n⟩
  rw [escapeChar]
  iterate 7
    split
    · decide
  split
  · next visible =>
    have above : 0x20 ≤ c.toNat := by simpa using (Bool.and_eq_true_iff.mp visible).1
    intro mem
    rw [← List.mem_singleton.mp mem] at above
    exact absurd above (by decide)
  split
  · exact unit _
  · exact fun mem => (List.mem_append.mp mem).elim (unit _) (unit _)

theorem escape_not_mem_renderString (isAscii : Bool) (t : Text) : escape ∉ renderString isAscii t := by
  rw [renderString]
  simp only [List.mem_append, List.mem_cons, List.mem_flatMap, List.not_mem_nil, or_false, not_or,
    not_exists, not_and]
  exact ⟨⟨by decide, fun c _ => escape_not_mem_escapeChar isAscii c⟩, by decide⟩

variable {layout : Layout}

mutual

theorem escape_not_mem_renderAt (plain : layout.IsPlain) (depth : Nat) :
    ∀ json, escape ∉ renderAt layout depth json
  | .null => by rw [renderAt]; decide
  | .bool true => by rw [renderAt]; decide
  | .bool false => by rw [renderAt]; decide
  | .int n => by
    rw [renderAt]
    exact escape_not_mem_ofInt n
  | .str t => by
    rw [renderAt]
    exact escape_not_mem_renderString layout.isAscii t
  | .arr [] => by rw [renderAt]; decide
  | .arr (item :: items) => by
    have first := escape_not_mem_renderAt plain (depth + 1) item
    have others := escape_not_mem_renderItems plain (depth + 1) items
    have bracket : escape ≠ '[' ∧ escape ≠ ']' := by decide
    simp [renderAt, first, others, plain.newLine, bracket]
  | .obj [] => by rw [renderAt]; decide
  | .obj ((key, value) :: fields) => by
    have first := escape_not_mem_renderAt plain (depth + 1) value
    have others := escape_not_mem_renderFields plain (depth + 1) fields
    have bracket : escape ≠ '\x7b' ∧ escape ≠ '\x7d' := by decide
    simp [renderAt, first, others, plain.newLine, plain.colon, escape_not_mem_renderString, bracket]

theorem escape_not_mem_renderItems (plain : layout.IsPlain) (depth : Nat) :
    ∀ items, escape ∉ renderItems layout depth items
  | [] => by rw [renderItems]; decide
  | item :: items => by
    have first := escape_not_mem_renderAt plain depth item
    have others := escape_not_mem_renderItems plain depth items
    simp [renderItems, first, others, plain.newLine, plain.comma]

theorem escape_not_mem_renderFields (plain : layout.IsPlain) (depth : Nat) :
    ∀ fields, escape ∉ renderFields layout depth fields
  | [] => by rw [renderFields]; decide
  | (key, value) :: fields => by
    have first := escape_not_mem_renderAt plain depth value
    have others := escape_not_mem_renderFields plain depth fields
    simp [renderFields, first, others, plain.newLine, plain.comma, plain.colon,
      escape_not_mem_renderString]

end

/-- What an object has under a name. -/
def field? (name : Text) : Json → Option Json
  | obj fields => fields.lookup name
  | _ => none

/-- The text that a value is. -/
def text? : Json → Option Text
  | str t => some t
  | _ => none

/-- The items that a value has. -/
def items? : Json → Option (List Json)
  | arr items => some items
  | _ => none

/-- The names of the objects that stand in the list under a name. -/
def namesIn? (list : Text) (payload : Json) : Option (List Text) := do
  let items ← (← payload.field? list).items?
  items.mapM fun item => item.field? "name".toList >>= text?

end Json

namespace CommandLine

open Json

theorem withoutControlsFrom_of_not_mem {text : Text} (h : escape ∉ text) (fuel : Nat) :
    withoutControlsFrom fuel text = text := by
  induction fuel generalizing text with
  | zero => rw [withoutControlsFrom]
  | succ fuel ih =>
    cases text with
    | nil => rw [withoutControlsFrom]; simp
    | cons c text =>
      rw [List.mem_cons, not_or] at h
      have plain : afterControl? (c :: text) = none := by
        rw [afterControl?]
        · intro rest same
          exact h.1 (List.cons.inj same).1.symm
      rw [withoutControlsFrom, plain]
      dsimp only
      rw [ih h.2]

end CommandLine

end DocExamples
