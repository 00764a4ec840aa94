import DocExamples.Proofs.Example.Extraction
import DocExamples.Proofs.Text.Number
import Mathlib.Data.List.Nodup

namespace DocExamples

open Text Documentation
open List (Forall₂)

namespace Documentation

/-- A section with the blocks that are run, and no others. -/
def Section.pruned (part : Section) : Section := { part with blocks := Example.marked part }

/-- A record without blocks that are not run, and without the sections that have no other ones. -/
def Record.pruned (record : Record) : Record :=
  { record with examples := (record.examples.map Section.pruned).filter (!·.blocks.isEmpty) }

/-- Records without what is not run: blocks, and sections and records that then hold nothing. -/
def pruned (records : List Record) : List Record :=
  (records.map Record.pruned).filter (!·.examples.isEmpty)

end Documentation

namespace Example

variable {record : Record} {part : Section}

theorem ofSection_pruned (record : Record) (part : Section) : ofSection record part.pruned = ofSection record part := by
  have same : marked part.pruned = marked part := by simp [marked, Section.pruned]
  rw [ofSection, ofSection, same]
  rfl

theorem ofSection_of_isEmpty (none : part.blocks.isEmpty = true) : ofSection record part = [] := by
  rw [ofSection, marked, List.isEmpty_iff.mp none]
  rfl

theorem ofRecord_of_isEmpty (none : record.examples.isEmpty = true) : ofRecord record = [] := by
  rw [ofRecord, List.isEmpty_iff.mp none]
  rfl

/-- What makes nothing may be left out. -/
theorem flatMap_filter_of_nil {α β : Type} {f : α → List β} {kept : α → Bool}
    (none : ∀ a, kept a = false → f a = []) (items : List α) : (items.filter kept).flatMap f = items.flatMap f := by
  induction items with
  | nil => rfl
  | cons a items ih =>
    cases h : kept a with
    | true => rw [List.filter_cons_of_pos h, List.flatMap_cons, List.flatMap_cons, ih]
    | false =>
      rw [List.filter_cons_of_neg (Bool.eq_false_iff.mp h), List.flatMap_cons, none a h, ih]
      rfl

theorem ofRecord_pruned (record : Record) : ofRecord record.pruned = ofRecord record := by
  have others : ∀ part : Section, (!part.blocks.isEmpty) = false → ofSection record part = [] :=
    fun part none => ofSection_of_isEmpty (by simpa using none)
  have each : ofRecord record.pruned =
      ((record.examples.map Section.pruned).filter (!·.blocks.isEmpty)).flatMap (ofSection record) := rfl
  rw [each, flatMap_filter_of_nil others, List.flatMap_map, ofRecord]
  exact List.flatMap_congr fun part _ => ofSection_pruned record part

theorem ofRecords_pruned (records : List Record) : ofRecords (pruned records) = ofRecords records := by
  have others : ∀ record : Record, (!record.examples.isEmpty) = false → ofRecord record = [] :=
    fun record none => ofRecord_of_isEmpty (by simpa using none)
  rw [ofRecords, pruned, flatMap_filter_of_nil others, List.flatMap_map, ofRecords]
  exact List.flatMap_congr fun record _ => ofRecord_pruned record

/-- The sections of records in order, each with its record. -/
def sectionsOf (records : List Record) : List (Record × Section) :=
  records.flatMap fun record => record.examples.map (record, ·)

theorem ofRecords_eq_flatten (records : List Record) :
    ofRecords records = ((sectionsOf records).map fun (record, part) => ofSection record part).flatten := by
  rw [← List.flatMap_def, sectionsOf, List.flatMap_assoc, ofRecords]
  refine List.flatMap_congr fun record _ => ?_
  rw [ofRecord, List.flatMap_map]

/-- The name that a section gives to its examples: its own if it has one, also an empty one. -/
def nameOf (record : Record) (part : Section) : Text :=
  match part.name with
  | some name => name
  | none => record.name

/-- A base with a number after it. -/
def numbered (base : Text) (index : Nat) : Text := base ++ " > ".toList ++ ofNat index

theorem numbered_injective (base : Text) : Function.Injective (numbered base) :=
  fun _ _ same => ofNat_inj (List.append_cancel_left same)

/-- The examples of a section of a record: one for each block that is run, in their order. A single one has the
name of the section, several ones are numbered, and all names differ. -/
structure AreOf (record : Record) (part : Section) (found : List Example) : Prop where
  codes : found.map (·.code) = (marked part).map (·.text)
  records : ∀ e ∈ found, e.record = record.name
  single : (marked part).length = 1 → found.map (·.name) = [nameOf record part]
  several : 1 < (marked part).length →
    found.map (·.name) = (List.range (marked part).length).map (numbered (nameOf record part))
  apart : (found.map (·.name)).Nodup

theorem baseName_eq (record : Record) (part : Section) : baseName record part = nameOf record part := by
  rw [baseName, nameOf]
  cases part.name <;> rfl

theorem names_ofSection (record : Record) (part : Section) : (ofSection record part).map (·.name) =
    (List.range (marked part).length).map fun (index : Nat) =>
      nameAt (nameOf record part) index (marked part).length := by
  rw [← baseName_eq]
  apply List.ext_getElem
  · simp [ofSection]
  · intro index inNames inRange
    simp [ofSection]

theorem names_of_single (single : (marked part).length = 1) :
    (ofSection record part).map (·.name) = [nameOf record part] := by
  rw [names_ofSection, single]
  rfl

theorem names_of_several (several : 1 < (marked part).length) : (ofSection record part).map (·.name) =
    (List.range (marked part).length).map (numbered (nameOf record part)) := by
  rw [names_ofSection]
  refine List.map_congr_left fun index _ => ?_
  have more : ((marked part).length : Int) > 1 := Int.ofNat_lt.mpr several
  rw [nameAt, if_pos more]
  rfl

theorem nodup_names_ofSection (record : Record) (part : Section) :
    ((ofSection record part).map (·.name)).Nodup := by
  rcases Nat.lt_trichotomy (marked part).length 1 with none | single | several
  · rw [names_ofSection, Nat.lt_one_iff.mp none]
    exact List.nodup_nil
  · rw [names_of_single single]
    exact List.nodup_singleton _
  · rw [names_of_several several]
    exact List.nodup_range.map (numbered_injective _)

theorem areOf_ofSection (record : Record) (part : Section) : AreOf record part (ofSection record part) where
  codes := map_code_ofSection record part
  records e mem := by
    obtain ⟨index, inMarked, rfl⟩ := List.mem_mapIdx.mp mem
    rfl
  single := names_of_single
  several := names_of_several
  apart := nodup_names_ofSection record part

/-- Records give their examples one after another, and what is not run may be left out of them. The codes are the
texts of the blocks that are run, and the names tell the examples of each section apart. -/
theorem ofRecords_composes (records records' : List Record) :
    ofRecords (records ++ records') = ofRecords records ++ ofRecords records' ∧
    ofRecords (pruned records) = ofRecords records ∧
    (ofRecords records).map (·.code) = (records.flatMap markedBlocks).map (·.text) ∧
    ∃ groups : List (List Example), ofRecords records = groups.flatten ∧
      Forall₂ (fun place found => AreOf place.1 place.2 found) (sectionsOf records) groups := by
  refine ⟨List.flatMap_append, ofRecords_pruned records, ?_, _, ofRecords_eq_flatten records, ?_⟩
  · rw [ofRecords, List.map_flatMap, List.map_flatMap]
    exact List.flatMap_congr fun record _ => map_code_ofRecord record
  · rw [List.forall₂_map_right_iff, List.forall₂_same]
    exact fun place _ => areOf_ofSection place.1 place.2

/-- A block that is not run takes no number, and an empty name is a name. -/
example : (ofSection ⟨"r".toList, []⟩
    ⟨some [], [⟨"a".toList, true⟩, ⟨"b".toList, false⟩, ⟨"c".toList, true⟩]⟩).map (·.name) =
      [" > 0".toList, " > 1".toList] := by
  decide

end Example

end DocExamples
