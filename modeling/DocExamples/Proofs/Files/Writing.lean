import DocExamples.Files.Tree
import DocExamples.Proofs.Effects
import Mathlib.Data.List.Infix

namespace DocExamples.Files.Tree

open Text

variable {tree after : Tree} {path : Path} {place : Place} {bytes : Bytes}

/-- A tree that is as another one is, but for the content of the file at a place. -/
structure IsPut (tree after : Tree) (place : Place) (bytes : Bytes) : Prop where
  content : after.fileAt? place = some bytes
  others : ∀ other, other ≠ place → after.fileAt? other = tree.fileAt? other
  directories : ∀ other, after.isDirectory other = tree.isDirectory other
  top : after.top = tree.top
  working : after.working = tree.working
  refusals : after.refusal? = tree.refusal?

/-- A path to a place in a directory, at which there is none itself, and which the system lets be written. -/
structure LeadsTo (tree : Tree) (path : Path) (place : Place) : Prop where
  located : tree.locate path = .ok place
  parent : tree.isDirectory place.dropLast = true
  free : tree.isDirectory place = false
  permitted : tree.refusal? .write place = none

theorem isDirectory_iff : tree.isDirectory place = true ↔
    place = [] ∨ (∃ directory ∈ tree.directories, place <+: directory) ∨
      ∃ entry ∈ tree.files, place <+: entry.1 ∧ place.length < entry.1.length := by
  simp only [isDirectory, Bool.or_eq_true, List.isEmpty_iff, List.any_eq_true, Bool.and_eq_true,
    decide_eq_true_eq, List.isPrefixOf_iff_prefix, or_assoc]

/-- What leads to a directory is one. -/
theorem isDirectory_of_prefix {outer : Place} (h : outer <+: place) (inner : tree.isDirectory place = true) :
    tree.isDirectory outer = true := by
  rw [isDirectory_iff] at inner ⊢
  rcases inner with rfl | ⟨directory, mem, leads⟩ | ⟨entry, mem, leads, shorter⟩
  · exact .inl (List.prefix_nil.mp h)
  · exact .inr (.inl ⟨directory, mem, h.trans leads⟩)
  · exact .inr (.inr ⟨entry, mem, h.trans leads, h.length_le.trans_lt shorter⟩)

/-- Gives the file at a place a content. -/
def put (tree : Tree) (place : Place) (bytes : Bytes) : Tree :=
  { tree with files := (place, bytes) :: tree.files.filter (·.1 != place) }

theorem lookup_filter_of_ne {entries : List (Place × Bytes)} {other : Place} (h : other ≠ place) :
    (entries.filter (·.1 != place)).lookup other = entries.lookup other := by
  induction entries with
  | nil => rfl
  | cons entry entries ih =>
    obtain ⟨here, bytes⟩ := entry
    rw [List.filter_cons]
    split
    · rw [List.lookup_cons, List.lookup_cons, ih]
    · next kept =>
      have same : here = place := by simpa using kept
      rw [ih, List.lookup_cons, same, beq_eq_false_iff_ne.mpr h]

theorem isPut_put (parent : tree.isDirectory place.dropLast = true) : IsPut tree (tree.put place bytes) place bytes where
  content := by simp [put, fileAt?]
  others other h := by
    rw [fileAt?, put, List.lookup_cons, beq_eq_false_iff_ne.mpr h]
    exact lookup_filter_of_ne h
  directories other := by
    rw [Bool.eq_iff_iff]
    constructor
    · intro inside
      rcases isDirectory_iff.mp inside with rfl | named | ⟨entry, mem, leads, shorter⟩
      · exact isDirectory_iff.mpr (.inl rfl)
      · exact isDirectory_iff.mpr (.inr (.inl named))
      · rcases List.mem_cons.mp mem with rfl | mem
        · refine isDirectory_of_prefix ?_ parent
          refine List.prefix_of_prefix_length_le leads (List.dropLast_prefix place) ?_
          rw [List.length_dropLast]
          dsimp only at shorter
          omega
        · exact isDirectory_iff.mpr (.inr (.inr ⟨entry, (List.mem_filter.mp mem).1, leads, shorter⟩))
    · intro inside
      rcases isDirectory_iff.mp inside with rfl | named | ⟨entry, mem, leads, shorter⟩
      · exact isDirectory_iff.mpr (.inl rfl)
      · exact isDirectory_iff.mpr (.inr (.inl named))
      · by_cases same : entry.1 = place
        · rw [same] at leads shorter
          exact isDirectory_iff.mpr (.inr (.inr ⟨(place, bytes), List.mem_cons_self, leads, shorter⟩))
        · have kept : entry ∈ tree.files.filter (·.1 != place) :=
            List.mem_filter.mpr ⟨mem, by simpa using same⟩
          exact isDirectory_iff.mpr (.inr (.inr ⟨entry, List.mem_cons_of_mem _ kept, leads, shorter⟩))
  top := rfl
  working := rfl
  refusals := rfl

theorem unlessRefused_eq_ok_iff {α : Type} {access : Access} {value found : α} :
    tree.unlessRefused access place value = .ok found ↔ tree.refusal? access place = none ∧ found = value := by
  unfold unlessRefused
  cases tree.refusal? access place <;> simp [eq_comm]

theorem write_eq_ok_iff : tree.write path bytes = .ok after ↔
    ∃ place, tree.LeadsTo path place ∧ after = tree.put place bytes := by
  rw [write]
  constructor
  · intro h
    obtain ⟨place, located, h⟩ := Effects.exists_of_bind_eq_ok h
    split at h
    · cases h
    · next free =>
      split at h
      · next parent =>
        obtain ⟨permitted, rfl⟩ := unlessRefused_eq_ok_iff.mp h
        exact ⟨place, ⟨located, parent, Bool.eq_false_iff.mpr free, permitted⟩, rfl⟩
      · cases h
  · rintro ⟨place, leads, rfl⟩
    simp [leads.located, leads.free, leads.parent, bind, Except.bind, unlessRefused_eq_ok_iff, leads.permitted,
      put]

/-- Only files are at places that are no directories. -/
theorem LeadsTo.hasEntry (h : tree.LeadsTo path place) :
    tree.hasEntry path = .ok (tree.fileAt? place).isSome := by
  rw [Tree.hasEntry, h.located]
  simp [h.free]

end DocExamples.Files.Tree
