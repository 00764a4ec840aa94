import DocExamples.Proofs.Relations
import Mathlib.Data.List.Basic

namespace DocExamples

open List (Forall₂)

variable {κ ι α β : Type}

/-- Values, one for each key at which one stands, in the order of the keys. -/
def Enumerates (before : κ → κ → Prop) (stands : κ → α → Prop) (found : List α) : Prop :=
  ∃ keys : List κ, keys.Pairwise before ∧ Forall₂ stands keys found ∧
    ∀ key value, stands key value → key ∈ keys

namespace Enumerates

variable {before : κ → κ → Prop} {stands stands' : κ → α → Prop} {found found' : List α}

theorem congr (h : Enumerates before stands found)
    (same : ∀ key value, stands' key value ↔ stands key value) : Enumerates before stands' found := by
  have equal : stands' = stands := by
    funext key value
    exact propext (same key value)
  rwa [equal]

theorem nil (none : ∀ key value, ¬ stands key value) : Enumerates before stands [] :=
  ⟨[], .nil, .nil, fun key value stood => absurd stood (none key value)⟩

theorem singleton (key : κ) (value : α) :
    Enumerates before (fun key' value' => key' = key ∧ value' = value) [value] := by
  refine ⟨[key], List.pairwise_singleton before key, .cons ⟨rfl, rfl⟩ .nil, ?_⟩
  rintro _ _ ⟨rfl, rfl⟩
  exact List.mem_singleton_self _

theorem exists_mem_of_mem {keys : List κ} (placed : Forall₂ stands keys found) {key : κ} (mem : key ∈ keys) :
    ∃ value ∈ found, stands key value := by
  induction placed with
  | nil => cases mem
  | cons stood _ ih =>
    rcases List.mem_cons.mp mem with rfl | mem
    · exact ⟨_, List.mem_cons_self, stood⟩
    · obtain ⟨value, inFound, stood⟩ := ih mem
      exact ⟨value, List.mem_cons_of_mem _ inFound, stood⟩

/-- Values that stand before others, followed by these. -/
theorem append (h : Enumerates before stands found) (h' : Enumerates before stands' found')
    (apart : ∀ first second value value', stands first value → stands' second value' →
      before first second) :
    Enumerates before (fun key value => stands key value ∨ stands' key value) (found ++ found') := by
  obtain ⟨keys, sorted, placed, complete⟩ := h
  obtain ⟨keys', sorted', placed', complete'⟩ := h'
  refine ⟨keys ++ keys', ?_, ?_, ?_⟩
  · rw [List.pairwise_append]
    refine ⟨sorted, sorted', ?_⟩
    intro first memFirst second memSecond
    obtain ⟨value, -, stood⟩ := exists_mem_of_mem placed memFirst
    obtain ⟨value', -, stood'⟩ := exists_mem_of_mem placed' memSecond
    exact apart first second value value' stood stood'
  · exact List.rel_append (placed.imp fun _ _ => .inl) (placed'.imp fun _ _ => .inr)
  · rintro key value (stood | stood)
    · exact List.mem_append_left keys' (complete key value stood)
    · exact List.mem_append_right keys (complete' key value stood)

/-- The items of a list stand at their indices. -/
theorem getElem? (items : List α) :
    Enumerates (· < ·) (fun (index : Nat) item => items[index]? = some item) items := by
  refine ⟨List.range items.length, List.pairwise_lt_range, ?_, ?_⟩
  · rw [List.forall₂_iff_get]
    exact ⟨List.length_range, fun index _ _ => by simp⟩
  · intro index item stood
    exact List.mem_range.mpr (List.getElem?_eq_some_iff.mp stood).1

/-- Values that are made of others stand where these do. -/
theorem of_forall₂ (h : Enumerates before stands found) {made : List β} {r : α → β → Prop}
    (each : Forall₂ r found made) {holds : κ → β → Prop}
    (here : ∀ key value value', stands key value → r value value' → holds key value')
    (there : ∀ key value', holds key value' → ∃ value, stands key value) :
    Enumerates before holds made := by
  obtain ⟨keys, sorted, placed, complete⟩ := h
  refine ⟨keys, sorted, ?_, ?_⟩
  · clear sorted complete there
    induction placed generalizing made with
    | nil =>
      cases each
      exact .nil
    | cons stood _ ih =>
      cases each with
      | cons related others => exact .cons (here _ _ _ stood related) (ih others)
  · intro key value' stood
    obtain ⟨value, stood⟩ := there key value' stood
    exact complete key value stood

/-- Values of which more, or less, is said at the same keys. -/
theorem of_imp (h : Enumerates before stands found)
    (here : ∀ key value, stands key value → stands' key value)
    (there : ∀ key value, stands' key value → ∃ other, stands key other) :
    Enumerates before stands' found := by
  obtain ⟨keys, sorted, placed, complete⟩ := h
  refine ⟨keys, sorted, placed.imp here, ?_⟩
  intro key value stood
  obtain ⟨other, stood⟩ := there key value stood
  exact complete key other stood

/-- The values of which something is read, in its place. -/
theorem filterMap (h : Enumerates before stands found)
    (unique : ∀ key value value', stands key value → stands key value' → value' = value)
    (f : α → Option β) :
    Enumerates before (fun key read => ∃ value, stands key value ∧ f value = some read)
      (found.filterMap f) := by
  obtain ⟨keys, sorted, placed, complete⟩ := h
  have part : ∃ keys' : List κ, keys'.Sublist keys ∧
      Forall₂ (fun key read => ∃ value, stands key value ∧ f value = some read) keys'
        (found.filterMap f) ∧
      ∀ key ∈ keys, ∀ value read, stands key value → f value = some read → key ∈ keys' := by
    clear sorted complete
    induction placed with
    | nil => exact ⟨[], .slnil, .nil, by simp⟩
    | @cons key value keys found stood _ ih =>
      obtain ⟨keys', sub, placed', complete'⟩ := ih
      cases made : f value with
      | none =>
        refine ⟨keys', sub.cons key, by rwa [List.filterMap_cons_none made], ?_⟩
        intro other mem value' read stood' made'
        rcases List.mem_cons.mp mem with rfl | mem
        · rw [unique other value value' stood stood', made] at made'
          cases made'
        · exact complete' other mem value' read stood' made'
      | some read =>
        refine ⟨key :: keys', sub.cons_cons key, ?_, ?_⟩
        · rw [List.filterMap_cons_some made]
          exact .cons ⟨value, stood, made⟩ placed'
        · intro other mem value' read' stood' made'
          rcases List.mem_cons.mp mem with rfl | mem
          · exact List.mem_cons_self
          · exact List.mem_cons_of_mem key (complete' other mem value' read' stood' made')
  obtain ⟨keys', sub, placed', complete'⟩ := part
  refine ⟨keys', sorted.sublist sub, placed', ?_⟩
  rintro key read ⟨value, stood, made⟩
  exact complete' key (complete key value stood) value read stood made

/-- Lists that are made of the values, one after another: a key and one within its value stand before
others by the first of them in which they differ. -/
theorem flatMap (h : Enumerates before stands found)
    (unique : ∀ key value value', stands key value → stands key value' → value' = value)
    {before' : ι → ι → Prop} {within : α → ι → β → Prop} {f : α → List β}
    (inner : ∀ value, Enumerates before' (within value) (f value)) :
    Enumerates (Prod.Lex before before')
      (fun key made => ∃ value, stands key.1 value ∧ within value key.2 made) (found.flatMap f) := by
  obtain ⟨keys, sorted, placed, complete⟩ := h
  have all : ∃ keys' : List (κ × ι), keys'.Pairwise (Prod.Lex before before') ∧
      Forall₂ (fun key made => ∃ value, stands key.1 value ∧ within value key.2 made) keys'
        (found.flatMap f) ∧
      (∀ key ∈ keys', key.1 ∈ keys) ∧
      ∀ key value made, key.1 ∈ keys → stands key.1 value → within value key.2 made → key ∈ keys' := by
    clear complete
    induction placed with
    | nil => exact ⟨[], .nil, .nil, by simp, by simp⟩
    | @cons key value keys found stood _ ih =>
      rw [List.pairwise_cons] at sorted
      obtain ⟨keys', sorted', placed', outer', complete'⟩ := ih sorted.2
      obtain ⟨keysIn, sortedIn, placedIn, completeIn⟩ := inner value
      refine ⟨keysIn.map (Prod.mk key) ++ keys', ?_, ?_, ?_, ?_⟩
      · rw [List.pairwise_append]
        refine ⟨?_, sorted', ?_⟩
        · exact List.pairwise_map.mpr (sortedIn.imp fun earlier => .right key earlier)
        · intro first memFirst second memSecond
          obtain ⟨way, -, rfl⟩ := List.mem_map.mp memFirst
          exact .left _ _ (sorted.1 second.1 (outer' second memSecond))
      · rw [List.flatMap_cons]
        refine List.rel_append ?_ placed'
        exact List.forall₂_map_left_iff.mpr (placedIn.imp fun way made stands => ⟨value, stood, stands⟩)
      · intro pair mem
        rcases List.mem_append.mp mem with mem | mem
        · obtain ⟨way, -, rfl⟩ := List.mem_map.mp mem
          exact List.mem_cons_self
        · exact List.mem_cons_of_mem key (outer' pair mem)
      · rintro ⟨other, way⟩ value' made mem stood' stands
        rcases List.mem_cons.mp mem with rfl | mem
        · rw [unique other value value' stood stood'] at stands
          exact List.mem_append_left keys' (List.mem_map_of_mem (completeIn way made stands))
        · exact List.mem_append_right _ (complete' (other, way) value' made mem stood' stands)
  obtain ⟨keys', sorted', placed', -, complete'⟩ := all
  refine ⟨keys', sorted', placed', ?_⟩
  rintro key made ⟨value, stood, stands⟩
  exact complete' key value made (complete key.1 value stood) stood stands

/-- Other keys at which the same values stand, if they keep the order. -/
theorem rekey (h : Enumerates before stands found) (f : κ → ι) {before' : ι → ι → Prop}
    (mono : ∀ first second value value', stands first value → stands second value' →
      before first second → before' (f first) (f second)) :
    Enumerates before' (fun key' value => ∃ key, f key = key' ∧ stands key value) found := by
  obtain ⟨keys, sorted, placed, complete⟩ := h
  refine ⟨keys.map f, ?_, ?_, ?_⟩
  · rw [List.pairwise_map]
    refine sorted.imp_of_mem ?_
    intro first second memFirst memSecond earlier
    obtain ⟨value, -, stood⟩ := exists_mem_of_mem placed memFirst
    obtain ⟨value', -, stood'⟩ := exists_mem_of_mem placed memSecond
    exact mono first second value value' stood stood' earlier
  · exact List.forall₂_map_left_iff.mpr (placed.imp fun key value stood => ⟨key, rfl, stood⟩)
  · rintro _ value ⟨key, rfl, stood⟩
    exact List.mem_map_of_mem (complete key value stood)

end Enumerates

end DocExamples
