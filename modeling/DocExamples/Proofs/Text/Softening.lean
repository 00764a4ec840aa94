import DocExamples.Proofs.Relations
import DocExamples.Text.Class
import DocExamples.Text.Lines
import Mathlib.Data.List.TakeWhile

namespace DocExamples.Text

open Relations

theorem drop_length_takeWhile (p : Char → Bool) (t : Text) :
    t.drop (t.takeWhile p).length = t.dropWhile p :=
  (congrArg (List.drop _) List.takeWhile_append_dropWhile.symm).trans List.drop_left

/-- The second text is the first one with a LF in the place of some CRLF and, where lone ones count, of
some lone CR. -/
inductive Softens (lone : Prop) : Text → Text → Prop
  | nil : Softens lone [] []
  | same (c : Char) {t s : Text} (h : Softens lone t s) : Softens lone (c :: t) (c :: s)
  | pair {t s : Text} (h : Softens lone t s) : Softens lone ('\r' :: '\n' :: t) ('\n' :: s)
  | single (hl : lone) {t s : Text} (h : Softens lone t s) : Softens lone ('\r' :: t) ('\n' :: s)

/-- Whether every CR of a text stands before a LF. -/
def isPaired : Text → Bool
  | [] => true
  | '\r' :: '\n' :: t => isPaired t
  | c :: t => c != '\r' && isPaired t

/-- A class that does not tell the characters of line ends apart. -/
def TakesLineEnds (p : Char → Bool) : Prop := p '\r' = p '\n'

/-- A character that belongs to no line end. -/
def isInner (c : Char) : Bool := c != '\r' && c != '\n'

theorem inner_iff {c : Char} : isInner c = true ↔ '\r' ≠ c ∧ '\n' ≠ c := by
  rw [isInner, Bool.and_eq_true, bne_iff_ne, bne_iff_ne, ne_comm, ne_comm (a := c)]

/-- The same character, or a CR and a LF. -/
def SoftChar (c d : Char) : Prop := c = d ∨ (c = '\r' ∧ d = '\n')

theorem SoftChar.eq {c d : Char} (h : SoftChar c d) {p : Char → Bool} (hp : TakesLineEnds p) : p c = p d := by
  obtain rfl | ⟨rfl, rfl⟩ := h
  · rfl
  · exact hp

instance (p : Char → Bool) : Decidable (TakesLineEnds p) := inferInstanceAs (Decidable (p '\r' = p '\n'))

namespace Softens

variable {lone : Prop} {t s t' s' : Text}

theorem refl (lone : Prop) (t : Text) : Softens lone t t := by
  induction t with
  | nil => exact .nil
  | cons c t ih => exact .same c ih

theorem append (h : Softens lone t s) (h' : Softens lone t' s') : Softens lone (t ++ t') (s ++ s') := by
  induction h with
  | nil => exact h'
  | same c _ ih => exact .same c ih
  | pair _ ih => exact .pair ih
  | single hl _ ih => exact .single hl ih

theorem length_le (h : Softens lone t s) : s.length ≤ t.length := by
  induction h with
  | nil => exact le_rfl
  | same c _ ih => simpa using ih
  | pair _ ih =>
    simp only [List.length_cons]
    omega
  | single _ _ ih => simpa using ih

theorem eq_nil_iff (h : Softens lone t s) : t = [] ↔ s = [] := by
  cases h <;> simp

theorem isEmpty (h : Softens lone t s) : t.isEmpty = s.isEmpty := by
  cases h <;> rfl

theorem mem_iff (h : Softens lone t s) {c : Char} (hc : isInner c = true) : c ∈ t ↔ c ∈ s := by
  obtain ⟨carriage, newline⟩ := inner_iff.mp hc
  induction h with
  | nil => rfl
  | same d _ ih => simp [ih]
  | pair _ ih => simp [ih, carriage.symm, newline.symm]
  | single _ _ ih => simp [ih, carriage.symm, newline.symm]

theorem contains (h : Softens lone t s) {c : Char} (hc : isInner c = true) :
    t.contains c = s.contains c := by
  rw [Bool.eq_iff_iff, List.contains_iff_mem, List.contains_iff_mem, h.mem_iff hc]

theorem all_eq (h : Softens lone t s) {p : Char → Bool} (hp : p '\r' = true ∧ p '\n' = true) :
    t.all p = s.all p := by
  induction h with
  | nil => rfl
  | same c _ ih => rw [List.all_cons, List.all_cons, ih]
  | pair _ ih => rw [List.all_cons, List.all_cons, List.all_cons, hp.1, hp.2, ih, Bool.true_and]
  | single _ _ ih => rw [List.all_cons, List.all_cons, hp.1, hp.2, ih]

theorem newline_mem_iff (h : Softens lone t s) (hl : ¬ lone) : '\n' ∈ t ↔ '\n' ∈ s := by
  induction h with
  | nil => rfl
  | same c _ ih => rw [List.mem_cons, List.mem_cons, ih]
  | pair => simp
  | single hl' => exact absurd hl' hl

theorem takeWhile (h : Softens lone t s) {p : Char → Bool} (hp : TakesLineEnds p) :
    Softens lone (t.takeWhile p) (s.takeWhile p) := by
  unfold TakesLineEnds at hp
  induction h with
  | nil => exact .nil
  | same c _ ih =>
    rw [List.takeWhile_cons, List.takeWhile_cons]
    split
    · exact .same c ih
    · exact .nil
  | pair _ ih =>
    rw [List.takeWhile_cons, List.takeWhile_cons, List.takeWhile_cons, hp]
    split
    · exact .pair ih
    · exact .nil
  | single hl _ ih =>
    rw [List.takeWhile_cons, List.takeWhile_cons, hp]
    split
    · exact .single hl ih
    · exact .nil

theorem dropWhile (h : Softens lone t s) {p : Char → Bool} (hp : TakesLineEnds p) :
    Softens lone (t.dropWhile p) (s.dropWhile p) := by
  unfold TakesLineEnds at hp
  induction h with
  | nil => exact .nil
  | same c h ih =>
    rw [List.dropWhile_cons, List.dropWhile_cons]
    split
    · exact ih
    · exact .same c h
  | pair h ih =>
    rw [List.dropWhile_cons, List.dropWhile_cons, List.dropWhile_cons, hp]
    split
    · exact ih
    · exact .pair h
  | single hl h ih =>
    rw [List.dropWhile_cons, List.dropWhile_cons, hp]
    split
    · exact ih
    · exact .single hl h

/-- A run of characters that belong to no line end is the same in both texts. -/
theorem takeWhile_eq (h : Softens lone t s) {p : Char → Bool} (hr : p '\r' = false) (hn : p '\n' = false) :
    t.takeWhile p = s.takeWhile p := by
  induction h with
  | nil => rfl
  | same c _ ih => rw [List.takeWhile_cons, List.takeWhile_cons, ih]
  | pair => simp [hr, hn]
  | single => simp [hr, hn]

theorem head?_any (h : Softens lone t s) {p : Char → Bool} (hp : TakesLineEnds p) :
    t.head?.any p = s.head?.any p := by
  cases h with
  | nil => rfl
  | same => rfl
  | pair => exact hp
  | single => exact hp

theorem head?_eq_iff (h : Softens lone t s) {c : Char} (hc : isInner c = true) :
    t.head? = some c ↔ s.head? = some c := by
  obtain ⟨carriage, newline⟩ := inner_iff.mp hc
  cases h with
  | nil => rfl
  | same => rfl
  | pair => simp [carriage, newline]
  | single => simp [carriage, newline]

theorem getLast? (h : Softens lone t s) : Option.Rel SoftChar t.getLast? s.getLast? := by
  induction h with
  | nil => exact .none
  | same c _ ih =>
    rw [List.getLast?_cons, List.getLast?_cons]
    exact .some (rel_getD ih (.inl rfl))
  | pair _ ih =>
    rw [List.getLast?_cons, List.getLast?_cons, List.getLast?_cons]
    exact .some (rel_getD ih (.inl rfl))
  | single _ _ ih =>
    rw [List.getLast?_cons, List.getLast?_cons]
    exact .some (rel_getD ih (.inr ⟨rfl, rfl⟩))

theorem getLast?_eq_iff (h : Softens lone t s) {c : Char} (hc : isInner c = true) :
    t.getLast? = some c ↔ s.getLast? = some c := by
  obtain ⟨carriage, newline⟩ := inner_iff.mp hc
  have last := h.getLast?
  generalize t.getLast? = a at last ⊢
  generalize s.getLast? = b at last ⊢
  cases last with
  | none => rfl
  | some same =>
    obtain rfl | ⟨rfl, rfl⟩ := same
    · rfl
    · simp [carriage, newline]

/-- A word of characters that belong to no line end stands at the start of both texts or of none. -/
theorem after? (h : Softens lone t s) {word : Text} (hw : word.all isInner = true) :
    Option.Rel (Softens lone) (after? word t) (after? word s) := by
  induction word generalizing t s with
  | nil => simpa [Text.after?] using Option.Rel.some h
  | cons w word ih =>
    rw [List.all_cons, Bool.and_eq_true] at hw
    obtain ⟨carriage, newline⟩ := inner_iff.mp hw.1
    cases h with
    | nil => exact .none
    | same c h =>
      rw [Text.after?, Text.after?]
      split
      · exact ih h hw.2
      · exact .none
    | pair h =>
      rw [Text.after?, Text.after?, if_neg carriage.symm, if_neg newline.symm]
      exact .none
    | single hl h =>
      rw [Text.after?, Text.after?, if_neg carriage.symm, if_neg newline.symm]
      exact .none

/-- A text behind a word without line ends is behind it in both texts. -/
theorem of_append {word : Text} (h : Softens lone (word ++ t) s) (hw : word.all isInner = true) :
    ∃ left, s = word ++ left ∧ Softens lone t left := by
  have found := h.after? hw
  rw [after?_append] at found
  generalize hs : Text.after? word s = rest at found
  cases found with
  | some h => exact ⟨_, after?_eq_some_iff.mp hs, h⟩

theorem drop_of_prefix (h : Softens lone t s) {word : Text} (hp : word <+: t) (hw : word.all isInner = true) :
    Softens lone (t.drop word.length) (s.drop word.length) := by
  obtain ⟨after, rfl⟩ := hp
  obtain ⟨after', rfl, left⟩ := h.of_append hw
  rwa [List.drop_left, List.drop_left]

/-- A word stands at the start of both texts or of none, also where characters are folded. -/
theorem startsFolded (h : Softens lone t s) (f : Char → Char) {word : Text} (hr : f '\r' ∉ word)
    (hn : f '\n' ∉ word) :
    ((t.take word.length).map f = word ↔ (s.take word.length).map f = word) ∧
      ((t.take word.length).map f = word → Softens lone (t.drop word.length) (s.drop word.length)) := by
  induction word generalizing t s with
  | nil => exact ⟨.rfl, fun _ => h⟩
  | cons w word ih =>
    simp only [List.mem_cons, not_or] at hr hn
    cases h with
    | nil => simp
    | pair => simp [hr.1, hn.1]
    | single => simp [hr.1, hn.1]
    | same c h =>
      obtain ⟨starts, left⟩ := ih h hr.2 hn.2
      simp only [List.length_cons, List.take_succ_cons, List.map_cons, List.cons.injEq, starts,
        List.drop_succ_cons, true_and]
      exact fun start => left (starts.mpr start.2)

/-- Parts of a text before and after a place, in both texts. -/
def Parts (lone : Prop) (first second : Text × Text) : Prop :=
  Softens lone first.1 second.1 ∧ Softens lone first.2 second.2

theorem cutAt? (h : Softens lone t s) {mark : Char} (hm : isInner mark = true) :
    Option.Rel (Parts lone) (cutAt? mark t) (cutAt? mark s) := by
  obtain ⟨carriage, newline⟩ := inner_iff.mp hm
  induction h with
  | nil => exact .none
  | same c h ih =>
    rw [Text.cutAt?, Text.cutAt?]
    split
    · exact .some ⟨.nil, h⟩
    · exact rel_map ih fun _ _ parts => ⟨.same c parts.1, parts.2⟩
  | pair _ ih =>
    rw [Text.cutAt?, if_neg carriage, Text.cutAt?, if_neg newline, Text.cutAt?, if_neg newline,
      Option.map_map]
    exact rel_map ih fun _ _ parts => ⟨.pair parts.1, parts.2⟩
  | single hl _ ih =>
    rw [Text.cutAt?, if_neg carriage, Text.cutAt?, if_neg newline]
    exact rel_map ih fun _ _ parts => ⟨.single hl parts.1, parts.2⟩

theorem eq_of_not_mem (h : Softens lone t s) (hr : '\r' ∉ t) : t = s := by
  induction h with
  | nil => rfl
  | same c _ ih => rw [ih fun inside => hr (List.mem_cons_of_mem c inside)]
  | pair => simp at hr
  | single => simp at hr

theorem mem_of_mem (h : Softens lone t s) (hr : '\r' ∈ t) : '\r' ∈ s ∨ '\n' ∈ s := by
  induction h with
  | nil => exact absurd hr (by simp)
  | same c _ ih =>
    rcases List.mem_cons.mp hr with rfl | inside
    · exact .inl List.mem_cons_self
    · exact (ih inside).imp (List.mem_cons_of_mem c) (List.mem_cons_of_mem c)
  | pair => exact .inr List.mem_cons_self
  | single => exact .inr List.mem_cons_self

end Softens

theorem softens_unifyNewlines (t : Text) : Softens True t (unifyNewlines t) := by
  fun_induction unifyNewlines t with
  | case1 => exact .nil
  | case2 t ih => exact .pair ih
  | case3 c t _ ih =>
    by_cases hc : c = '\r'
    · subst hc
      exact .single trivial ih
    · rw [if_neg hc]
      exact .same c ih

/-- Texts in which every CR stands before a LF are made of such pairs and of other characters. -/
theorem paired_induction {motive : (t : Text) → isPaired t = true → Prop} (nil : motive [] rfl)
    (pair : ∀ t (h : isPaired t = true), motive t h → motive ('\r' :: '\n' :: t) h)
    (other : ∀ c t, c ≠ '\r' → ∀ (h : isPaired t = true) (whole : isPaired (c :: t) = true),
      motive t h → motive (c :: t) whole) (t : Text) (h : isPaired t = true) : motive t h := by
  fun_induction isPaired t with
  | case1 => exact nil
  | case2 t ih => exact pair t h (ih h)
  | case3 c t _ ih =>
    have parts := h
    rw [isPaired, Bool.and_eq_true, bne_iff_ne] at parts
    · exact other c t parts.1 parts.2 h (ih parts.2)
    · assumption

theorem unifyNewlines_cons_of_ne {c : Char} (h : c ≠ '\r') (t : Text) :
    unifyNewlines (c :: t) = c :: unifyNewlines t := by
  rw [unifyNewlines, if_neg h]
  exact fun _ carriage => absurd carriage h

theorem softens_of_isPaired {t : Text} (h : isPaired t = true) : Softens False t (unifyNewlines t) := by
  induction t, h using paired_induction with
  | nil => exact .nil
  | pair _ _ ih => exact .pair ih
  | other c t hc _ _ ih =>
    rw [unifyNewlines_cons_of_ne hc]
    exact .same c ih

/-- A text without CR that softens another one is that text with unified line ends. -/
theorem Softens.eq_unifyNewlines {t s : Text} (h : Softens False t s) (hr : '\r' ∉ s) :
    isPaired t = true ∧ s = unifyNewlines t := by
  induction h with
  | nil => exact ⟨rfl, rfl⟩
  | @same c t s _ ih =>
    obtain ⟨paired, rfl⟩ := ih fun inside => hr (List.mem_cons_of_mem c inside)
    have other : c ≠ '\r' := by
      rintro rfl
      exact hr List.mem_cons_self
    constructor
    · rw [isPaired, paired]
      · simpa using other
      · rintro _ rfl
        exact absurd rfl other
    · rw [unifyNewlines_cons_of_ne other]
  | @pair t s _ ih =>
    obtain ⟨paired, rfl⟩ := ih fun inside => hr (List.mem_cons_of_mem '\n' inside)
    exact ⟨paired, rfl⟩
  | single hl => exact hl.elim

end DocExamples.Text
