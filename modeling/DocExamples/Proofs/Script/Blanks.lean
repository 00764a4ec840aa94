import DocExamples.Script.Token
import Mathlib.Data.List.TakeWhile

namespace DocExamples.Script.Lexing

open Text

/-- The characters of white space. -/
def blanks : List Char :=
  [' ', '\t', '\n', '\x0b', '\x0c', '\r', '\x1c', '\x1d', '\x1e', '\x1f', '\u0085', '\u00a0',
    '\u1680', '\u2000', '\u2001', '\u2002', '\u2003', '\u2004', '\u2005', '\u2006', '\u2007', '\u2008',
    '\u2009', '\u200a', '\u2028', '\u2029', '\u202f', '\u205f', '\u3000']

theorem mem_blanks {c : Char} (h : isBlank c = true) : c ∈ blanks := by
  have points : c.toNat ∈ blanks.map Char.toNat := by
    have : (c == ' ' || (0x09 ≤ c.toNat && c.toNat ≤ 0x0D) || (0x1C ≤ c.toNat && c.toNat ≤ 0x1F) ||
        [0x85, 0xA0, 0x1680, 0x2000, 0x2001, 0x2002, 0x2003, 0x2004, 0x2005, 0x2006, 0x2007, 0x2008,
          0x2009, 0x200A, 0x2028, 0x2029, 0x202F, 0x205F, 0x3000].contains c.toNat) = true := h
    simp only [Bool.or_eq_true, beq_iff_eq, Bool.and_eq_true, decide_eq_true_eq, List.contains_iff_mem,
      List.mem_cons, List.not_mem_nil, or_false] at this
    simp only [blanks, List.map_cons, List.map_nil, List.mem_cons, List.not_mem_nil, or_false,
      Char.reduceToNat]
    rcases this with ((rfl | tabs) | separators) | beyond
    · decide
    all_goals omega
  obtain ⟨d, hd, heq⟩ := List.mem_map.mp points
  have same : d = c := Char.ext (UInt32.toNat_inj.mp heq)
  exact same ▸ hd

/-- What no character of white space is, none of them is. -/
theorem eq_false_of_isBlank {p : Char → Bool} {c : Char} (h : isBlank c = true)
    (all : blanks.all (fun c => !p c) = true) : p c = false := by
  simpa using List.all_eq_true.mp all c (mem_blanks h)

theorem ne_of_isBlank {c d : Char} (hc : isBlank c = false) (hd : isBlank d = true) : c ≠ d := by
  rintro rfl
  simp [hc] at hd

theorem continuesIdentifier_of_isBlank {c : Char} (h : isBlank c = true) :
    continuesIdentifier c = false :=
  eq_false_of_isBlank h (by decide +kernel)

theorem isQuote_of_isBlank {c : Char} (h : isBlank c = true) : isQuote c = false :=
  eq_false_of_isBlank h (by decide)

/-- White space at the ends of lines and inside them. -/
def isSpacing (c : Char) : Bool := isLineBlank c || c == '\n'

theorem isSpacing_iff {c : Char} :
    isSpacing c = true ↔ c = ' ' ∨ c = '\t' ∨ c = '\x0c' ∨ c = '\n' := by
  simp [isSpacing, isLineBlank, or_assoc]

theorem isBlank_of_isSpacing {c : Char} (h : isSpacing c = true) : isBlank c = true := by
  rcases isSpacing_iff.mp h with rfl | rfl | rfl | rfl <;> decide

theorem all_isBlank_of_isSpacing {white : Text} (h : white.all isSpacing = true) :
    white.all isBlank = true :=
  List.all_eq_true.mpr fun c hc => isBlank_of_isSpacing (List.all_eq_true.mp h c hc)

theorem isSpacing_of_isLineBlank {c : Char} (h : isLineBlank c = true) : isSpacing c = true := by
  simp [isSpacing, h]

theorem inName_of_isSpacing {c : Char} (h : isSpacing c = true) : inName c = false := by
  rcases isSpacing_iff.mp h with rfl | rfl | rfl | rfl <;> decide

theorem isLineBlank_eq_false {c : Char} (h : isBlank c = false) : isLineBlank c = false := by
  cases hc : isLineBlank c with
  | false => rfl
  | true => simp [isBlank_of_isSpacing (isSpacing_of_isLineBlank hc)] at h

/-- A text before which the words and strings of another one end: it starts with white space, and goes on
with no quote where it goes on with a name. -/
structure Outside (t : Text) : Prop where
  blank : t.head?.all isBlank = true
  noQuote : (t.dropWhile inName).head?.any isQuote = false

/-- A text whose first part is visible is taken apart like its other division, of which the second part
starts with white space. -/
theorem append_eq_append_outside {word rest text other : Text} (hw : word.all (!isBlank ·) = true)
    (ho : other.head?.all isBlank = true) (h : word ++ rest = text ++ other) :
    ∃ left, text = word ++ left ∧ rest = left ++ other := by
  rcases List.append_eq_append_iff.mp h with ⟨left, rfl, rfl⟩ | ⟨further, rfl, rfl⟩
  · exact ⟨left, rfl, rfl⟩
  · cases further with
    | nil => exact ⟨[], by simp, by simp⟩
    | cons c further =>
      have visible : isBlank c = false := by
        simpa using List.all_eq_true.mp hw c (by simp)
      have blank : isBlank c = true := by simpa using ho
      simp [visible] at blank

/-- What stands outside after a text is no part of a word that the text starts with. -/
theorem isPrefixOf_append_outside {word other : Text} (hw : word.all (!isBlank ·) = true)
    (ho : Outside other) (text : Text) :
    word.isPrefixOf (text ++ other) = word.isPrefixOf text := by
  rw [Bool.eq_iff_iff, List.isPrefixOf_iff_prefix, List.isPrefixOf_iff_prefix]
  constructor
  · rintro ⟨rest, hr⟩
    obtain ⟨left, rfl, -⟩ := append_eq_append_outside hw ho.blank hr
    exact ⟨left, rfl⟩
  · exact fun h => h.trans (List.prefix_append text other)

/-- White space stands outside. -/
theorem Outside.of_blank {white : Text} (hb : white.all isBlank = true) : Outside white := by
  have blank : ∀ c ∈ white, isBlank c = true := List.all_eq_true.mp hb
  constructor
  · cases white with
    | nil => rfl
    | cons c white => simpa using blank c (by simp)
  · have suffix := List.dropWhile_suffix inName (l := white)
    cases rest : white.dropWhile inName with
    | nil => rfl
    | cons c left =>
      rw [rest] at suffix
      simpa using isQuote_of_isBlank (blank c (suffix.subset (by simp)))

/-- White space of whole lines stands outside, whatever stands below it. -/
theorem Outside.of_lines {white : Text} (hb : white.all isBlank = true) (hn : '\n' ∈ white)
    (below : Text) : Outside (white ++ below) := by
  have blank : ∀ c ∈ white, isBlank c = true := List.all_eq_true.mp hb
  have suffix := List.dropWhile_suffix inName (l := white)
  constructor
  · obtain ⟨c, rest, rfl⟩ := List.exists_cons_of_ne_nil (List.ne_nil_of_mem hn)
    simpa using blank c (by simp)
  · cases rest : white.dropWhile inName with
    | nil =>
      have := List.dropWhile_eq_nil_iff.mp rest '\n' hn
      exact absurd this (by decide)
    | cons c left =>
      rw [rest] at suffix
      rw [List.dropWhile_append, rest]
      simpa using isQuote_of_isBlank (blank c (suffix.subset (by simp)))

/-- A text that starts with white space as scripts have it. -/
def StartsSpaced (t : Text) : Prop := t.head?.any isSpacing = true

theorem StartsSpaced.exists_cons {t : Text} (h : StartsSpaced t) :
    ∃ c rest, t = c :: rest ∧ isSpacing c = true := by
  cases t with
  | nil => simp [StartsSpaced] at h
  | cons c rest => exact ⟨c, rest, rfl, by simpa [StartsSpaced] using h⟩

/-- What can follow a token in the place of another rest: the same text with something else after it that
stands outside, or, where nothing else is left, something that starts with white space as scripts have it. -/
structure Swap (left white other : Text) : Prop where
  isWhite : white.all isBlank = true
  isOutside : Outside other
  spaced : left = [] → StartsSpaced other

end DocExamples.Script.Lexing
