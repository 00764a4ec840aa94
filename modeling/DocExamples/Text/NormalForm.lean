import DocExamples.Text.Basic
import DocExamples.Text.Variants

namespace DocExamples.Text

/-- The entry of the range that a character lies in, and how far it is from the start of the range. -/
def findRange? {α : Type} (ranges : List (Nat × Nat × α)) (c : Char) : Option (α × Nat) :=
  (ranges.find? fun entry => entry.1 ≤ c.toNat && c.toNat ≤ entry.2.1).map
    fun entry => (entry.2.2, c.toNat - entry.1)

def plain (c : Char) : Text :=
  if c.toNat < 0x80 then [c]
  else
    match findRange? letterVariants c with
    | some (letters, place) => [letters.toList.getD place c]
    | none =>
      match findRange? groupVariants c with
      | some (groups, place) => (pieces '_' groups.toList).getD place [c]
      | none => [c]

/-- The characters of which every second one is made of the one after it. -/
def madePairs : Text → List (Char × Char)
  | made :: letter :: rest => (made, letter) :: madePairs rest
  | _ => []

/-- The letter and the mark of which a character is made. -/
def parts? (c : Char) : Option (Char × Char) :=
  compositions.findSome? fun (mark, made) =>
    ((madePairs made.toList).lookup c).map (·, Char.ofNat mark)

/-- The first of the Korean syllables. Each is made of a first consonant, a vowel and maybe a last
consonant, and they stand in the order of these. -/
def firstSyllable : Nat := 0xAC00

/-- The marks for the parts of a Korean syllable. The count of the last consonants starts with none. -/
def syllableParts (n : Nat) : Text :=
  let last := n % 28
  [Char.ofNat (0x1100 + n / 588), Char.ofNat (0x1161 + n % 588 / 28)] ++
    if last = 0 then [] else [Char.ofNat (0x11A7 + last)]

/-- The letter and the marks that a character is made of, or the character alone. The marks are apart
from the letter, which may be made of others in turn; the fuel bounds the number of marks. -/
def decompose : (fuel : Nat) → Char → Text
  | 0, c => [c]
  | fuel + 1, c =>
    if c.toNat < 0x80 then [c]
    else if firstSyllable ≤ c.toNat && c.toNat < firstSyllable + 11172 then
      syllableParts (c.toNat - firstSyllable)
    else
      match parts? c with
      | some (letter, mark) => decompose fuel letter ++ [mark]
      | none => [c]

def markClass (c : Char) : Nat :=
  ((findRange? markClasses c).map (·.1)).getD 0

/-- Puts a character before others: a mark after the marks of smaller classes. -/
def insertMark (c : Char) : Text → Text
  | [] => [c]
  | d :: rest =>
    if 0 < markClass d && markClass d < markClass c then d :: insertMark c rest else c :: d :: rest

/-- The Korean syllable made of a first consonant and a vowel, or of a syllable and a last consonant. -/
def syllable? (first next : Char) : Option Char :=
  let start := first.toNat
  if 0x1100 ≤ start && start < 0x1113 && 0x1161 ≤ next.toNat && next.toNat < 0x1176 then
    some (Char.ofNat (firstSyllable + ((start - 0x1100) * 21 + (next.toNat - 0x1161)) * 28))
  else if firstSyllable ≤ start && start < firstSyllable + 11172 && (start - firstSyllable) % 28 == 0 &&
      0x11A8 ≤ next.toNat && next.toNat < 0x11C3 then
    some (Char.ofNat (start + (next.toNat - 0x11A7)))
  else none

def compose? (letter mark : Char) : Option Char :=
  let composed := compositions.findSome? fun (key, made) =>
    if key = mark.toNat then ((madePairs made.toList).find? (·.2 == letter)).map (·.1) else none
  composed <|> syllable? letter mark

/-- Puts letters and marks together. `letter` is the last letter, `marks` are those after it that stay
apart, and a mark is put together with the letter only if none of those keeps it from the letter. -/
def composeFrom (letter : Char) (marks : Text) : Text → Text
  | [] => letter :: marks
  | c :: rest =>
    let isFree := match marks.getLast? with
      | none => true
      | some last => markClass last < markClass c
    match if isFree then compose? letter c else none with
    | some composed => composeFrom composed marks rest
    | none =>
      if markClass c = 0 then letter :: marks ++ composeFrom c [] rest
      else composeFrom letter (marks ++ [c]) rest

/-- The normal form in which identifiers are compared: characters that are variants of others are replaced
by those, the marks after a letter stand in a fixed order, and a letter and a mark that make one character
together are that character. -/
def normalForm (text : Text) : Text :=
  if text.all fun c => c.toNat < 0x80 then text
  else
    match ((text.flatMap plain).flatMap (decompose 4)).foldr insertMark [] with
    | [] => []
    | c :: rest => composeFrom c [] rest

section Ascii

variable {c : Char} (ascii : c.toNat < 0x80)
include ascii

theorem plain_of_ascii : plain c = [c] := if_pos ascii

theorem decompose_of_ascii (fuel : Nat) : decompose fuel c = [c] := by
  cases fuel with
  | zero => rfl
  | succ fuel => exact if_pos ascii

theorem markClass_of_ascii : markClass c = 0 := by
  have marks : ∀ entry ∈ markClasses, 0x80 ≤ entry.1 := by decide +kernel
  have none : markClasses.find? (fun entry => entry.1 ≤ c.toNat && c.toNat ≤ entry.2.1) = none := by
    rw [List.find?_eq_none]
    intro entry mem
    have beyond := marks entry mem
    simp only [Bool.and_eq_true, decide_eq_true_eq]
    omega
  rw [markClass, findRange?, none]
  rfl

theorem compose?_of_ascii (letter : Char) : compose? letter c = none := by
  have marks : ∀ entry ∈ compositions, 0x80 ≤ entry.1 := by decide +kernel
  have none : compositions.findSome? (fun (key, made) =>
      if key = c.toNat then ((madePairs made.toList).find? (·.2 == letter)).map (·.1) else none) = none := by
    rw [List.findSome?_eq_none_iff]
    intro entry mem
    have beyond := marks entry mem
    exact if_neg (by omega)
  have low : c.toNat < 0x1161 := by omega
  simp [compose?, none, syllable?, Nat.not_le.mpr low, Nat.not_le.mpr (Nat.lt_trans low (by decide : 0x1161 < 0x11A8))]

end Ascii

end DocExamples.Text
