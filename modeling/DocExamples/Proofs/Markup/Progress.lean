import DocExamples.Markup.Token
import DocExamples.Proofs.Markup.References
import DocExamples.Proofs.Text.Margin

namespace DocExamples.Markup

open Text Effects

namespace Tag

theorem suffix_skipGaps (before : Char) (text : Text) : (Place.skipGaps before text).rest <:+ text := by
  induction text generalizing before with
  | nil => exact List.suffix_rfl
  | cons c text ih =>
    rw [Place.skipGaps]
    split
    · exact (ih c).trans (List.suffix_cons c text)
    · exact List.suffix_rfl

theorem suffix_cutAt? {mark : Char} {text inside rest : Text}
    (h : cutAt? mark text = some (inside, rest)) : rest <:+ text := by
  obtain ⟨rfl, -⟩ := cutAt?_eq_some_iff.mp h
  exact ⟨inside ++ [mark], by simp⟩

theorem suffix_valueAfter? {place after : Place} {signs gap rest value : Text}
    (h : valueAfter? place signs gap rest = some (value, after)) : after.rest <:+ rest := by
  unfold valueAfter? at h
  split at h
  · next q inner =>
    split at h
    · split at h
      · next cut =>
        cases h
        exact (suffix_cutAt? cut).trans (List.suffix_cons q inner)
      · split at h
        · cases h
          exact List.suffix_rfl
        · next quoted _ _ _ =>
          split at h
          · cases h
            -- The last of several equals signs and the quote belong to a bare value.
            have quote : inBareValue q = true := by
              rcases (by simpa [isQuote] using quoted : q = '\x27' ∨ q = '\x22') with rfl | rfl <;> decide
            have sign : inBareValue '=' = true := by decide
            change ('=' :: q :: inner).dropWhile inBareValue <:+ q :: inner
            rw [List.dropWhile_cons_of_pos sign, List.dropWhile_cons_of_pos quote]
            exact (List.dropWhile_suffix _).trans (List.suffix_cons q inner)
          · cases h
    · cases h
      exact List.dropWhile_suffix _
  · cases h
    exact List.dropWhile_suffix _

theorem suffix_value? {place after : Place} {value : Text} (h : value? place = some (value, after)) :
    after.rest <:+ place.rest := by
  unfold value? at h
  dsimp only at h
  split at h
  · cases h
  · exact (suffix_valueAfter? h).trans ((List.dropWhile_suffix _).trans
      ((List.dropWhile_suffix _).trans (List.dropWhile_suffix _)))

theorem suffix_getD_value? (place : Place) :
    ((value? place).getD ([], place)).2.rest <:+ place.rest := by
  cases hv : value? place with
  | none => exact List.suffix_rfl
  | some found => exact suffix_value? hv

theorem suffix_attributesFrom (fuel : Nat) (place : Place) :
    (attributesFrom fuel place).2.rest <:+ place.rest := by
  induction fuel generalizing place with
  | zero => exact List.suffix_rfl
  | succ fuel ih =>
    rw [attributesFrom]
    split
    · have named : place.rest.tail.dropWhile inAttributeName <:+ place.rest :=
        (List.dropWhile_suffix _).trans (List.tail_suffix _)
      exact (ih _).trans ((suffix_skipGaps _ _).trans ((suffix_getD_value? _).trans named))
    · exact List.suffix_rfl

/-- Fuel for every character is enough. -/
theorem attributesFrom_fuel {fuel fuel' : Nat} {place : Place} (h : place.rest.length ≤ fuel)
    (h' : place.rest.length ≤ fuel') : attributesFrom fuel place = attributesFrom fuel' place := by
  have nothing {place : Place} (h : startsAttribute place = false) (fuel : Nat) :
      attributesFrom fuel place = ([], place) := by
    cases fuel with
    | zero => rfl
    | succ fuel =>
      rw [attributesFrom, h]
      rfl
  induction fuel generalizing fuel' place with
  | zero =>
    have ended : startsAttribute place = false := by
      rw [startsAttribute, List.eq_nil_of_length_eq_zero (Nat.le_zero.mp h)]
      exact Bool.and_false _
    rw [nothing ended, nothing ended]
  | succ fuel ih =>
    cases starts : startsAttribute place with
    | false => rw [nothing starts, nothing starts]
    | true =>
      obtain ⟨c, rest, hr⟩ : ∃ c rest, place.rest = c :: rest := by
        refine List.exists_cons_of_ne_nil fun empty => ?_
        rw [startsAttribute, empty] at starts
        simp at starts
      cases fuel' with
      | zero => simp [hr] at h'
      | succ fuel' =>
        rw [hr, List.length_cons] at h h'
        have shorter (place : Place) (suffix : place.rest <:+ rest) :
            attributesFrom fuel place = attributesFrom fuel' place := by
          have length := suffix.length_le
          exact ih (by omega) (by omega)
        rw [attributesFrom, attributesFrom, if_pos starts, if_pos starts]
        dsimp only
        rw [shorter]
        refine (suffix_skipGaps _ _).trans ((suffix_getD_value? _).trans ?_)
        rw [hr]
        exact List.dropWhile_suffix _

/-- What is left after a start tag that was read. -/
def Reading.rest? : Reading → Option Text
  | .tag _ _ rest => some rest
  | .broken rest => some rest
  | .incomplete | .overlong _ => none

theorem rest?_decoding {attributes : List (Text × Text)} {reading : List (Text × Text) → Reading} {rest : Text}
    (h : (Reading.decoding attributes reading).rest? = some rest) :
    ∃ decoded, (reading decoded).rest? = some rest := by
  unfold Reading.decoding at h
  split at h
  · exact ⟨_, h⟩
  · cases h

theorem suffix_read {text rest : Text} (h : (read text).rest? = some rest) : rest <:+ text := by
  unfold read at h
  dsimp only at h
  generalize hl : attributesFrom _ _ = read at h
  have last : read.2.rest <:+ text := by
    rw [← hl]
    exact (suffix_attributesFrom _ _).trans ((List.drop_suffix _ _).trans (List.dropWhile_suffix _))
  obtain ⟨attributes, before, left⟩ := read
  dsimp only at h last
  split at h
  · cases h
  · obtain ⟨decoded, h⟩ := rest?_decoding h
    cases h
    exact (List.suffix_cons _ _).trans last
  · obtain ⟨decoded, h⟩ := rest?_decoding h
    cases h
    exact (List.suffix_cons _ _).trans ((List.suffix_cons _ _).trans last)
  · split at h
    · cases h
    · obtain ⟨decoded, h⟩ := rest?_decoding h
      cases h
      exact last

theorem infix_valueAfter? {place after : Place} {signs gap rest value : Text}
    (equals : ∀ c ∈ signs, c = '=') (h : valueAfter? place signs gap rest = some (value, after)) :
    value <:+: signs ++ gap ++ rest := by
  have bare {text : Text} (suffix : text <:+ signs ++ gap ++ rest) :
      text.takeWhile inBareValue <:+: signs ++ gap ++ rest :=
    (List.takeWhile_prefix _).isInfix.trans suffix.isInfix
  have whole : rest <:+ signs ++ gap ++ rest := List.suffix_append _ _
  unfold valueAfter? at h
  split at h
  · next q inner =>
    split at h
    · split at h
      · next cut =>
        cases h
        obtain ⟨rfl, -⟩ := cutAt?_eq_some_iff.mp cut
        exact (List.infix_append [q] value _).trans whole.isInfix
      · split at h
        · cases h
          exact List.nil_infix
        · next none =>
          split at h
          · next several =>
            cases h
            obtain ⟨start, last, rfl⟩ : ∃ start last, signs = start ++ [last] := by
              rcases List.eq_nil_or_concat signs with rfl | ⟨start, last, rfl⟩
              · simp at several
              · exact ⟨start, last, List.concat_eq_append⟩
            obtain rfl := equals last (by simp)
            refine bare ⟨start, ?_⟩
            have empty : gap = [] := by simpa using none
            simp [empty]
          · cases h
    · cases h
      exact bare whole
  · cases h
    exact bare whole

theorem infix_value? {place after : Place} {value : Text} (h : value? place = some (value, after)) :
    value <:+: place.rest := by
  unfold value? at h
  dsimp only at h
  split at h
  · cases h
  · have found := infix_valueAfter? (fun c mem => by simpa using List.mem_takeWhile_imp mem) h
    rw [List.append_assoc, List.takeWhile_append_dropWhile, List.takeWhile_append_dropWhile] at found
    exact found.trans (List.dropWhile_suffix _).isInfix

/-- The values of attributes stand in the text. -/
theorem infix_of_mem_attributesFrom {fuel : Nat} {place : Place} {entry : Text × Text}
    (h : entry ∈ (attributesFrom fuel place).1) : entry.2 <:+: place.rest := by
  induction fuel generalizing place with
  | zero => cases h
  | succ fuel ih =>
    rw [attributesFrom] at h
    split at h
    · have named : place.rest.tail.dropWhile inAttributeName <:+ place.rest :=
        (List.dropWhile_suffix _).trans (List.tail_suffix _)
      rcases List.mem_cons.mp h with rfl | further
      · cases found : value? (place.past (place.rest.take 1 ++ place.rest.tail.takeWhile inAttributeName)
            (place.rest.tail.dropWhile inAttributeName)) with
        | none => exact List.nil_infix
        | some valued => exact (infix_value? found).trans named.isInfix
      · exact (ih further).trans
          ((suffix_skipGaps _ _).trans ((suffix_getD_value? _).trans named)).isInfix
    · cases h

theorem exists_of_decodeValues_error {attributes : List (Text × Text)} {count : Nat}
    (h : decodeValues attributes = .error count) :
    ∃ entry ∈ attributes, Reference.decode entry.2 = .error count := by
  induction attributes with
  | nil => cases h
  | cons entry attributes ih =>
    obtain ⟨name, raw⟩ := entry
    rw [decodeValues] at h
    cases decoded : Reference.decode raw with
    | error digits =>
      rw [decoded] at h
      cases h
      exact ⟨_, List.mem_cons_self, decoded⟩
    | ok value =>
      rw [decoded] at h
      cases further : decodeValues attributes with
      | error digits =>
        rw [further] at h
        obtain ⟨entry, mem, failed⟩ := ih (further.trans h)
        exact ⟨entry, List.mem_cons_of_mem _ mem, failed⟩
      | ok values =>
        rw [further] at h
        cases h

theorem Reading.exists_of_decoding {attributes : List (Text × Text)} {reading : List (Text × Text) → Reading}
    {count : Nat} (never : ∀ decoded, reading decoded ≠ .overlong count)
    (h : Reading.decoding attributes reading = .overlong count) :
    ∃ entry ∈ attributes, Reference.decode entry.2 = .error count := by
  unfold Reading.decoding at h
  split at h
  · exact absurd h (never _)
  · next failed =>
    cases h
    exact exists_of_decodeValues_error failed

/-- A tag that cannot be read for a number with too many digits holds one. -/
theorem holdsOverlong_of_read {text : Text} {count : Nat} (h : read text = .overlong count) :
    Reference.HoldsOverlong text count := by
  unfold read at h
  dsimp only at h
  generalize hl : attributesFrom _ _ = read at h
  have inside (entry : Text × Text) (mem : entry ∈ read.1) : entry.2 <:+: text := by
    rw [← hl] at mem
    exact (infix_of_mem_attributesFrom mem).trans
      ((List.drop_suffix _ _).trans (List.dropWhile_suffix _)).isInfix
  obtain ⟨entry, mem, failed⟩ : ∃ entry ∈ read.1, Reference.decode entry.2 = .error count := by
    split at h
    · cases h
    · exact Reading.exists_of_decoding (by simp) h
    · exact Reading.exists_of_decoding (by simp) h
    · split at h
      · cases h
      · exact Reading.exists_of_decoding (by simp) h
  rcases Reference.decode_cases entry.2 with ⟨digits, overlong, found⟩ | ⟨value, decoded, -⟩
  · obtain rfl := Except.error.inj (overlong.symm.trans failed)
    exact (Reference.holdsOverlong_of_overlong? found).of_isInfix (inside entry mem)
  · cases decoded.symm.trans failed

end Tag

/-- What a fault is found by: the start of a marked section, or a number with too many digits. -/
def Fault.IsFoundIn (text : Text) : Fault → Prop
  | .unknownSection => "<![".toList <:+: text
  | .overlongNumber count => Reference.HoldsOverlong text count

theorem Fault.IsFoundIn.of_isInfix {fault : Fault} {part text : Text} (h : fault.IsFoundIn part)
    (inside : part <:+: text) : fault.IsFoundIn text := by
  cases fault with
  | unknownSection => exact List.IsInfix.trans h inside
  | overlongNumber count => exact Reference.HoldsOverlong.of_isInfix h inside

namespace Token

theorem suffix_after? {token text rest : Text} (h : after? token text = some rest) : rest <:+ text :=
  ⟨token, (after?_eq_some_iff.mp h).symm⟩

theorem suffix_cutClose? {opening text before rest : Text} {middle : Option Char}
    (h : cutClose? opening middle text = some (before, rest)) : rest <:+ text := by
  induction text generalizing before with
  | nil => cases h
  | cons c text ih =>
    rw [cutClose?] at h
    dsimp only at h
    split at h
    · next closed =>
      cases h
      obtain ⟨opened, hopened, closed⟩ := Option.bind_eq_some_iff.mp closed
      have left : opened <:+ c :: text := suffix_after? hopened
      cases middle with
      | none => exact (suffix_after? closed).trans ((List.dropWhile_suffix _).trans left)
      | some m =>
        obtain ⟨inner, hinner, ended⟩ := Option.bind_eq_some_iff.mp closed
        obtain ⟨marked, hm, rfl⟩ := Option.map_eq_some_iff.mp hinner
        exact (suffix_after? ended).trans ((List.dropWhile_suffix _).trans
          ((suffix_after? hm).trans ((List.dropWhile_suffix _).trans left)))
    · obtain ⟨⟨inside, left⟩, further, same⟩ := Option.map_eq_some_iff.mp h
      cases same
      exact (ih further).trans (List.suffix_cons c text)

theorem suffix_plainEnd? {text name rest : Text} (h : plainEnd? text = some (name, rest)) :
    rest <:+ text := by
  unfold plainEnd? at h
  dsimp only at h
  split at h
  · obtain ⟨left, ended, same⟩ := Option.map_eq_some_iff.mp h
    cases same
    exact (suffix_after? ended).trans ((List.dropWhile_suffix _).trans
      ((List.dropWhile_suffix _).trans (List.dropWhile_suffix _)))
  · cases h

namespace Reading

/-- What is left after a construct that was read. -/
def rest? : Reading → Option Text
  | tokens _ _ rest => some rest
  | incomplete | fails _ => none

/-- A reading of a text that leaves an end of it, if it comes to tokens. -/
def LeavesEnd (text : Text) (reading : Reading) : Prop := ∀ rest, reading.rest? = some rest → rest <:+ text

theorem LeavesEnd.of_suffix {text rest : Text} (h : rest <:+ text) (ts : List Token)
    (raw : Option RawElement) : LeavesEnd text (tokens ts raw rest) := by
  intro left same
  cases same
  exact h

theorem LeavesEnd.incomplete (text : Text) : LeavesEnd text incomplete := by
  intro left same
  cases same

theorem LeavesEnd.fails (text : Text) (fault : Fault) : LeavesEnd text (fails fault) := by
  intro left same
  cases same

theorem LeavesEnd.cons {text : Text} {reading : Reading} (h : LeavesEnd text reading) (c : Char) :
    LeavesEnd (c :: text) reading := fun rest same => (h rest same).trans (List.suffix_cons c text)

end Reading

open Reading

theorem leavesEnd_readAside {kind : AsideKind} {text : Text} {found : Option (Text × Text)}
    (h : ∀ inside rest, found = some (inside, rest) → rest <:+ text) :
    LeavesEnd text (readAside kind found) := by
  cases found with
  | none => exact .incomplete text
  | some parts => exact .of_suffix (h parts.1 parts.2 rfl) _ _

theorem leavesEnd_sectionAside {text : Text} {found : Option (Text × Text)}
    (h : ∀ inside rest, found = some (inside, rest) → rest <:+ text) :
    LeavesEnd text (sectionAside found) := by
  cases found with
  | none => exact .incomplete text
  | some parts =>
    rw [sectionAside]
    split <;> exact .of_suffix (h parts.1 parts.2 rfl) _ _

theorem leavesEnd_readSection (text : Text) : LeavesEnd text (readSection text) := by
  unfold readSection
  split
  · exact .incomplete _
  · split
    · dsimp only
      split
      · exact .incomplete _
      · split
        · exact leavesEnd_sectionAside fun _ _ => suffix_cutClose?
        · split
          · exact leavesEnd_sectionAside fun _ _ => suffix_cutClose?
          · exact .fails _ _
    · exact .fails _ _

theorem unknownSection_of_readSection {text : Text} {fault : Fault} (h : readSection text = .fails fault) :
    fault = .unknownSection := by
  have aside (found : Option (Text × Text)) : sectionAside found ≠ .fails fault := by
    unfold sectionAside
    repeat' split
    all_goals simp
  unfold readSection at h
  split at h
  · cases h
  split at h
  · dsimp only at h
    split at h
    · cases h
    split at h
    · exact absurd h (aside _)
    split at h
    · exact absurd h (aside _)
    · cases h
      rfl
  · cases h
    rfl

theorem leavesEnd_readDeclaration (text : Text) : LeavesEnd text (readDeclaration text) := by
  unfold readDeclaration
  split
  · next text =>
    exact ((leavesEnd_readAside fun _ _ => suffix_cutClose?).cons '-').cons '-'
  · next text => exact (leavesEnd_readSection text).cons '['
  · split
    · exact leavesEnd_readAside fun _ _ cut =>
        (Tag.suffix_cutAt? cut).trans (List.drop_suffix 7 text)
    · exact leavesEnd_readAside fun _ _ => Tag.suffix_cutAt?

theorem leavesEnd_readEnd (text : Text) : LeavesEnd text (readEnd text) := by
  unfold readEnd
  split
  · exact .incomplete text
  · next inside rest cut =>
    split
    · next name left plain => exact .of_suffix (suffix_plainEnd? plain) _ _
    · have cutEnd := Tag.suffix_cutAt? cut
      split
      · exact .of_suffix cutEnd _ _
      · split <;> exact .of_suffix cutEnd _ _

theorem leavesEnd_readRawEnd (raw : RawElement) (text : Text) : LeavesEnd text (readRawEnd raw text) := by
  unfold readRawEnd
  split
  · exact .incomplete text
  · next inside rest cut =>
    have cutEnd := Tag.suffix_cutAt? cut
    split
    · next name left plain =>
      split
      · exact .of_suffix (suffix_plainEnd? plain) _ _
      · exact .of_suffix (suffix_plainEnd? plain) _ _
    · exact .of_suffix cutEnd _ _

theorem leavesEnd_readStart (text : Text) : LeavesEnd text (readStart text) := by
  have left (rest : Text) : (Tag.read text).rest? = some rest → rest <:+ text := Tag.suffix_read
  unfold readStart
  split
  · next found =>
    rw [found] at left
    exact .of_suffix (left _ rfl) _ _
  · next found =>
    rw [found] at left
    exact .of_suffix (left _ rfl) _ _
  · exact .incomplete text
  · exact .fails text _

theorem leavesEnd_readMarkup? {text : Text} {reading : Reading} (h : readMarkup? text = some reading) :
    LeavesEnd text reading := by
  unfold readMarkup? at h
  split at h
  · cases h
  · cases h
    exact (leavesEnd_readEnd _).cons '/'
  · cases h
    exact (leavesEnd_readAside fun _ _ => Tag.suffix_cutAt?).cons '?'
  · cases h
    exact (leavesEnd_readDeclaration _).cons '!'
  · split at h
    · cases h
      exact leavesEnd_readStart _
    · cases h
      exact .of_suffix List.suffix_rfl _ _

/-- A number stands for one character unless it has too many digits, or the pass stops at it or after the two
characters before it. -/
theorem readNumber_cases (text : Text) :
    (∃ c rest, readNumber text = .data [c] rest ∧ rest <:+ text) ∨
      readNumber text = .stop ['&', '#'] text ∨ readNumber text = .stop [] ('&' :: '#' :: text) ∨
      ∃ count, readNumber text = .fails (.overlongNumber count) ∧
        Reference.HoldsOverlong ('&' :: '#' :: text) count := by
  have tail (p : Char → Bool) : text.tail.dropWhile p <:+ text :=
    (List.dropWhile_suffix p).trans (List.tail_suffix text)
  cases hex : text.head? == some 'x' || text.head? == some 'X' <;>
    simp only [readNumber, hex, if_true, Bool.false_eq_true, if_false, Reference.readDigits] <;> split
  · cases number : decimal (text.takeWhile isAsciiDigit) with
    | ok n => exact .inl ⟨_, _, rfl, (Reference.suffix_dropSemicolon _).trans (List.dropWhile_suffix _)⟩
    | error count => exact .inr (.inr (.inr ⟨count, rfl, Reference.holdsOverlong_of_digits number⟩))
  · split
    · exact .inr (.inl rfl)
    · exact .inr (.inr (.inl rfl))
  · exact .inl ⟨_, _, rfl, (Reference.suffix_dropSemicolon _).trans (tail _)⟩
  · split
    · exact .inr (.inl rfl)
    · exact .inr (.inr (.inl rfl))

theorem suffix_readNumber {text value rest : Text} (h : readNumber text = .data value rest) :
    rest <:+ text := by
  rcases readNumber_cases text with ⟨c, left, read, suffix⟩ | read | read | ⟨count, read, -⟩ <;>
    rw [read] at h <;> cases h
  exact suffix

theorem suffix_readReference {final : Bool} {text value rest : Text}
    (h : readReference final text = .data value rest) : rest <:+ text := by
  unfold readReference at h
  split at h
  · cases h
  · exact (suffix_readNumber h).trans (List.suffix_cons _ _)
  · split at h
    · next c text _ _ =>
      dsimp only at h
      generalize (if ((c :: text).dropWhile inReferenceName).isEmpty = true then
        nameBeforePoint ((c :: text).takeWhile inReferenceName)
        else (c :: text).takeWhile inReferenceName) = name at h
      split at h
      · cases h
      · cases h
        exact (Reference.suffix_dropSemicolon _).trans (List.drop_suffix _ _)
    · cases h
      exact List.suffix_rfl

theorem suffix_salvage (text : Text) : (salvage text).2 <:+ text := by
  unfold salvage
  split
  · next cut => exact Tag.suffix_cutAt? cut
  · split
    · next inside rest cut =>
      obtain ⟨rfl, -⟩ := cutAt?_eq_some_iff.mp cut
      exact List.suffix_append inside _
    · exact List.suffix_rfl

/-- What a raw element's data is cut off before starts with `</`. -/
theorem exists_of_cutRaw? {raw : RawElement} {text before rest : Text}
    (h : cutRaw? raw text = some (before, rest)) : rest <:+ text ∧ ∃ inner, rest = '<' :: '/' :: inner := by
  induction text generalizing before with
  | nil => cases h
  | cons c text ih =>
    rw [cutRaw?] at h
    dsimp only at h
    split at h
    · next here =>
      cases h
      refine ⟨List.suffix_rfl, ?_⟩
      obtain ⟨left, here⟩ := Option.isSome_iff_exists.mp here
      obtain ⟨inner, opened, -⟩ := Option.bind_eq_some_iff.mp here
      exact ⟨inner, after?_eq_some_iff.mp opened⟩
    · obtain ⟨⟨inside, left⟩, further, same⟩ := Option.map_eq_some_iff.mp h
      cases same
      obtain ⟨suffix, shape⟩ := ih further
      exact ⟨suffix.trans (List.suffix_cons c text), shape⟩

theorem readAside_ne_fails (kind : AsideKind) (found : Option (Text × Text)) (fault : Fault) :
    readAside kind found ≠ .fails fault := by
  cases found <;> simp [readAside]

theorem readEnd_ne_fails (text : Text) (fault : Fault) : readEnd text ≠ .fails fault := by
  unfold readEnd
  repeat' split
  all_goals simp

theorem isFoundIn_of_readDeclaration {text : Text} {fault : Fault}
    (h : readDeclaration text = .fails fault) : fault.IsFoundIn ('<' :: '!' :: text) := by
  unfold readDeclaration at h
  split at h
  · exact absurd h (readAside_ne_fails _ _ _)
  · next inner =>
    obtain rfl := unknownSection_of_readSection h
    exact (List.prefix_append "<![".toList inner).isInfix
  · split at h <;> exact absurd h (readAside_ne_fails _ _ _)

theorem isFoundIn_of_readStart {text : Text} {fault : Fault} (h : readStart text = .fails fault) :
    fault.IsFoundIn text := by
  unfold readStart at h
  split at h
  · cases h
  · cases h
  · cases h
  · next overlong =>
    cases h
    exact Tag.holdsOverlong_of_read overlong

/-- A fault that something begins with at a `<` is found there. -/
theorem isFoundIn_of_readMarkup? {text : Text} {fault : Fault} (h : readMarkup? text = some (.fails fault)) :
    fault.IsFoundIn ('<' :: text) := by
  unfold readMarkup? at h
  split at h
  · cases h
  · exact absurd (Option.some.inj h) (readEnd_ne_fails _ _)
  · exact absurd (Option.some.inj h) (readAside_ne_fails _ _ _)
  · exact isFoundIn_of_readDeclaration (Option.some.inj h)
  · split at h
    · exact (isFoundIn_of_readStart (Option.some.inj h)).of_isInfix (List.suffix_cons '<' _).isInfix
    · cases h

theorem suffix_readNumber_stop {text value rest : Text} (h : readNumber text = .stop value rest) :
    rest <:+ '&' :: '#' :: text := by
  rcases readNumber_cases text with ⟨c, left, read, -⟩ | read | read | ⟨count, read, -⟩ <;>
    rw [read] at h <;> cases h
  · exact (List.suffix_cons '#' text).trans (List.suffix_cons _ _)
  · exact List.suffix_rfl

/-- A fault in a reference is found from its ampersand on. -/
theorem isFoundIn_of_readReference {final : Bool} {text : Text} {fault : Fault}
    (h : readReference final text = .fails fault) : fault.IsFoundIn ('&' :: text) := by
  unfold readReference at h
  split at h
  · cases h
  · next text =>
    rcases readNumber_cases text with ⟨c, left, read, -⟩ | read | read | ⟨count, read, overlong⟩ <;>
      rw [read] at h <;> cases h
    exact overlong
  · split at h
    · dsimp only at h
      generalize List.isEmpty _ = none at h
      cases none <;> cases h
    · cases h

theorem suffix_readReference_stop {final : Bool} {text value rest : Text}
    (h : readReference final text = .stop value rest) : rest <:+ '&' :: text := by
  unfold readReference at h
  split at h
  · cases h
    exact List.suffix_rfl
  · exact suffix_readNumber_stop h
  · split at h
    · next c text _ _ =>
      dsimp only at h
      generalize (if ((c :: text).dropWhile inReferenceName).isEmpty = true then
        nameBeforePoint ((c :: text).takeWhile inReferenceName)
        else (c :: text).takeWhile inReferenceName) = name at h
      split at h
      · cases h
        split
        · next last =>
          rw [Bool.and_eq_true, List.isEmpty_iff] at last
          rw [last.2]
          exact List.suffix_cons '&' [c]
        · exact List.suffix_rfl
      · cases h
    · cases h

theorem eq_nil_of_readMarkup?_none {text : Text} (h : readMarkup? text = none) : text = [] := by
  unfold readMarkup? at h
  split at h
  · rfl
  · cases h
  · cases h
  · cases h
  · split at h <;> cases h

/-- A step leaves an end of the source, which is shorter where the pass goes on. -/
inductive Step.Advances (text : Text) : Step → Prop
  | stops {pass : Pass} (suffix : pass.rest <:+ text) : Advances text (stops pass)
  | fails {fault : Fault} (found : fault.IsFoundIn text) : Advances text (fails fault)
  | goes {tokens : List Token} {raw : Option RawElement} {rest : Text} (suffix : rest <:+ text)
    (shorter : rest.length < text.length) : Advances text (goes tokens raw rest)

theorem Step.Advances.of_cons {c : Char} {text left rest : Text} (hl : c :: left <:+ text)
    (hr : rest <:+ left) (tokens : List Token) (raw : Option RawElement) :
    Advances text (.goes tokens raw rest) := by
  have shorter := hr.length_le
  have longer := hl.length_le
  rw [List.length_cons] at longer
  exact .goes (hr.trans ((List.suffix_cons c left).trans hl)) (by omega)

theorem rawStep_advances (raw : RawElement) (text : Text) : (rawStep raw text).Advances text := by
  unfold rawStep
  split
  · exact .stops List.suffix_rfl
  · next before rest cut =>
    obtain ⟨suffix, inner, rfl⟩ := exists_of_cutRaw? cut
    rw [List.drop_succ_cons, List.drop_succ_cons, List.drop_zero]
    have left := leavesEnd_readRawEnd raw inner
    cases ended : readRawEnd raw inner with
    | tokens found raw rest =>
      rw [ended] at left
      exact .of_cons suffix ((left rest rfl).trans (List.suffix_cons '/' inner)) _ _
    | incomplete => exact .stops suffix
    | fails => exact .stops suffix

theorem referenceStep_advances {final : Bool} {text left : Text} (suffix : '&' :: left <:+ text)
    (before : List Token) : (referenceStep final before left).Advances text := by
  unfold referenceStep
  split
  · next read => exact .of_cons suffix (suffix_readReference read) _ _
  · next read => exact .stops ((suffix_readReference_stop read).trans suffix)
  · next read => exact .fails ((isFoundIn_of_readReference read).of_isInfix suffix.isInfix)

theorem markupStep_advances {final : Bool} {text left : Text} (suffix : '<' :: left <:+ text)
    (before : List Token) : (markupStep final before left).Advances text := by
  unfold markupStep
  split
  · next nothing =>
    rw [eq_nil_of_readMarkup?_none nothing] at suffix
    exact .stops suffix
  · next read => exact .of_cons suffix (leavesEnd_readMarkup? read _ rfl) _ _
  · next read => exact .fails ((isFoundIn_of_readMarkup? read).of_isInfix suffix.isInfix)
  · split
    · exact .of_cons suffix (suffix_salvage left) _ _
    · exact .stops suffix

theorem plainStep_advances (final : Bool) (text : Text) : (plainStep final text).Advances text := by
  have suffix := List.dropWhile_suffix (fun c => !isSpecial c) (l := text)
  have special := List.head?_dropWhile_not (fun c => !isSpecial c) text
  unfold plainStep
  generalize (text.dropWhile fun c => !isSpecial c) = left at suffix special
  cases left with
  | nil => exact .stops List.nil_suffix
  | cons c rest =>
    have special : isSpecial c = true := by simpa using special
    dsimp only
    split
    · next same => exact referenceStep_advances (same ▸ suffix) _
    · next other =>
      have bracket : c = '<' := by simpa [isSpecial, other] using special
      exact markupStep_advances (bracket ▸ suffix) _

theorem step_advances (final : Bool) (raw : Option RawElement) (text : Text) :
    (step final raw text).Advances text := by
  cases raw with
  | some raw => exact rawStep_advances raw text
  | none => exact plainStep_advances final text

/-- Fuel for every character is enough. -/
theorem readPass_fuel {final : Bool} {fuel fuel' : Nat} {text : Text} (h : text.length ≤ fuel)
    (h' : text.length ≤ fuel') (raw : Option RawElement) :
    readPass final fuel raw text = readPass final fuel' raw text := by
  have nothing (fuel : Nat) (raw : Option RawElement) :
      readPass final fuel raw [] = .ok ⟨[], raw, []⟩ := by
    cases fuel <;> cases raw <;> rfl
  induction fuel generalizing fuel' raw text with
  | zero =>
    obtain rfl : text = [] := List.eq_nil_of_length_eq_zero (by omega)
    rw [nothing, nothing]
  | succ fuel ih =>
    cases fuel' with
    | zero =>
      obtain rfl : text = [] := List.eq_nil_of_length_eq_zero (by omega)
      rw [nothing, nothing]
    | succ fuel' =>
      have advances := step_advances final raw text
      rw [readPass, readPass]
      cases hs : step final raw text with
      | stops pass => rfl
      | fails fault => rfl
      | goes tokens raw rest =>
        rw [hs] at advances
        cases advances with
        | goes suffix shorter =>
          have same : readPass final fuel raw rest = readPass final fuel' raw rest :=
            ih (by omega) (by omega) raw
          dsimp only
          rw [same]

/-- A pass over a source, with the fuel that it needs. -/
def wholePass (final : Bool) (raw : Option RawElement) (text : Text) : Except Fault Pass :=
  readPass final text.length raw text

theorem wholePass_eq (final : Bool) (raw : Option RawElement) (text : Text) :
    wholePass final raw text =
      match step final raw text with
      | .stops pass => .ok pass
      | .fails fault => .error fault
      | .goes found raw rest => (wholePass final raw rest).map (·.after found) := by
  have advances := step_advances final raw text
  rw [wholePass, readPass_fuel le_rfl (Nat.le_succ text.length), readPass]
  cases hs : step final raw text with
  | stops pass => rfl
  | fails fault => rfl
  | goes tokens raw rest =>
    rw [hs] at advances
    cases advances with
    | goes suffix shorter =>
      dsimp only
      rw [wholePass, readPass_fuel shorter.le le_rfl raw]

theorem wholePass_of_step {final : Bool} {raw raw' : Option RawElement} {text rest : Text} {found : List Token}
    (h : step final raw text = .goes found raw' rest) :
    wholePass final raw text = (wholePass final raw' rest).map (·.after found) := by
  rw [wholePass_eq, h]

theorem Pass.after_after (pass : Pass) (found more : List Token) :
    (pass.after more).after found = pass.after (found ++ more) := by
  rw [after, after, after, List.append_assoc]

/-- A step that has read tokens before. -/
def Step.after (before : List Token) : Step → Step
  | stops pass => stops (pass.after before)
  | fails fault => fails fault
  | goes found raw rest => goes (before ++ found) raw rest

theorem referenceStep_after (final : Bool) (before : List Token) (text : Text) :
    referenceStep final before text = (referenceStep final [] text).after before := by
  unfold referenceStep
  cases readReference final text <;> rfl

theorem markupStep_after (final : Bool) (before : List Token) (text : Text) :
    markupStep final before text = (markupStep final [] text).after before := by
  unfold markupStep
  cases readMarkup? text with
  | none => simp [Step.after, Pass.after]
  | some reading =>
    cases reading with
    | tokens found raw rest => rfl
    | fails fault => rfl
    | incomplete => cases final <;> simp [Step.after, Pass.after]

theorem plainStep_after (final : Bool) (text : Text) :
    plainStep final text = (plainStep final (text.dropWhile fun c => !isSpecial c)).after
      (ofData (text.takeWhile fun c => !isSpecial c)) := by
  have special := List.head?_dropWhile_not (fun c => !isSpecial c) text
  unfold plainStep
  generalize (text.dropWhile fun c => !isSpecial c) = left at special ⊢
  cases left with
  | nil => simp [Step.after, Pass.after, ofData]
  | cons c rest =>
    have special : (!isSpecial c) = false := by simpa using special
    have none : ofData [] = [] := rfl
    rw [List.takeWhile_cons, List.dropWhile_cons, special]
    simp only [Bool.false_eq_true, if_false, none]
    split
    · exact referenceStep_after final _ rest
    · exact markupStep_after final _ rest

/-- Data is read apart from what begins at the next special character. -/
theorem wholePass_plain (final : Bool) (text : Text) :
    wholePass final none text = (wholePass final none (text.dropWhile fun c => !isSpecial c)).map
      (·.after (ofData (text.takeWhile fun c => !isSpecial c))) := by
  rw [wholePass_eq final none text, wholePass_eq final none (text.dropWhile _), step, step, plainStep_after]
  cases plainStep final (text.dropWhile fun c => !isSpecial c) with
  | stops pass => rfl
  | fails fault => rfl
  | goes found raw rest =>
    simp only [Step.after]
    cases wholePass final raw rest <;> simp [Except.map, Pass.after]

/-- What holds of every place follows from what holds of the places that come after it. -/
theorem wholePass_induction (final : Bool) {motive : Option RawElement → Text → Prop}
    (h : ∀ raw text, (∀ tokens raw' rest, step final raw text = .goes tokens raw' rest →
      motive raw' rest) → motive raw text) (raw : Option RawElement) (text : Text) : motive raw text := by
  induction hn : text.length using Nat.strong_induction_on generalizing raw text with
  | _ n ih =>
    apply h
    intro tokens raw' rest goes
    have advances := step_advances final raw text
    rw [goes] at advances
    cases advances with
    | goes suffix shorter => exact ih rest.length (hn ▸ shorter) raw' rest rfl

theorem suffix_wholePass {final : Bool} {raw : Option RawElement} {text : Text} {pass : Pass}
    (h : wholePass final raw text = .ok pass) : pass.rest <:+ text := by
  refine wholePass_induction final (motive := fun raw text =>
    ∀ pass, wholePass final raw text = .ok pass → pass.rest <:+ text) ?_ raw text pass h
  intro raw text ih pass h
  have advances := step_advances final raw text
  rw [wholePass_eq] at h
  cases hs : step final raw text with
  | stops stopped =>
    rw [hs] at h advances
    cases h
    cases advances with
    | stops suffix => exact suffix
  | fails fault =>
    rw [hs] at h
    cases h
  | goes tokens raw' rest =>
    rw [hs] at h advances
    obtain ⟨further, found, rfl⟩ := exists_of_map_eq_ok h
    cases advances with
    | goes suffix shorter => exact (ih tokens raw' rest hs further found).trans suffix

theorem isFoundIn_of_wholePass {final : Bool} {raw : Option RawElement} {text : Text} {fault : Fault}
    (h : wholePass final raw text = .error fault) : fault.IsFoundIn text := by
  refine wholePass_induction final (motive := fun raw text =>
    wholePass final raw text = .error fault → fault.IsFoundIn text) ?_ raw text h
  intro raw text ih h
  have advances := step_advances final raw text
  rw [wholePass_eq] at h
  cases hs : step final raw text with
  | stops stopped =>
    rw [hs] at h
    cases h
  | fails found =>
    rw [hs] at h advances
    cases h
    cases advances with
    | fails found => exact found
  | goes tokens raw' rest =>
    rw [hs] at h advances
    cases advances with
    | goes suffix shorter => exact (ih tokens raw' rest hs (eq_error_of_map h)).of_isInfix suffix.isInfix

/-- A text is no document only for what is found in it. -/
theorem isFoundIn_of_ofText {text : Text} {fault : Fault} (h : ofText text = .error fault) :
    fault.IsFoundIn text := by
  change ((wholePass false none text).bind fun first =>
    (wholePass true first.raw first.rest).bind fun second => .ok _) = .error fault at h
  cases hf : wholePass false none text with
  | error found =>
    rw [hf] at h
    cases h
    exact isFoundIn_of_wholePass hf
  | ok first =>
    rw [hf] at h
    change ((wholePass true first.raw first.rest).bind fun second => .ok _) = .error fault at h
    cases hs : wholePass true first.raw first.rest with
    | error found =>
      rw [hs] at h
      cases h
      exact (isFoundIn_of_wholePass hs).of_isInfix (suffix_wholePass hf).isInfix
    | ok second =>
      rw [hs] at h
      cases h

theorem nameBeforePoint_prefix (name : Text) : nameBeforePoint name <+: name := by
  rw [nameBeforePoint, ← List.reverse_suffix, List.reverse_reverse]
  exact (List.drop_suffix _ _).trans (List.dropWhile_suffix _)

/-- The name of a reference from its first letter on. -/
def referenceName (text : Text) : Text :=
  if (text.dropWhile inReferenceName).isEmpty then nameBeforePoint (text.takeWhile inReferenceName)
  else text.takeWhile inReferenceName

theorem referenceName_prefix (text : Text) : referenceName text <+: text.takeWhile inReferenceName := by
  unfold referenceName
  split
  · exact nameBeforePoint_prefix _
  · exact List.prefix_rfl

/-- A reference that is no number is one by name, or its ampersand is data. -/
theorem readReference_cons (final : Bool) {c : Char} (number : c ≠ '#') (text : Text) :
    readReference final (c :: text) =
      if isAsciiLetter c then
        if (referenceName (c :: text)).isEmpty then
          .stop [] (if final && text.isEmpty then [c] else '&' :: c :: text)
        else .data (Reference.ofName (referenceName (c :: text)))
          (Reference.dropSemicolon ((c :: text).drop (referenceName (c :: text)).length)).2
      else .data ['&'] (c :: text) := by
  rw [readReference]
  · rfl
  · exact number

end Token

end DocExamples.Markup
