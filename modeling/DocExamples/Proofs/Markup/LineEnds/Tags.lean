import DocExamples.Proofs.Markup.Progress
import DocExamples.Proofs.Text.Softening

namespace DocExamples.Markup

open Text Relations
open List (Forall₂)

/-- Values of an attribute that is written with different line ends. -/
def LikeValue (lone : Prop) (value value' : Text) : Prop :=
  ∃ raw raw', Softens lone raw raw' ∧ Reference.decode raw = .ok value ∧ Reference.decode raw' = .ok value'

/-- Attributes with values that are not decoded. -/
def LikeRaw (lone : Prop) (pair pair' : Text × Text) : Prop :=
  pair.1 = pair'.1 ∧ Softens lone pair.2 pair'.2

def LikeAttribute (lone : Prop) (pair pair' : Text × Text) : Prop :=
  pair.1 = pair'.1 ∧ LikeValue lone pair.2 pair'.2

structure Tag.Alike (lone : Prop) (tag tag' : Tag) : Prop where
  name : tag.name = tag'.name
  attributes : Forall₂ (LikeAttribute lone) tag.attributes tag'.attributes

/-- What is left of two texts after parts that differ in line ends. -/
structure Leaves (lone : Prop) (t s left left' : Text) : Prop where
  taken : ∃ front front', t = front ++ left ∧ s = front' ++ left' ∧ Softens lone front front'
  left : Softens lone left left'

variable {lone : Prop} {t s left left' : Text}

namespace Leaves

theorem refl (h : Softens lone t s) : Leaves lone t s t s := ⟨⟨[], [], rfl, rfl, .nil⟩, h⟩

theorem trans {end' : Text} {fin : Text} (h : Leaves lone t s left left')
    (h' : Leaves lone left left' fin end') : Leaves lone t s fin end' := by
  obtain ⟨⟨front, front', rfl, rfl, fronts⟩, -⟩ := h
  obtain ⟨⟨middle, middle', rfl, rfl, middles⟩, ends⟩ := h'
  exact ⟨⟨front ++ middle, front' ++ middle', by simp, by simp, fronts.append middles⟩, ends⟩

theorem of_append {front front' : Text} (h : Softens lone front front') (h' : Softens lone left left') :
    Leaves lone (front ++ left) (front' ++ left') left left' :=
  ⟨⟨front, front', rfl, rfl, h⟩, h'⟩

theorem cons (c : Char) (h : Leaves lone t s left left') : Leaves lone (c :: t) (c :: s) left left' := by
  obtain ⟨⟨front, front', rfl, rfl, fronts⟩, ends⟩ := h
  exact ⟨⟨c :: front, c :: front', rfl, rfl, .same c fronts⟩, ends⟩

theorem pair (h : Leaves lone t s left left') :
    Leaves lone ('\r' :: '\n' :: t) ('\n' :: s) left left' := by
  obtain ⟨⟨front, front', rfl, rfl, fronts⟩, ends⟩ := h
  exact ⟨⟨'\r' :: '\n' :: front, '\n' :: front', rfl, rfl, .pair fronts⟩, ends⟩

theorem single (hl : lone) (h : Leaves lone t s left left') :
    Leaves lone ('\r' :: t) ('\n' :: s) left left' := by
  obtain ⟨⟨front, front', rfl, rfl, fronts⟩, ends⟩ := h
  exact ⟨⟨'\r' :: front, '\n' :: front', rfl, rfl, .single hl fronts⟩, ends⟩

theorem dropWhile (h : Softens lone t s) {p : Char → Bool} (hp : TakesLineEnds p) :
    Leaves lone t s (t.dropWhile p) (s.dropWhile p) :=
  ⟨⟨t.takeWhile p, s.takeWhile p, (List.takeWhile_append_dropWhile).symm,
    (List.takeWhile_append_dropWhile).symm, h.takeWhile hp⟩, h.dropWhile hp⟩

end Leaves

namespace Place

/-- Places in two texts up to which they differ in line ends. -/
structure Alike (lone : Prop) (t s : Text) (place place' : Place) : Prop where
  before : SoftChar place.before place'.before
  rest : Leaves lone t s place.rest place'.rest

theorem past_before {place place' : Place} {front front' : Text}
    (before : SoftChar place.before place'.before) (fronts : Softens lone front front') (left left' : Text) :
    SoftChar (place.past front left).before (place'.past front' left').before := by
  rw [Place.past, Place.past, List.getLastD_eq_getLast?, List.getLastD_eq_getLast?]
  exact rel_getD fronts.getLast? before

theorem skipGaps_alike (h : Softens lone t s) {before before' : Char} (hb : SoftChar before before') :
    Alike lone t s (skipGaps before t) (skipGaps before' s) := by
  have carriage : isBlank '\r' = true := by decide
  have newline : isBlank '\n' = true := by decide
  induction h generalizing before before' with
  | nil => exact ⟨hb, .refl .nil⟩
  | @same c t s h ih =>
    have next : t.head? = some '>' ↔ s.head? = some '>' := h.head?_eq_iff (by decide)
    have same : (t.head? != some '>') = (s.head? != some '>') := by
      rw [Bool.eq_iff_iff, bne_iff_ne, bne_iff_ne, Ne, Ne, next]
    rw [skipGaps, skipGaps, same]
    split
    · obtain ⟨befores, rest⟩ := ih (.inl rfl)
      exact ⟨befores, rest.cons c⟩
    · exact ⟨hb, .refl (.same c h)⟩
  | pair _ ih =>
    rw [skipGaps, carriage, skipGaps, newline, skipGaps, newline]
    obtain ⟨befores, rest⟩ := ih (.inl rfl)
    exact ⟨befores, rest.pair⟩
  | single hl _ ih =>
    rw [skipGaps, carriage, skipGaps, newline]
    obtain ⟨befores, rest⟩ := ih (.inr ⟨rfl, rfl⟩)
    exact ⟨befores, rest.single hl⟩

end Place

namespace Tag

theorem startsAttribute_eq {place place' : Place} (h : Place.Alike lone t s place place') :
    startsAttribute place = startsAttribute place' := by
  have quote := h.before.eq (p := isQuote) rfl
  have blank := h.before.eq (p := isBlank) (by decide)
  have slash := h.before.eq (p := (· == '/')) rfl
  rw [startsAttribute, startsAttribute, quote, blank, slash, h.rest.left.head?_any (by decide)]

/-- Values found in two texts, and the places after them. -/
def LikeFound (lone : Prop) (t s : Text) (found found' : Text × Place) : Prop :=
  Softens lone found.1 found'.1 ∧ Place.Alike lone t s found.2 found'.2

theorem bareValue_alike {start start' : Text} {place place' : Place}
    (before : SoftChar place.before place'.before)
    (rest : Leaves lone t s (start.dropWhile inBareValue) (start'.dropWhile inBareValue))
    (h : Softens lone start start') :
    Option.Rel (LikeFound lone t s)
      (some (start.takeWhile inBareValue,
        place.past (start.takeWhile inBareValue) (start.dropWhile inBareValue)))
      (some (start'.takeWhile inBareValue,
        place'.past (start'.takeWhile inBareValue) (start'.dropWhile inBareValue))) := by
  have run := h.takeWhile (p := inBareValue) (by decide)
  exact .some ⟨run, Place.past_before before run _ _, rest⟩

theorem valueAfter?_alike {place place' : Place} (before : SoftChar place.before place'.before)
    (signs : Text) {gap gap' : Text} (gaps : Softens lone gap gap') (h : Softens lone t s) :
    Option.Rel (LikeFound lone t s) (valueAfter? place signs gap t) (valueAfter? place' signs gap' s) := by
  have bare {start start' : Text} (h : Softens lone start start') :
      Leaves lone start start' (start.dropWhile inBareValue) (start'.dropWhile inBareValue) :=
    .dropWhile h (by decide)
  have inner : inBareValue '\r' = false ∧ isQuote '\r' = false ∧ isQuote '\n' = false := by decide
  have unquoted {start start' : Text} (h : Softens lone start start') :
      Option.Rel (LikeFound lone start start')
        (some (start.takeWhile inBareValue,
          place.past (start.takeWhile inBareValue) (start.dropWhile inBareValue)))
        (some (start'.takeWhile inBareValue,
          place'.past (start'.takeWhile inBareValue) (start'.dropWhile inBareValue))) :=
    bareValue_alike before (bare h) h
  cases h with
  | nil => exact unquoted .nil
  | pair h =>
    rw [valueAfter?, valueAfter?, inner.2.1, inner.2.2]
    exact unquoted (.pair h)
  | single hl h =>
    rw [valueAfter?, valueAfter?, inner.2.1, inner.2.2]
    exact unquoted (.single hl h)
  | @same q t s h =>
    rw [valueAfter?, valueAfter?]
    split
    · next quote =>
      have kept : isInner q = true := by
        rcases (by simpa [isQuote] using quote : q = '\x27' ∨ q = '\x22') with rfl | rfl <;> decide
      have cut := h.cutAt? kept
      generalize hf : cutAt? q t = found at cut
      generalize hf' : cutAt? q s = found' at cut
      cases cut with
      | @some parts parts' parted =>
        obtain ⟨rfl, -⟩ := cutAt?_eq_some_iff.mp hf
        obtain ⟨rfl, -⟩ := cutAt?_eq_some_iff.mp hf'
        have through : Leaves lone (parts.1 ++ q :: parts.2) (parts'.1 ++ q :: parts'.2) parts.2 parts'.2 :=
          (Leaves.of_append parted.1 (.same q parted.2)).trans ((Leaves.refl parted.2).cons q)
        exact .some ⟨parted.1, .inl rfl, through.cons q⟩
      | none =>
        have whole : Leaves lone (q :: t) (q :: s) (q :: t) (q :: s) := .refl (.same q h)
        dsimp only
        rw [gaps.isEmpty]
        split
        · exact .some ⟨.nil, Place.past_before before gaps _ _, whole⟩
        · split
          · -- The last of several equals signs and the quote belong to a bare value.
            have sign : inBareValue '=' = true := by decide
            have same (text : Text) : ('=' :: text).dropWhile inBareValue = text.dropWhile inBareValue := by
              rw [List.dropWhile_cons_of_pos sign]
            refine bareValue_alike before ?_ (.same '=' (.same q h))
            rw [same, same]
            exact bare (.same q h)
          · exact .none
    · exact unquoted (.same q h)

theorem value?_alike {place place' : Place} (before : SoftChar place.before place'.before)
    (h : Softens lone place.rest place'.rest) :
    Option.Rel (LikeFound lone place.rest place'.rest) (value? place) (value? place') := by
  have blanks : TakesLineEnds isBlank := by decide
  have sign : TakesLineEnds (· == '=') := rfl
  have text := h.dropWhile blanks
  have signs := text.takeWhile_eq (p := (· == '=')) rfl rfl
  have rest := text.dropWhile sign
  have gaps := rest.takeWhile blanks
  have through := (Leaves.dropWhile h blanks).trans ((Leaves.dropWhile text sign).trans
    (.dropWhile rest blanks))
  unfold value?
  dsimp only
  rw [signs]
  split
  · exact .none
  · refine rel_imp (valueAfter?_alike ?_ _ gaps (rest.dropWhile blanks)) ?_
    · exact Place.past_before before ((Softens.refl lone _).append gaps) _ _
    · rintro found found' ⟨value, after⟩
      exact ⟨value, after.before, through.trans after.rest⟩

theorem getD_value?_alike {place place' : Place} (before : SoftChar place.before place'.before)
    (h : Softens lone place.rest place'.rest) :
    LikeFound lone place.rest place'.rest ((value? place).getD ([], place))
      ((value? place').getD ([], place')) :=
  rel_getD (value?_alike before h) ⟨.nil, before, .refl h⟩

theorem exists_of_startsAttribute {place place' : Place} (h : Softens lone place.rest place'.rest)
    (starts : startsAttribute place = true) :
    ∃ c t s, place.rest = c :: t ∧ place'.rest = c :: s ∧ Softens lone t s := by
  obtain ⟨before, rest⟩ := place
  obtain ⟨before', rest'⟩ := place'
  have visible : isBlank '\r' = true := by decide
  dsimp only at h ⊢
  cases h with
  | nil => simp [startsAttribute] at starts
  | same c h => exact ⟨c, _, _, rfl, rfl, h⟩
  | pair h => simp [startsAttribute, visible] at starts
  | single hl h => simp [startsAttribute, visible] at starts

/-- Line ends do not matter to whether values can be decoded. -/
theorem decodeValues_alike {raws raws' : List (Text × Text)} (h : Forall₂ (LikeRaw lone) raws raws') :
    ResultRel (Forall₂ (LikeAttribute lone)) (decodeValues raws) (decodeValues raws') := by
  induction h with
  | nil => exact .ok .nil
  | @cons pair pair' raws raws' same _ ih =>
    obtain ⟨name, raw⟩ := pair
    obtain ⟨name', raw'⟩ := pair'
    obtain ⟨rfl, soft⟩ := same
    rw [decodeValues, decodeValues]
    have overlong := Reference.overlong?_eq soft
    rcases Reference.decode_cases raw with ⟨digits, failed, found⟩ | ⟨value, decoded, none⟩ <;>
      rcases Reference.decode_cases raw' with ⟨digits', failed', found'⟩ | ⟨value', decoded', none'⟩
    · obtain rfl := Option.some.inj (found.symm.trans (overlong.trans found'))
      rw [failed, failed']
      exact .error digits
    · cases found.symm.trans (overlong.trans none')
    · cases none.symm.trans (overlong.trans found')
    · rw [decoded, decoded']
      exact ih.map fun _ _ further => .cons ⟨rfl, raw, raw', soft, decoded, decoded'⟩ further

/-- Attributes read in two texts, and the places after them. -/
structure LikeAttributes (lone : Prop) (t s : Text) (read read' : List (Text × Text) × Place) : Prop where
  attributes : Forall₂ (LikeRaw lone) read.1 read'.1
  last : Place.Alike lone t s read.2 read'.2

theorem attributesFrom_alike (fuel : Nat) {place place' : Place}
    (before : SoftChar place.before place'.before) (h : Softens lone place.rest place'.rest) :
    LikeAttributes lone place.rest place'.rest (attributesFrom fuel place) (attributesFrom fuel place') := by
  induction fuel generalizing place place' with
  | zero => exact ⟨.nil, before, .refl h⟩
  | succ fuel ih =>
    rw [attributesFrom, attributesFrom, startsAttribute_eq ⟨before, .refl h⟩]
    split
    · next starts =>
      rw [← startsAttribute_eq ⟨before, .refl h⟩] at starts
      obtain ⟨c, t, s, ht, hs, rest⟩ := exists_of_startsAttribute h starts
      have name := rest.takeWhile_eq (p := inAttributeName) (by decide) (by decide)
      rw [ht, hs, List.tail_cons, List.tail_cons, List.take_succ_cons, List.take_succ_cons, name]
      have named : SoftChar
          (place.past ([c] ++ s.takeWhile inAttributeName) (t.dropWhile inAttributeName)).before
          (place'.past ([c] ++ s.takeWhile inAttributeName) (s.dropWhile inAttributeName)).before :=
        Place.past_before before (.refl lone _) _ _
      have through : Leaves lone (c :: t) (c :: s) (t.dropWhile inAttributeName)
          (s.dropWhile inAttributeName) := (Leaves.dropWhile rest (by decide)).cons c
      have valued := getD_value?_alike named through.left
      have gaps := Place.skipGaps_alike valued.2.rest.left valued.2.before
      obtain ⟨further, last⟩ := ih gaps.before gaps.rest.left
      refine ⟨.cons ⟨rfl, valued.1⟩ further, last.before, ?_⟩
      exact through.trans (valued.2.rest.trans (gaps.rest.trans last.rest))
    · exact ⟨.nil, before, .refl h⟩

/-- Start tags read from two texts. -/
inductive Reading.Alike (lone : Prop) (t s : Text) : Reading → Reading → Prop
  | tag {tag tag' : Tag} {closed : Bool} {rest rest' : Text} (same : tag.Alike lone tag')
    (left : Softens lone rest rest') : Alike lone t s (.tag tag closed rest) (.tag tag' closed rest')
  | broken {rest rest' : Text} (left : Leaves lone t s rest rest') :
    Alike lone t s (.broken rest) (.broken rest')
  | incomplete : Alike lone t s .incomplete .incomplete
  | overlong (digits : Nat) : Alike lone t s (.overlong digits) (.overlong digits)

theorem Reading.Alike.decoding_alike {raws raws' : List (Text × Text)} (h : Forall₂ (LikeRaw lone) raws raws')
    {reading reading' : List (Text × Text) → Reading}
    (same : ∀ decoded decoded', Forall₂ (LikeAttribute lone) decoded decoded' →
      Reading.Alike lone t s (reading decoded) (reading' decoded')) :
    Reading.Alike lone t s (.decoding raws reading) (.decoding raws' reading') := by
  have values := decodeValues_alike h
  unfold Reading.decoding
  generalize decodeValues raws = decoded at values ⊢
  generalize decodeValues raws' = decoded' at values ⊢
  cases values with
  | ok related => exact same _ _ related
  | error digits => exact .overlong digits

/-- How the reading of a start tag ends after its attributes. -/
def ending (name : Text) (raws : List (Text × Text)) (closed : Bool) : Text → Reading
  | [] => .incomplete
  | '>' :: rest => .decoding raws (.tag ⟨name, ·⟩ closed rest)
  | '/' :: '>' :: rest => .decoding raws (.tag ⟨name, ·⟩ true rest)
  | c :: rest =>
    if isAsciiLetter c || c == '=' || c == '/' then .incomplete else .decoding raws fun _ => .broken (c :: rest)

theorem ending_alike {raws raws' : List (Text × Text)} (same : Forall₂ (LikeRaw lone) raws raws')
    (name : Text) (closed : Bool) (h : Leaves lone t s left left') :
    Reading.Alike lone t s (ending name raws closed left) (ending name raws' closed left') := by
  obtain ⟨taken, h⟩ := h
  have tags {rest rest' : Text} (closed : Bool) (h : Softens lone rest rest') :
      Reading.Alike lone t s (.decoding raws (.tag ⟨name, ·⟩ closed rest))
        (.decoding raws' (.tag ⟨name, ·⟩ closed rest')) :=
    .decoding_alike same fun _ _ attributes => .tag ⟨rfl, attributes⟩ h
  have breaks {rest rest' : Text} (h : Leaves lone t s rest rest') :
      Reading.Alike lone t s (.decoding raws fun _ => .broken rest) (.decoding raws' fun _ => .broken rest') :=
    .decoding_alike same fun _ _ _ => .broken h
  cases h with
  | nil => exact .incomplete
  | pair h => exact breaks ⟨taken, .pair h⟩
  | single hl h => exact breaks ⟨taken, .single hl h⟩
  | @same c t s h =>
    by_cases bracket : c = '>'
    · subst bracket
      exact tags closed h
    · by_cases slash : c = '/'
      · subst slash
        cases h with
        | nil => exact .incomplete
        | pair => exact .incomplete
        | single => exact .incomplete
        | @same d t s h =>
          by_cases bracket : d = '>'
          · subst bracket
            exact tags true h
          · have stays (raws : List (Text × Text)) (rest : Text) :
                ending name raws closed ('/' :: d :: rest) = .incomplete := by
              rw [ending]
              · rfl
              all_goals simp_all
            rw [stays, stays]
            exact .incomplete
      · have stays (raws : List (Text × Text)) (rest : Text) : ending name raws closed (c :: rest) =
            if isAsciiLetter c || c == '=' || c == '/' then .incomplete
            else .decoding raws fun _ => .broken (c :: rest) := by
          rw [ending]
          all_goals simp_all
        rw [stays, stays]
        split
        · exact .incomplete
        · exact breaks ⟨taken, .same c h⟩

/-- Where the attributes of a tag start, and what stands before them after the name. -/
def afterName (text : Text) : Text × Place :=
  let gap := (text.dropWhile inName).takeWhile fun c => isBlank c || c == '/'
  (gap, (Place.mk '<' []).past (text.takeWhile inName ++ gap)
    ((text.dropWhile inName).dropWhile fun c => isBlank c || c == '/'))

theorem read_eq {fuel : Nat} (text : Text) (enough : text.length ≤ fuel) :
    read text =
      ending (lower (text.takeWhile inName)) (attributesFrom fuel (afterName text).2).1
        ((attributesFrom fuel (afterName text).2).1.isEmpty && (afterName text).1.getLast? == some '/')
        (attributesFrom fuel (afterName text).2).2.rest := by
  have inside : (afterName text).2.rest.length ≤ text.length :=
    ((List.dropWhile_suffix _).trans (List.dropWhile_suffix _)).length_le
  rw [attributesFrom_fuel (inside.trans enough) inside, read, afterName]
  dsimp only
  rw [drop_length_takeWhile]
  unfold ending
  rfl

theorem afterName_alike (h : Softens lone t s) :
    Softens lone (afterName t).1 (afterName s).1 ∧ Place.Alike lone t s (afterName t).2 (afterName s).2 := by
  have inGap : TakesLineEnds fun c => isBlank c || c == '/' := by decide
  have inName' : TakesLineEnds inName := by decide
  have rest := h.dropWhile inName'
  have gaps := rest.takeWhile inGap
  refine ⟨gaps, Place.past_before (.inl rfl) ((h.takeWhile inName').append gaps) _ _, ?_⟩
  exact (Leaves.dropWhile h inName').trans (.dropWhile rest inGap)

theorem read_alike (h : Softens lone t s) : Reading.Alike lone t s (read t) (read s) := by
  obtain ⟨gaps, start⟩ := afterName_alike h
  obtain ⟨attributes, last⟩ := attributesFrom_alike t.length start.before start.rest.left
  have empty := isEmpty_eq attributes
  have closed : ((afterName t).1.getLast? == some '/') = ((afterName s).1.getLast? == some '/') := by
    rw [Bool.eq_iff_iff, beq_iff_eq, beq_iff_eq, gaps.getLast?_eq_iff (by decide)]
  have name : t.takeWhile inName = s.takeWhile inName := h.takeWhile_eq (by decide) (by decide)
  rw [read_eq t le_rfl, read_eq s h.length_le, empty, closed, name]
  exact ending_alike attributes _ _ (start.rest.trans last.rest)

end Tag

end DocExamples.Markup
