import DocExamples.Proofs.Markup.Progress
import DocExamples.Proofs.Text.Trim
import DocExamples.Markup.Tree

namespace DocExamples.Markup

open Text Effects

/-- The name of the reference that is written for a character with a meaning in markup. -/
def referenceName? (c : Char) : Option Text :=
  [('&', "amp".toList), ('<', "lt".toList), ('>', "gt".toList), ('"', "quot".toList)].lookup c

def escapeChar (c : Char) : Text :=
  match referenceName? c with
  | some name => '&' :: name ++ [';']
  | none => [c]

def escape (text : Text) : Text := text.flatMap escapeChar

def smallLetters : List Char := "abcdefghijklmnopqrstuvwxyz".toList

/-- A name of small letters. -/
structure IsPlainName (name : Text) : Prop where
  nonempty : name ≠ []
  letters : ∀ c ∈ name, c ∈ smallLetters

/-- What holds of the characters of a text is decided one by one, not for all characters there are. -/
theorem forall_mem_of_all {letters : Text} {p : Char → Prop} [DecidablePred p]
    (h : letters.all (fun c => decide (p c)) = true) : ∀ c ∈ letters, p c :=
  fun c hc => of_decide_eq_true (List.all_eq_true.mp h c hc)

theorem escape_cons (c : Char) (text : Text) : escape (c :: text) = escapeChar c ++ escape text :=
  List.flatMap_cons

/-- Every character is written as it is, or as a reference to it. -/
theorem escapeChar_cases (c : Char) :
    (escapeChar c = [c] ∧ c ≠ '&' ∧ c ≠ '<' ∧ c ≠ '"') ∨
      ∃ name, IsPlainName name ∧ name.length ≤ 32 ∧ named? name = some [c] ∧
        escapeChar c = '&' :: (name ++ [';']) := by
  by_cases ampersand : c = '&'
  · subst ampersand
    exact .inr ⟨"amp".toList, ⟨by decide, forall_mem_of_all (by decide)⟩, by decide, rfl, rfl⟩
  by_cases less : c = '<'
  · subst less
    exact .inr ⟨"lt".toList, ⟨by decide, forall_mem_of_all (by decide)⟩, by decide, rfl, rfl⟩
  by_cases greater : c = '>'
  · subst greater
    exact .inr ⟨"gt".toList, ⟨by decide, forall_mem_of_all (by decide)⟩, by decide, rfl, rfl⟩
  by_cases quote : c = '"'
  · subst quote
    exact .inr ⟨"quot".toList, ⟨by decide, forall_mem_of_all (by decide)⟩, by decide, rfl, rfl⟩
  refine .inl ⟨?_, ampersand, less, quote⟩
  simp [escapeChar, referenceName?, List.lookup_cons, beq_false_of_ne ampersand, beq_false_of_ne less,
    beq_false_of_ne greater, beq_false_of_ne quote]

section Names

variable {name : Text}

/-- What holds of the small letters holds of a plain name. -/
theorem IsPlainName.all (h : IsPlainName name) {p : Char → Bool}
    (hp : ∀ c ∈ smallLetters, p c = true) : name.all p = true :=
  List.all_eq_true.mpr fun c hc => hp c (h.letters c hc)

theorem IsPlainName.head (h : IsPlainName name) : ∃ c rest, name = c :: rest ∧ c ∈ smallLetters := by
  obtain ⟨c, rest, rfl⟩ := List.exists_cons_of_ne_nil h.nonempty
  exact ⟨c, rest, rfl, h.letters c List.mem_cons_self⟩

theorem lower_of_isPlainName (h : IsPlainName name) : lower name = name := by
  have same : ∀ c ∈ smallLetters, lowerChar c = [c] := forall_mem_of_all (by decide)
  have letters := h.letters
  clear h
  induction name with
  | nil => rfl
  | cons c name ih =>
    rw [lower, List.flatMap_cons, same c (letters c List.mem_cons_self)]
    change c :: lower name = c :: name
    rw [ih fun d hd => letters d (List.mem_cons_of_mem c hd)]

end Names

namespace Reference

theorem readInValue?_name {name value : Text} (h : IsPlainName name) (short : name.length ≤ 32)
    (known : named? name = some value) (rest : Text) :
    readInValue? (name ++ ';' :: rest) = some (.ok value, rest) := by
  obtain ⟨c, tail, rfl, letter⟩ := h.head
  have number : c ≠ '#' := by
    rintro rfl
    exact absurd letter (by decide)
  obtain ⟨taken, -⟩ := @takeWhile_append_of_stops (fun c => !endsName c) _ (';' :: rest)
    (h.all (forall_mem_of_all (by decide))) rfl
  rw [List.cons_append] at taken ⊢
  rw [readInValue?]
  · simp only [taken, List.take_of_length_le short]
    rw [← List.cons_append, List.drop_left]
    simp [dropSemicolon, nameInValue, known]
  · rintro text same
    exact number (List.cons.inj same).1

theorem decodeFrom_escape (fuel : Nat) (text : Text) (enough : (escape text).length ≤ fuel) :
    decodeFrom fuel (escape text) = .ok text := by
  induction text generalizing fuel with
  | nil => cases fuel <;> rfl
  | cons c text ih =>
    rw [escape_cons] at enough ⊢
    obtain ⟨same, ampersand, -, -⟩ | ⟨name, plain, short, known, same⟩ := escapeChar_cases c
    · rw [same] at enough ⊢
      cases fuel with
      | zero => simp at enough
      | succ fuel =>
        rw [List.singleton_append, decodeFrom, if_neg ampersand, ih fuel (by simpa using enough)]
        rfl
    · rw [same] at enough ⊢
      cases fuel with
      | zero => simp at enough
      | succ fuel =>
        have left : (escape text).length ≤ fuel := by
          simp only [List.length_append, List.length_cons] at enough
          omega
        rw [List.cons_append, List.append_assoc, List.singleton_append, decodeFrom, if_pos rfl,
          readInValue?_name plain short known]
        dsimp only
        rw [ih fuel left]
        rfl

theorem decode_escape (text : Text) : decode (escape text) = .ok text :=
  decodeFrom_escape _ text le_rfl

end Reference

theorem not_mem_escape {c : Char} (special : c = '<' ∨ c = '"') (text : Text) : c ∉ escape text := by
  rw [escape, List.mem_flatMap]
  rintro ⟨d, -, inside⟩
  obtain ⟨same, -, less, quote⟩ | ⟨name, plain, -, -, same⟩ := escapeChar_cases d
  · rw [same, List.mem_singleton] at inside
    subst inside
    exact special.elim less quote
  · rw [same, List.mem_cons, List.mem_append, List.mem_singleton] at inside
    have letters : ∀ d ∈ smallLetters, d ≠ '<' ∧ d ≠ '"' := forall_mem_of_all (by decide)
    rcases inside with rfl | inside | rfl
    · exact absurd special (by decide)
    · exact special.elim (letters c (plain.letters c inside)).1 (letters c (plain.letters c inside)).2
    · exact absurd special (by decide)

namespace Tag

def writeAttribute (pair : Text × Text) : Text :=
  ' ' :: pair.1 ++ "=\"".toList ++ escape pair.2 ++ ['"']

def write (tag : Tag) : Text :=
  '<' :: tag.name ++ tag.attributes.flatMap writeAttribute ++ ['>']

/-- A tag of which all names are plain. -/
structure IsPlain (tag : Tag) : Prop where
  name : IsPlainName tag.name
  attributes : ∀ pair ∈ tag.attributes, IsPlainName pair.1

theorem value?_written (before : Char) (value rest : Text) :
    value? ⟨before, "=\"".toList ++ escape value ++ '"' :: rest⟩ =
      some (escape value, ⟨'"', rest⟩) := by
  have cut : cutAt? '"' (escape value ++ '"' :: rest) = some (escape value, rest) :=
    cutAt?_eq_some_iff.mpr ⟨rfl, not_mem_escape (.inr rfl) value⟩
  change valueAfter? _ ['='] [] ('"' :: (escape value ++ '"' :: rest)) = _
  rw [valueAfter?, if_pos (by decide), cut]

theorem skipGaps_written (before : Char) {c : Char} (letter : c ∈ smallLetters) (text : Text) :
    Place.skipGaps before (' ' :: c :: text) = ⟨' ', c :: text⟩ := by
  have stands : ∀ c ∈ smallLetters, isBlank c = false ∧ (c == '/') = false :=
    forall_mem_of_all (by decide)
  have space : isBlank ' ' = true := by decide
  obtain ⟨blank, slash⟩ := stands c letter
  rw [Place.skipGaps, space, Place.skipGaps, blank, slash]
  rfl

theorem attributesFrom_written_cons {key : Text} (plain : IsPlainName key) (fuel : Nat) (before : Char)
    (value rest : Text) :
    attributesFrom (fuel + 1) (Place.skipGaps before (writeAttribute (key, value) ++ rest)) =
      ((key, escape value) :: (attributesFrom fuel (Place.skipGaps '"' rest)).1,
        (attributesFrom fuel (Place.skipGaps '"' rest)).2) := by
  obtain ⟨c, tail, rfl, letter⟩ := plain.head
  have shape : writeAttribute (c :: tail, value) ++ rest =
      ' ' :: c :: (tail ++ ("=\"".toList ++ escape value ++ '"' :: rest)) := by
    simp [writeAttribute]
  have starts (text : Text) : startsAttribute ⟨' ', c :: text⟩ = true := by
    have stands : ∀ c ∈ smallLetters, (!(isBlank c || c == '/' || c == '>')) = true :=
      forall_mem_of_all (by decide)
    exact stands c letter
  have named : tail.all inAttributeName = true := by
    refine List.all_eq_true.mpr fun d hd => ?_
    have stands : ∀ c ∈ smallLetters, inAttributeName c = true := forall_mem_of_all (by decide)
    exact stands d (plain.letters d (List.mem_cons_of_mem c hd))
  obtain ⟨taken, dropped⟩ := @takeWhile_append_of_stops _ _
    ("=\"".toList ++ escape value ++ '"' :: rest) named rfl
  rw [shape, skipGaps_written before letter, attributesFrom, if_pos (starts _)]
  simp only [List.tail_cons, taken, dropped, Place.past, value?_written, Option.getD_some]
  rw [List.take_succ_cons, List.take_zero, List.singleton_append, lower_of_isPlainName plain]

theorem length_le_flatMap_writeAttribute (attributes : List (Text × Text)) :
    attributes.length ≤ (attributes.flatMap writeAttribute).length := by
  induction attributes with
  | nil => exact le_rfl
  | cons pair attributes ih =>
    simp only [List.flatMap_cons, writeAttribute, List.length_append, List.length_cons]
    omega

/-- Attributes with their values as they are written. -/
def written (attributes : List (Text × Text)) : List (Text × Text) :=
  attributes.map fun pair => (pair.1, escape pair.2)

theorem decodeValues_written (attributes : List (Text × Text)) :
    decodeValues (written attributes) = .ok attributes := by
  induction attributes with
  | nil => rfl
  | cons pair attributes ih =>
    change decodeValues ((pair.1, escape pair.2) :: written attributes) = _
    rw [decodeValues, Reference.decode_escape, ih]
    rfl

/-- Attributes are read one by one up to the end of the tag. -/
theorem attributesFrom_written {attributes : List (Text × Text)}
    (plain : ∀ pair ∈ attributes, IsPlainName pair.1) {fuel : Nat}
    (enough : attributes.length ≤ fuel) (before : Char) (rest : Text) :
    ∃ last, attributesFrom fuel
      (Place.skipGaps before (attributes.flatMap writeAttribute ++ '>' :: rest)) =
        (written attributes, ⟨last, '>' :: rest⟩) := by
  induction attributes generalizing fuel before with
  | nil =>
    have blank : isBlank '>' = false := by decide
    have start : Place.skipGaps before ('>' :: rest) = ⟨before, '>' :: rest⟩ := by
      rw [Place.skipGaps, blank]
      rfl
    have ended : startsAttribute ⟨before, '>' :: rest⟩ = false := by
      simp [startsAttribute]
    refine ⟨before, ?_⟩
    rw [List.flatMap_nil, List.nil_append, start]
    cases fuel with
    | zero => rfl
    | succ fuel =>
      rw [attributesFrom, ended]
      rfl
  | cons pair attributes ih =>
    cases fuel with
    | zero => simp at enough
    | succ fuel =>
      obtain ⟨last, further⟩ := ih (fun pair h => plain pair (List.mem_cons_of_mem _ h))
        (Nat.le_of_succ_le_succ enough) '"'
      refine ⟨last, ?_⟩
      rw [List.flatMap_cons, List.append_assoc,
        attributesFrom_written_cons (plain pair List.mem_cons_self), further]
      rfl

/-- Skipping gaps after a name comes to where the reading of attributes starts. -/
theorem start_written (name : Text) (attributes : List (Text × Text))
    (plain : ∀ pair ∈ attributes, IsPlainName pair.1) (rest : Text) :
    let text := attributes.flatMap writeAttribute ++ '>' :: rest
    let gap := text.takeWhile fun c => isBlank c || c == '/'
    (Place.mk '<' []).past (name ++ gap) (text.drop gap.length) =
      Place.skipGaps (name.getLastD '<') text ∧ gap.getLast? ≠ some '/' := by
  have bracket : isBlank '>' = false := by decide
  have space : isBlank ' ' = true := by decide
  cases attributes with
  | nil =>
    dsimp only
    rw [List.flatMap_nil, List.nil_append, Place.skipGaps, bracket, List.takeWhile_cons, bracket]
    simp [Place.past]
  | cons pair attributes =>
    obtain ⟨key, value⟩ := pair
    obtain ⟨c, tail, rfl, letter⟩ := (plain _ List.mem_cons_self).head
    have stands : ∀ c ∈ smallLetters, (isBlank c || c == '/') = false := forall_mem_of_all (by decide)
    dsimp only
    rw [List.flatMap_cons, writeAttribute]
    simp only [List.cons_append, List.takeWhile_cons, space, stands c letter, skipGaps_written _ letter]
    simp [Place.past]

theorem read_written {tag : Tag} (plain : tag.IsPlain) (rest : Text) :
    read (tag.name ++ (tag.attributes.flatMap writeAttribute ++ '>' :: rest)) = .tag tag false rest := by
  obtain ⟨name, attributes⟩ := tag
  obtain ⟨namePlain, attributesPlain⟩ := plain
  dsimp only at namePlain attributesPlain ⊢
  obtain ⟨taken, dropped⟩ := @takeWhile_append_of_stops inName _
    (attributes.flatMap writeAttribute ++ '>' :: rest) (namePlain.all (forall_mem_of_all (by decide)))
    (by cases attributes <;> rfl)
  obtain ⟨start, gap⟩ := start_written name attributes attributesPlain rest
  have enough : attributes.length ≤
      (name ++ (attributes.flatMap writeAttribute ++ '>' :: rest)).length := by
    have written := length_le_flatMap_writeAttribute attributes
    simp only [List.length_append]
    omega
  obtain ⟨last, read⟩ := attributesFrom_written attributesPlain enough (name.getLastD '<') rest
  unfold Tag.read
  dsimp only at start gap ⊢
  rw [taken, dropped, start, read, lower_of_isPlainName namePlain]
  simp only [Reading.decoding, decodeValues_written]
  simp [written, gap]

end Tag

namespace Token

/-- Two sequences of tokens that do the same to every tree under construction. -/
def BuildsLike (found found' : List Token) : Prop :=
  ∀ b : Builder, found.foldl Builder.take b = found'.foldl Builder.take b

theorem BuildsLike.append {found found' more more' : List Token} (h : BuildsLike found found')
    (h' : BuildsLike more more') : BuildsLike (found ++ more) (found' ++ more') := by
  intro b
  rw [List.foldl_append, List.foldl_append, h b, h' _]

/-- Data in two tokens makes the string that it makes in one. -/
theorem buildsLike_data (text text' : Text) :
    BuildsLike [.data (text ++ text')] [.data text, .data text'] := by
  intro b
  simp [Builder.take]

/-- A pass at a text reads what builds like the given tokens and then goes on as at `rest`. -/
def ReadsTo (final : Bool) (text : Text) (found : List Token) (rest : Text) : Prop :=
  ∀ further, wholePass final none rest = .ok further →
    ∃ pass, wholePass final none text = .ok pass ∧ pass.raw = further.raw ∧ pass.rest = further.rest ∧
      BuildsLike pass.tokens (found ++ further.tokens)

namespace ReadsTo

variable {final : Bool} {text rest : Text} {found : List Token}

theorem refl (final : Bool) (text : Text) : ReadsTo final text [] text :=
  fun further read => ⟨further, read, rfl, rfl, fun _ => rfl⟩

theorem trans {more : List Token} {left : Text} (h : ReadsTo final text found left)
    (h' : ReadsTo final left more rest) : ReadsTo final text (found ++ more) rest := by
  intro further read
  obtain ⟨next, nextRead, nextRaw, nextRest, nextAlike⟩ := h' further read
  obtain ⟨pass, passRead, passRaw, passRest, passAlike⟩ := h next nextRead
  refine ⟨pass, passRead, passRaw.trans nextRaw, passRest.trans nextRest, ?_⟩
  intro b
  rw [passAlike b, List.append_assoc, BuildsLike.append (fun _ => rfl) nextAlike b]

theorem of_step (h : step final none text = .goes found none rest) : ReadsTo final text found rest := by
  intro further read
  refine ⟨further.after found, ?_, rfl, rfl, fun _ => rfl⟩
  rw [wholePass_of_step h, read]
  rfl

/-- A character without a meaning is data, and joins the data after it. -/
theorem plain {c : Char} (h : isSpecial c = false) (rest : Text) :
    ReadsTo final (c :: rest) [.data [c]] rest := by
  intro further read
  have kept : (!isSpecial c) = true := by rw [h]; rfl
  rw [wholePass_plain] at read
  obtain ⟨next, nextRead, rfl⟩ := exists_of_map_eq_ok read
  refine ⟨next.after (ofData (c :: rest.takeWhile fun c => !isSpecial c)), ?_, rfl, rfl, ?_⟩
  · rw [wholePass_plain, List.dropWhile_cons, List.takeWhile_cons, kept, if_pos rfl, if_pos rfl, nextRead]
    rfl
  · rw [Pass.after, Pass.after, ← List.append_assoc]
    refine BuildsLike.append ?_ fun _ => rfl
    cases rest.takeWhile fun c => !isSpecial c with
    | nil => exact fun _ => rfl
    | cons d run => exact buildsLike_data [c] (d :: run)

end ReadsTo

theorem readReference_name {name value : Text} (plain : IsPlainName name)
    (known : named? name = some value) (final : Bool) (rest : Text) :
    readReference final (name ++ ';' :: rest) = .data value rest := by
  obtain ⟨c, tail, rfl, letter⟩ := plain.head
  have stands : ∀ c ∈ smallLetters, isAsciiLetter c = true ∧ c ≠ '#' := forall_mem_of_all (by decide)
  obtain ⟨letterStarts, number⟩ := stands c letter
  obtain ⟨taken, dropped⟩ := @takeWhile_append_of_stops inReferenceName _ (';' :: rest)
    (plain.all (forall_mem_of_all (by decide))) rfl
  rw [List.cons_append] at taken dropped ⊢
  rw [readReference]
  · simp only [letterStarts, if_true, taken, dropped]
    rw [← List.cons_append, List.isEmpty_cons]
    simp [Reference.ofName, known, Reference.dropSemicolon]
  · exact number

theorem readsTo_escapeChar (final : Bool) (c : Char) (rest : Text) :
    ReadsTo final (escapeChar c ++ rest) [.data [c]] rest := by
  obtain ⟨same, ampersand, less, -⟩ | ⟨name, plain, -, known, same⟩ := escapeChar_cases c
  · rw [same]
    refine .plain ?_ rest
    simp [isSpecial, ampersand, less]
  · rw [same, List.cons_append, List.append_assoc]
    apply ReadsTo.of_step
    have special : (!isSpecial '&') = false := rfl
    rw [step, plainStep, List.dropWhile_cons, List.takeWhile_cons, special]
    change referenceStep final [] (name ++ ';' :: rest) = _
    rw [referenceStep, readReference_name plain known]
    rfl

/-- Written text is read as its characters. -/
theorem readsTo_escape (final : Bool) (text rest : Text) :
    ReadsTo final (escape text ++ rest) (text.map fun c => .data [c]) rest := by
  induction text with
  | nil => exact .refl final rest
  | cons c text ih =>
    rw [escape_cons, List.append_assoc, List.map_cons, ← List.singleton_append]
    exact (readsTo_escapeChar final c _).trans ih

theorem plainStep_markup (final : Bool) (text : Text) :
    plainStep final ('<' :: text) = markupStep final [] text := by
  have special : (!isSpecial '<') = false := rfl
  rw [plainStep, List.dropWhile_cons, List.takeWhile_cons, special]
  rfl

/-- What is read at a `<` is what a step reads. -/
theorem step_markup (final : Bool) {text rest : Text} {found : List Token} {raw : Option RawElement}
    (h : readMarkup? text = some (.tokens found raw rest)) :
    step final none ('<' :: text) = .goes found raw rest := by
  rw [step, plainStep_markup, markupStep, h]
  rfl

theorem step_start {tag : Tag} (plain : tag.IsPlain) (prose : RawElement.ofName? tag.name = none)
    (final : Bool) (rest : Text) : step final none (tag.write ++ rest) = .goes [.start tag false] none rest := by
  obtain ⟨c, tail, name, letter⟩ := plain.name.head
  have stands : ∀ c ∈ smallLetters, isAsciiLetter c = true ∧ c ≠ '/' ∧ c ≠ '?' ∧ c ≠ '!' :=
    forall_mem_of_all (by decide)
  obtain ⟨letterStarts, slash, question, exclamation⟩ := stands c letter
  have shape : tag.write ++ rest =
      '<' :: (tag.name ++ (tag.attributes.flatMap Tag.writeAttribute ++ '>' :: rest)) := by
    simp [Tag.write]
  have read := Tag.read_written plain rest
  have markup (text : Text) : readMarkup? (c :: text) = some (readStart (c :: text)) := by
    rw [readMarkup?]
    · rw [if_pos letterStarts]
    all_goals simp_all
  rw [shape]
  apply step_markup
  rw [name, List.cons_append, markup, readStart, ← List.cons_append, ← name, read]
  simp [prose]

theorem readsTo_start {tag : Tag} (plain : tag.IsPlain) (prose : RawElement.ofName? tag.name = none)
    (final : Bool) (rest : Text) : ReadsTo final (tag.write ++ rest) [.start tag false] rest :=
  .of_step (step_start plain prose final rest)

theorem readsTo_stop {name : Text} (plain : IsPlainName name) (final : Bool) (rest : Text) :
    ReadsTo final ('<' :: '/' :: name ++ '>' :: rest) [.stop name] rest := by
  obtain ⟨c, tail, rfl, letter⟩ := plain.head
  have stands : ∀ c ∈ smallLetters, isBlank c = false ∧ isAsciiLetter c = true :=
    forall_mem_of_all (by decide)
  obtain ⟨visible, letterStarts⟩ := stands c letter
  have bracket : isBlank '>' = false := by decide
  have cut : cutAt? '>' (c :: tail ++ '>' :: rest) = some (c :: tail, rest) := by
    refine cutAt?_eq_some_iff.mpr ⟨rfl, fun inside => ?_⟩
    exact absurd (plain.letters _ inside) (by decide)
  obtain ⟨taken, dropped⟩ := @takeWhile_append_of_stops inEndName _ ('>' :: rest)
    (plain.all (forall_mem_of_all (by decide))) rfl
  have ended : plainEnd? (c :: tail ++ '>' :: rest) = some (c :: tail, rest) := by
    have start : (c :: tail ++ '>' :: rest).dropWhile isBlank = c :: tail ++ '>' :: rest := by
      rw [List.cons_append, List.dropWhile_cons, visible]
      rfl
    rw [plainEnd?, start, taken, dropped, List.dropWhile_cons, bracket, lower_of_isPlainName plain]
    simp [letterStarts, after?]
  apply ReadsTo.of_step
  have read : readMarkup? ('/' :: (c :: tail ++ '>' :: rest)) = some (.tokens [.stop (c :: tail)] none rest) := by
    rw [readMarkup?, readEnd, cut]
    dsimp only
    rw [ended]
  exact step_markup final read

end Token

end DocExamples.Markup
