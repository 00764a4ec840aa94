import DocExamples.Proofs.Markup.Progress

namespace DocExamples.Markup

open Text Effects

/-- The weight of a character. -/
def weigh (c : Char) : Nat := if c = '&' then 2 else if c = '[' || isBlank c then 1 else 0

def weight : Text → Nat
  | [] => 0
  | c :: text => weigh c + weight text

section Weight

variable {text text' : Text}

theorem weigh_le (c : Char) : weigh c ≤ 2 := by
  unfold weigh
  split
  · exact le_rfl
  · split <;> omega

theorem weight_cons (c : Char) (text : Text) : weight (c :: text) = weigh c + weight text := rfl

theorem weight_append (text text' : Text) : weight (text ++ text') = weight text + weight text' := by
  induction text with
  | nil => exact (Nat.zero_add _).symm
  | cons c text ih => rw [List.cons_append, weight_cons, weight_cons, ih, Nat.add_assoc]

theorem weight_le_of_sublist (h : text.Sublist text') : weight text ≤ weight text' := by
  induction h with
  | slnil => exact le_rfl
  | cons c _ ih =>
    rw [weight_cons]
    omega
  | cons_cons c _ ih =>
    rw [weight_cons, weight_cons]
    omega

theorem weight_le_of_suffix (h : text <:+ text') : weight text ≤ weight text' :=
  weight_le_of_sublist h.sublist

/-- What the string of a text weighs at most: nothing comes to a space. -/
def held (text : Text) : Nat := if text = [] then 1 else weight text

theorem held_of_ne_nil (h : text ≠ []) : held text = weight text := if_neg h

theorem held_le (text : Text) : held text ≤ weight text + 1 := by
  unfold held
  split <;> omega

theorem weight_le_held (text : Text) : weight text ≤ held text := by
  unfold held
  split
  · next empty =>
    rw [empty]
    exact Nat.zero_le 1
  · exact le_rfl

theorem held_append_le (text text' : Text) : held (text ++ text') ≤ held text + held text' := by
  by_cases empty : text = []
  · rw [empty, List.nil_append]
    omega
  · rw [held_of_ne_nil (List.append_ne_nil_of_left_ne_nil empty text'), weight_append]
    have first := weight_le_held text
    have second := weight_le_held text'
    omega

end Weight

/-- A name stands for characters that weigh no more than its ampersand. -/
theorem weight_named? {name value : Text} (h : named? name = some value) : weight value ≤ 2 := by
  have pairs : pairNames.all (fun entry =>
      weight [Char.ofNat entry.2.1, Char.ofNat entry.2.2] ≤ 2) = true := by
    decide +kernel
  rcases value_of_named? h with ⟨c, rfl⟩ | ⟨entry, mem, rfl⟩
  · exact weigh_le c
  · simpa using List.all_eq_true.mp pairs entry mem

namespace Token

/-- What the string of a token weighs at most. -/
def load : Token → Nat
  | .data text => held text
  | .aside kind text => if kind = .cdata then held text else 0
  | .start _ _ | .stop _ => 0

def loads : List Token → Nat
  | [] => 0
  | token :: tokens => token.load + loads tokens

variable {text inside rest : Text} {found : List Token}

theorem loads_append (found found' : List Token) : loads (found ++ found') = loads found + loads found' := by
  induction found with
  | nil => exact (Nat.zero_add _).symm
  | cons token found ih => rw [List.cons_append, loads, loads, ih, Nat.add_assoc]

theorem loads_singleton (token : Token) : loads [token] = load token := Nat.add_zero _

theorem loads_data (c : Char) (text : Text) : loads [.data (c :: text)] = weigh c + weight text := by
  rw [loads_singleton, load, held_of_ne_nil (List.cons_ne_nil c text), weight_cons]

theorem loads_ofData (text : Text) : loads (ofData text) = weight text := by
  cases text with
  | nil => rfl
  | cons c text => exact (loads_data c text).trans (weight_cons c text).symm

theorem sublist_cutClose? {opening : Text} {middle : Option Char}
    (h : cutClose? opening middle text = some (inside, rest)) : (inside ++ rest).Sublist text := by
  induction text generalizing inside with
  | nil => cases h
  | cons c text ih =>
    have suffix := suffix_cutClose? h
    rw [cutClose?] at h
    dsimp only at h
    split at h
    · cases h
      exact suffix.sublist
    · obtain ⟨⟨before, left⟩, further, same⟩ := Option.map_eq_some_iff.mp h
      cases same
      exact (ih further).cons_cons c

theorem append_of_cutRaw? {raw : RawElement} (h : cutRaw? raw text = some (inside, rest)) :
    inside ++ rest = text := by
  induction text generalizing inside with
  | nil => cases h
  | cons c text ih =>
    rw [cutRaw?] at h
    dsimp only at h
    split at h
    · cases h
      rfl
    · obtain ⟨⟨before, left⟩, further, same⟩ := Option.map_eq_some_iff.mp h
      cases same
      rw [List.cons_append, ih further]

/-- A plain end tag goes up to the first `>`. -/
theorem cutAt?_of_plainEnd? {name : Text} (h : plainEnd? text = some (name, rest)) :
    ∃ inside, cutAt? '>' text = some (inside, rest) := by
  unfold plainEnd? at h
  dsimp only at h
  split at h
  · obtain ⟨left, ended, same⟩ := Option.map_eq_some_iff.mp h
    cases same
    rw [after?_eq_some_iff] at ended
    have apart {p : Char → Bool} (hp : p '>' = false) (text : Text) : '>' ∉ text.takeWhile p := by
      intro mem
      rw [List.mem_takeWhile_imp mem] at hp
      cases hp
    have gap := apart (p := isBlank) (by decide)
    have word := apart (p := inEndName) (by decide)
    have last := List.takeWhile_append_dropWhile (p := isBlank)
      (l := (text.dropWhile isBlank).dropWhile inEndName)
    refine ⟨text.takeWhile isBlank ++ ((text.dropWhile isBlank).takeWhile inEndName ++
      ((text.dropWhile isBlank).dropWhile inEndName).takeWhile isBlank), ?_⟩
    rw [cutAt?_eq_some_iff]
    constructor
    · rw [List.append_assoc, List.append_assoc, ← List.singleton_append, ← ended, last,
        List.takeWhile_append_dropWhile, List.takeWhile_append_dropWhile]
    · simp only [List.mem_append, not_or]
      exact ⟨gap _, word _, gap _⟩
  · cases h

namespace Reading

/-- A reading of a text whose tokens and rest weigh no more than the text. -/
def Keeps (text : Text) (reading : Reading) : Prop :=
  ∀ found raw rest, reading = .tokens found raw rest → loads found + weight rest ≤ weight text

theorem Keeps.of_rest {raw : Option RawElement} (h : loads found + weight rest ≤ weight text) :
    Keeps text (tokens found raw rest) := by
  intro _ _ _ same
  cases same
  exact h

/-- Tokens without a string weigh nothing. -/
theorem Keeps.of_suffix {raw : Option RawElement} (silent : loads found = 0) (h : rest <:+ text) :
    Keeps text (tokens found raw rest) := by
  have rest := weight_le_of_suffix h
  exact .of_rest (by omega)

theorem Keeps.incomplete (text : Text) : Keeps text incomplete := by
  intro _ _ _ same
  cases same

theorem Keeps.fails (text : Text) (fault : Fault) : Keeps text (fails fault) := by
  intro _ _ _ same
  cases same

theorem Keeps.cons {reading : Reading} (h : Keeps text reading) (c : Char) : Keeps (c :: text) reading := by
  intro found raw rest same
  have kept := h found raw rest same
  rw [weight_cons]
  omega

end Reading

open Reading

theorem keeps_readAside {kind : AsideKind} {found : Option (Text × Text)} (silent : kind ≠ .cdata)
    (h : ∀ inside rest, found = some (inside, rest) → rest <:+ text) : Keeps text (readAside kind found) := by
  cases found with
  | none => exact .incomplete text
  | some parts =>
    refine .of_suffix ?_ (h parts.1 parts.2 rfl)
    rw [loads_singleton, load, if_neg silent]

/-- The bracket before a section weighs as much as the space that is put for an empty one. -/
theorem keeps_sectionAside {found : Option (Text × Text)}
    (h : ∀ inside rest, found = some (inside, rest) → (inside ++ rest).Sublist text) :
    Keeps ('[' :: text) (sectionAside found) := by
  cases found with
  | none => exact .incomplete _
  | some parts =>
    obtain ⟨inside, rest⟩ := parts
    have both := weight_le_of_sublist (h inside rest rfl)
    have bracket : weigh '[' = 1 := by decide
    rw [weight_append] at both
    rw [sectionAside]
    split
    · have string := held_le (inside.drop 6)
      have shorter := weight_le_of_suffix (List.drop_suffix 6 inside)
      refine .of_rest ?_
      rw [loads_singleton, load, if_pos rfl, weight_cons, bracket]
      omega
    · refine .of_rest ?_
      rw [loads_singleton, load, if_neg (by decide), weight_cons]
      omega

theorem keeps_readSection (text : Text) : Keeps ('[' :: text) (readSection text) := by
  unfold readSection
  split
  · exact .incomplete _
  · split
    · dsimp only
      split
      · exact .incomplete _
      · split
        · exact keeps_sectionAside fun _ _ => sublist_cutClose?
        · split
          · exact keeps_sectionAside fun _ _ => sublist_cutClose?
          · exact .fails _ _
    · exact .fails _ _

theorem keeps_readDeclaration (text : Text) : Keeps text (readDeclaration text) := by
  unfold readDeclaration
  split
  · next text =>
    exact ((keeps_readAside (by decide) fun _ _ => suffix_cutClose?).cons '-').cons '-'
  · next text => exact keeps_readSection text
  · split
    · exact keeps_readAside (by decide) fun _ _ cut =>
        (Tag.suffix_cutAt? cut).trans (List.drop_suffix 7 text)
    · exact keeps_readAside (by decide) fun _ _ => Tag.suffix_cutAt?

theorem keeps_readEnd (text : Text) : Keeps text (readEnd text) := by
  unfold readEnd
  split
  · exact .incomplete text
  · next inside rest cut =>
    split
    · next name left plain => exact .of_suffix rfl (suffix_plainEnd? plain)
    · have cutEnd := Tag.suffix_cutAt? cut
      split
      · exact .of_suffix rfl cutEnd
      · split <;> exact .of_suffix rfl cutEnd

theorem keeps_readRawEnd (raw : RawElement) (text : Text) :
    Keeps ('<' :: '/' :: text) (readRawEnd raw text) := by
  have data {inside rest : Text} (cut : cutAt? '>' text = some (inside, rest)) :
      loads [.data ('<' :: '/' :: inside ++ ['>'])] + weight rest ≤ weight ('<' :: '/' :: text) := by
    obtain ⟨rfl, -⟩ := cutAt?_eq_some_iff.mp cut
    rw [List.cons_append, loads_data]
    simp only [weight_append, weight_cons, List.cons_append]
    have none : weight [] = 0 := rfl
    omega
  unfold readRawEnd
  split
  · exact .incomplete _
  · next inside rest cut =>
    split
    · next name left plain =>
      obtain ⟨before, cut'⟩ := cutAt?_of_plainEnd? plain
      rw [cut] at cut'
      cases cut'
      split
      · exact ((Keeps.of_suffix rfl (suffix_plainEnd? plain)).cons '/').cons '<'
      · exact .of_rest (data cut)
    · exact .of_rest (data cut)

theorem keeps_readStart (text : Text) : Keeps ('<' :: text) (readStart text) := by
  have left (rest : Text) : (Tag.read text).rest? = some rest → rest <:+ text := Tag.suffix_read
  unfold readStart
  split
  · next found =>
    rw [found] at left
    exact (Keeps.of_suffix rfl (left _ rfl)).cons '<'
  · next rest found =>
    rw [found] at left
    obtain ⟨before, rfl⟩ := left rest rfl
    refine .of_rest ?_
    rw [loads_data, weight_cons, List.length_append, Nat.add_sub_cancel, List.take_left, weight_append]
    omega
  · exact .incomplete _
  · exact .fails _ _

theorem keeps_readMarkup? {reading : Reading} (h : readMarkup? text = some reading) :
    Keeps ('<' :: text) reading := by
  unfold readMarkup? at h
  split at h
  · cases h
  · cases h
    exact ((keeps_readEnd _).cons '/').cons '<'
  · cases h
    exact ((keeps_readAside (by decide) fun _ _ => Tag.suffix_cutAt?).cons '?').cons '<'
  · cases h
    exact ((keeps_readDeclaration _).cons '!').cons '<'
  · split at h
    · cases h
      exact keeps_readStart _
    · cases h
      refine .of_rest ?_
      rw [loads_data, weight_cons]
      exact le_rfl

theorem weight_salvage_le (text : Text) :
    loads [.data (salvage text).1] + weight (salvage text).2 ≤ weight ('<' :: text) := by
  have none : weight [] = 0 := rfl
  unfold salvage
  split
  · next inside rest cut =>
    obtain ⟨rfl, -⟩ := cutAt?_eq_some_iff.mp cut
    rw [List.cons_append, loads_data]
    simp only [weight_append, weight_cons]
    omega
  · split
    · next inside rest cut =>
      obtain ⟨rfl, -⟩ := cutAt?_eq_some_iff.mp cut
      rw [loads_data]
      simp only [weight_append, weight_cons]
      omega
    · rw [loads_data]
      exact le_rfl

/-- What a reference stands for and what follows it weigh no more than it and its ampersand. -/
def ReferenceReading.Keeps (text : Text) : ReferenceReading → Prop
  | .data value rest | .stop value rest => weight value + weight rest ≤ weight ('&' :: text)
  | .fails _ => True

theorem weigh_ampersand : weigh '&' = 2 := by decide

theorem keeps_readNumber (text : Text) : (readNumber text).Keeps ('#' :: text) := by
  rcases readNumber_cases text with ⟨c, rest, read, suffix⟩ | read | read | ⟨count, read, -⟩
  · have value := weigh_le c
    have left := weight_le_of_suffix suffix
    rw [read, ReferenceReading.Keeps]
    simp only [weight_cons, weigh_ampersand]
    have none : weight [] = 0 := rfl
    omega
  · rw [read, ReferenceReading.Keeps, ← weight_append]
    exact le_rfl
  · rw [read, ReferenceReading.Keeps, ← weight_append]
    exact le_rfl
  · rw [read]
    exact trivial

/-- A name stands for no more than its ampersand, or for itself after it. -/
theorem weight_ofName_le (name : Text) : weight (Reference.ofName name) ≤ 2 + weight name := by
  rw [Reference.ofName]
  cases known : named? name with
  | none =>
    rw [Option.getD_none, weight_cons, weigh_ampersand]
  | some value =>
    have value := weight_named? known
    rw [Option.getD_some]
    omega

theorem keeps_readReference (final : Bool) (text : Text) : (readReference final text).Keeps text := by
  cases text with
  | nil => exact le_rfl
  | cons c text =>
    by_cases number : c = '#'
    · rw [number]
      exact keeps_readNumber text
    · rw [readReference_cons final number]
      split
      · split
        · split
          · next last =>
            rw [ReferenceReading.Keeps, weight_cons '&', weight_cons c, weight_cons c]
            have none : weight [] = 0 := rfl
            omega
          · exact le_of_eq (Nat.zero_add _)
        · have inRun := referenceName_prefix (c :: text)
          have inside := inRun.trans (List.takeWhile_prefix _)
          generalize referenceName (c :: text) = name at inside ⊢
          obtain ⟨tail, whole⟩ := inside
          have value := weight_ofName_le name
          have left := weight_le_of_suffix (Reference.suffix_dropSemicolon tail)
          rw [ReferenceReading.Keeps, weight_cons '&', weigh_ampersand, ← whole, List.drop_left,
            weight_append]
          omega
      · rw [ReferenceReading.Keeps, weight_cons '&']
        exact le_rfl

/-- A step after which tokens and rest weigh no more than the text before it. -/
def Step.Keeps (text : Text) : Step → Prop
  | .stops pass => loads pass.tokens + weight pass.rest ≤ weight text
  | .fails _ => True
  | .goes found _ rest => loads found + weight rest ≤ weight text

theorem rawStep_keeps (raw : RawElement) (text : Text) : (rawStep raw text).Keeps text := by
  unfold rawStep
  split
  · exact le_of_eq (Nat.zero_add _)
  · next before rest cut =>
    have whole := append_of_cutRaw? cut
    obtain ⟨-, inner, rfl⟩ := exists_of_cutRaw? cut
    have kept := keeps_readRawEnd raw inner
    rw [List.drop_succ_cons, List.drop_succ_cons, List.drop_zero, ← whole]
    cases ended : readRawEnd raw inner with
    | tokens found raw rest =>
      have inside := kept found raw rest ended
      rw [Step.Keeps, loads_append, loads_ofData, weight_append]
      omega
    | incomplete =>
      rw [Step.Keeps, loads_ofData, weight_append]
    | fails =>
      rw [Step.Keeps, loads_ofData, weight_append]

theorem referenceStep_keeps (final : Bool) (before text : Text) :
    (referenceStep final (ofData before) text).Keeps (before ++ '&' :: text) := by
  have kept := keeps_readReference final text
  unfold referenceStep
  cases read : readReference final text with
  | data value rest =>
    rw [read, ReferenceReading.Keeps] at kept
    rw [Step.Keeps, loads_append, loads_ofData, loads_ofData, weight_append]
    omega
  | stop value rest =>
    rw [read, ReferenceReading.Keeps] at kept
    rw [Step.Keeps, loads_append, loads_ofData, loads_ofData, weight_append]
    dsimp only
    omega
  | fails => trivial

theorem markupStep_keeps (final : Bool) (before text : Text) :
    (markupStep final (ofData before) text).Keeps (before ++ '<' :: text) := by
  unfold markupStep
  cases read : readMarkup? text with
  | none =>
    rw [eq_nil_of_readMarkup?_none read, Step.Keeps, loads_ofData, weight_append]
  | some reading =>
    have kept := keeps_readMarkup? read
    cases reading with
    | tokens found raw rest =>
      have inside := kept found raw rest rfl
      rw [Step.Keeps, loads_append, loads_ofData, weight_append]
      omega
    | incomplete =>
      have saved := weight_salvage_le text
      dsimp only
      split
      · rw [Step.Keeps, loads_append, loads_ofData, weight_append]
        omega
      · rw [Step.Keeps, loads_ofData, weight_append]
    | fails => trivial

theorem plainStep_keeps (final : Bool) (text : Text) : (plainStep final text).Keeps text := by
  have whole := List.takeWhile_append_dropWhile (p := fun c => !isSpecial c) (l := text)
  have special := List.head?_dropWhile_not (fun c => !isSpecial c) text
  unfold plainStep
  generalize (text.takeWhile fun c => !isSpecial c) = before at whole ⊢
  generalize (text.dropWhile fun c => !isSpecial c) = left at whole special ⊢
  rw [← whole]
  cases left with
  | nil =>
    rw [Step.Keeps, loads_ofData, weight_append]
  | cons c rest =>
    have special : isSpecial c = true := by simpa using special
    dsimp only
    split
    · next same =>
      rw [same]
      exact referenceStep_keeps final before rest
    · next other =>
      have bracket : c = '<' := by simpa [isSpecial, other] using special
      rw [bracket]
      exact markupStep_keeps final before rest

theorem step_keeps (final : Bool) (raw : Option RawElement) (text : Text) :
    (step final raw text).Keeps text := by
  cases raw with
  | some raw => exact rawStep_keeps raw text
  | none => exact plainStep_keeps final text

/-- A pass keeps the weight of the text, as each of its steps does. -/
theorem wholePass_keeps {final : Bool} {raw : Option RawElement} {pass : Pass}
    (h : wholePass final raw text = .ok pass) : loads pass.tokens + weight pass.rest ≤ weight text := by
  refine wholePass_induction final (motive := fun raw text =>
    ∀ pass, wholePass final raw text = .ok pass →
      loads pass.tokens + weight pass.rest ≤ weight text) ?_ raw text pass h
  intro raw text ih pass h
  have kept := step_keeps final raw text
  rw [wholePass_eq] at h
  cases hs : step final raw text with
  | stops stopped =>
    rw [hs] at h kept
    cases h
    exact kept
  | fails =>
    rw [hs] at h
    cases h
  | goes found raw' rest =>
    rw [hs] at h kept
    obtain ⟨further, read, rfl⟩ := exists_of_map_eq_ok h
    have later := ih found raw' rest hs further read
    rw [Step.Keeps] at kept
    rw [Pass.after, loads_append]
    dsimp only
    omega

/-- The tokens of a document after those at its start weigh no more than what they are read from. -/
theorem exists_later_of_ofText {tokens : List Token}
    (start : wholePass false none text = (wholePass false none rest).map (·.after found))
    (h : ofText text = .ok tokens) : ∃ later, tokens = found ++ later ∧ loads later ≤ weight rest := by
  change ((wholePass false none text).bind fun first =>
    (wholePass true first.raw first.rest).bind fun second =>
      .ok (first.tokens ++ second.tokens ++ if second.raw.isSome then [] else ofData second.rest)) =
        .ok tokens at h
  obtain ⟨first, read, h⟩ := exists_of_bind_eq_ok h
  obtain ⟨second, readAgain, h⟩ := exists_of_bind_eq_ok h
  rw [start] at read
  obtain ⟨further, readFurther, rfl⟩ := exists_of_map_eq_ok read
  have keptFirst := wholePass_keeps readFurther
  have keptSecond := wholePass_keeps readAgain
  have last : loads (if second.raw.isSome then [] else ofData second.rest) ≤ weight second.rest := by
    split
    · exact Nat.zero_le _
    · rw [loads_ofData]
  refine ⟨further.tokens ++ second.tokens ++ if second.raw.isSome then [] else ofData second.rest, ?_, ?_⟩
  · rw [← Except.ok.inj h, Pass.after]
    simp only [List.append_assoc]
  · rw [Pass.after] at keptSecond
    rw [loads_append, loads_append]
    dsimp only at keptSecond
    omega

end Token

end DocExamples.Markup
