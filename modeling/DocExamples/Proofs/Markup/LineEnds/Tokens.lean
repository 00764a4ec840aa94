import DocExamples.Proofs.Markup.LineEnds.Tags

namespace DocExamples.Markup.Token

open Text Relations
open List (Forall₂)

/-- Tokens that differ in line ends. -/
inductive Alike (lone : Prop) : Token → Token → Prop
  | data {text text' : Text} (h : Softens lone text text') : Alike lone (.data text) (.data text')
  | start {tag tag' : Tag} (h : tag.Alike lone tag') (selfClosing : Bool) :
    Alike lone (.start tag selfClosing) (.start tag' selfClosing)
  | stop (name : Text) : Alike lone (.stop name) (.stop name)
  | aside (kind : AsideKind) {text text' : Text} (h : Softens lone text text') :
    Alike lone (.aside kind text) (.aside kind text')

inductive Reading.Alike (lone : Prop) : Reading → Reading → Prop
  | tokens {found found' : List Token} {rest rest' : Text} (same : Forall₂ (Token.Alike lone) found found')
    (raw : Option RawElement) (left : Softens lone rest rest') :
    Alike lone (.tokens found raw rest) (.tokens found' raw rest')
  | incomplete : Alike lone .incomplete .incomplete
  | fails (fault : Fault) : Alike lone (.fails fault) (.fails fault)

variable {lone : Prop} {t s : Text}

theorem readAside_alike (kind : AsideKind) {found found' : Option (Text × Text)}
    (h : Option.Rel (Softens.Parts lone) found found') :
    Reading.Alike lone (readAside kind found) (readAside kind found') := by
  cases h with
  | none => exact .incomplete
  | some parts => exact .tokens (.cons (.aside kind parts.1) .nil) none parts.2

section Close

variable {opening : Text} {middle : Option Char}

/-- What follows a close with which the text starts. -/
def closedAt? (opening : Text) (middle : Option Char) (text : Text) : Option Text :=
  (after? opening text).bind fun rest =>
    (match middle with
      | none => some (rest.dropWhile isBlank)
      | some m => (after? [m] (rest.dropWhile isBlank)).map fun left : Text => left.dropWhile isBlank).bind
        (after? ['>'])

theorem cutClose?_cons (c : Char) (text : Text) :
    cutClose? opening middle (c :: text) =
      match closedAt? opening middle (c :: text) with
      | some rest => some ([], rest)
      | none => (cutClose? opening middle text).map fun (before, rest) => (c :: before, rest) := by
  cases middle <;> rfl

theorem closedAt?_alike (ho : opening.all isInner = true) (hm : ∀ m, middle = some m → isInner m = true)
    (h : Softens lone t s) :
    Option.Rel (Softens lone) (closedAt? opening middle t) (closedAt? opening middle s) := by
  have blanks : TakesLineEnds isBlank := by decide
  refine rel_bind (h.after? ho) fun rest rest' opened => ?_
  have left := opened.dropWhile blanks
  have ended {t s : Text} (h : Softens lone t s) :
      Option.Rel (Softens lone) (after? ['>'] t) (after? ['>'] s) := h.after? rfl
  cases middle with
  | none => exact ended left
  | some m =>
    have inner : [m].all isInner = true := by simp [hm m rfl]
    exact rel_bind (rel_map (left.after? inner) fun _ _ left => left.dropWhile blanks)
      fun _ _ left => ended left

theorem closedAt?_lineEnd (ho : opening.all isInner = true) (hne : opening ≠ []) (middle : Option Char)
    {c : Char} (hc : isInner c = false) (text : Text) : closedAt? opening middle (c :: text) = none := by
  obtain ⟨o, rest, rfl⟩ := List.exists_cons_of_ne_nil hne
  rw [List.all_cons, Bool.and_eq_true] at ho
  have other : o ≠ c := by
    rintro rfl
    rw [ho.1] at hc
    cases hc
  rw [closedAt?, after?, if_neg other]
  rfl

theorem cutClose?_alike (h : Softens lone t s) (ho : opening.all isInner = true) (hne : opening ≠ [])
    (hm : ∀ m, middle = some m → isInner m = true) :
    Option.Rel (Softens.Parts lone) (cutClose? opening middle t) (cutClose? opening middle s) := by
  have carriage (text : Text) := closedAt?_lineEnd ho hne middle (c := '\r') rfl text
  have newline (text : Text) := closedAt?_lineEnd ho hne middle (c := '\n') rfl text
  induction h with
  | nil => exact .none
  | @same c t s h ih =>
    have closed := closedAt?_alike ho hm (.same c h)
    rw [cutClose?_cons, cutClose?_cons]
    generalize closedAt? opening middle (c :: t) = found at closed ⊢
    generalize closedAt? opening middle (c :: s) = found' at closed ⊢
    cases closed with
    | some left => exact .some ⟨.nil, left⟩
    | none => exact rel_map ih fun _ _ parts => ⟨.same c parts.1, parts.2⟩
  | pair _ ih =>
    rw [cutClose?_cons, carriage, cutClose?_cons, newline, cutClose?_cons, newline]
    dsimp only
    rw [Option.map_map]
    exact rel_map ih fun _ _ parts => ⟨.pair parts.1, parts.2⟩
  | single hl _ ih =>
    rw [cutClose?_cons, carriage, cutClose?_cons, newline]
    exact rel_map ih fun _ _ parts => ⟨.single hl parts.1, parts.2⟩

end Close

theorem startsWithAnyCase_alike (h : Softens lone t s) {word : Text} (hr : '\r' ∉ word) (hn : '\n' ∉ word) :
    startsWithAnyCase word t = startsWithAnyCase word s ∧
      (startsWithAnyCase word t = true → Softens lone (t.drop word.length) (s.drop word.length)) := by
  obtain ⟨starts, left⟩ := h.startsFolded Char.toLower hr hn
  refine ⟨?_, fun start => left (beq_iff_eq.mp start)⟩
  rw [Bool.eq_iff_iff, startsWithAnyCase, startsWithAnyCase, beq_iff_eq, beq_iff_eq, starts]

theorem sectionAside_alike {found found' : Option (Text × Text)}
    (h : Option.Rel (Softens.Parts lone) found found') :
    Reading.Alike lone (sectionAside found) (sectionAside found') := by
  cases h with
  | none => exact .incomplete
  | @some parts parts' parted =>
    have carriage : '\r' ∉ "cdata[".toList := by decide
    have newline : '\n' ∉ "cdata[".toList := by decide
    obtain ⟨starts, left⟩ := startsWithAnyCase_alike parted.1 carriage newline
    rw [sectionAside, sectionAside, ← starts]
    split
    · next start => exact .tokens (.cons (.aside .cdata (left start)) .nil) none parted.2
    · exact .tokens (.cons (.aside .declaration parted.1) .nil) none parted.2

theorem readSection_alike (h : Softens lone t s) :
    Reading.Alike lone (readSection t) (readSection s) := by
  have name := h.takeWhile_eq (p := inSectionName) (by decide) (by decide)
  have rest := (h.dropWhile (p := inSectionName) (by decide)).dropWhile (p := isBlank) (by decide)
  have bracket : [']'].all isInner = true := rfl
  have two : Option.Rel (Softens.Parts lone) (cutClose? [']'] (some ']') t) (cutClose? [']'] (some ']') s) :=
    cutClose?_alike h bracket (by simp) (by rintro m ⟨⟩; rfl)
  have one : Option.Rel (Softens.Parts lone) (cutClose? [']'] none t) (cutClose? [']'] none s) :=
    cutClose?_alike h bracket (by simp) (by rintro m ⟨⟩)
  cases h with
  | nil => exact .incomplete
  | pair => exact .fails _
  | single => exact .fails _
  | same c h =>
    rw [readSection, readSection]
    split
    · dsimp only
      rw [drop_length_takeWhile, drop_length_takeWhile, rest.isEmpty, name]
      split
      · exact .incomplete
      · split
        · exact sectionAside_alike two
        · split
          · exact sectionAside_alike one
          · exact .fails _
    · exact .fails _

/-- A declaration that is no comment in hyphens and no section. -/
def readPlainDeclaration (text : Text) : Reading :=
  if startsWithAnyCase "doctype".toList text then readAside .declaration (cutAt? '>' (text.drop 7))
  else readAside .comment (cutAt? '>' text)

theorem readDeclaration_eq (text : Text) : readDeclaration text =
    match after? ['-', '-'] text with
    | some text => readAside .comment (cutClose? ['-', '-'] none text)
    | none =>
      match after? ['['] text with
      | some text => readSection text
      | none => readPlainDeclaration text := by
  unfold readDeclaration
  split
  · rfl
  · rfl
  · next hyphens bracket =>
    have noHyphens : after? ['-', '-'] text = none := by
      rw [Option.eq_none_iff_forall_ne_some]
      intro rest found
      exact hyphens rest (after?_eq_some_iff.mp found)
    have noBracket : after? ['['] text = none := by
      rw [Option.eq_none_iff_forall_ne_some]
      intro rest found
      exact bracket rest (after?_eq_some_iff.mp found)
    rw [noHyphens, noBracket]
    rfl

theorem readPlainDeclaration_alike (h : Softens lone t s) :
    Reading.Alike lone (readPlainDeclaration t) (readPlainDeclaration s) := by
  have carriage : '\r' ∉ "doctype".toList := by decide
  have newline : '\n' ∉ "doctype".toList := by decide
  obtain ⟨starts, left⟩ := startsWithAnyCase_alike h carriage newline
  rw [readPlainDeclaration, readPlainDeclaration, ← starts]
  split
  · next start => exact readAside_alike .declaration ((left start).cutAt? rfl)
  · exact readAside_alike .comment (h.cutAt? rfl)

theorem readDeclaration_alike (h : Softens lone t s) :
    Reading.Alike lone (readDeclaration t) (readDeclaration s) := by
  have hyphens : Option.Rel (Softens lone) (after? ['-', '-'] t) (after? ['-', '-'] s) := h.after? rfl
  have bracket : Option.Rel (Softens lone) (after? ['['] t) (after? ['['] s) := h.after? rfl
  rw [readDeclaration_eq, readDeclaration_eq]
  generalize after? ['-', '-'] t = found at hyphens ⊢
  generalize after? ['-', '-'] s = found' at hyphens ⊢
  cases hyphens with
  | some left =>
    exact readAside_alike .comment (cutClose?_alike left rfl (by simp) (by rintro m ⟨⟩))
  | none =>
    generalize after? ['['] t = found at bracket ⊢
    generalize after? ['['] s = found' at bracket ⊢
    cases bracket with
    | some left => exact readSection_alike left
    | none => exact readPlainDeclaration_alike h

/-- An end tag's name, and what is left after it. -/
def LikeEnd (lone : Prop) (found found' : Text × Text) : Prop :=
  found.1 = found'.1 ∧ Softens lone found.2 found'.2

theorem plainEnd?_alike (h : Softens lone t s) :
    Option.Rel (LikeEnd lone) (plainEnd? t) (plainEnd? s) := by
  have blanks : TakesLineEnds isBlank := by decide
  have start := h.dropWhile blanks
  have name := start.takeWhile_eq (p := inEndName) (by decide) (by decide)
  have rest := (start.dropWhile (p := inEndName) (by decide)).dropWhile blanks
  have ended : Option.Rel (Softens lone) _ (after? ['>'] _) := rest.after? rfl
  unfold plainEnd?
  dsimp only
  rw [start.head?_any (p := isAsciiLetter) (by decide), name]
  split
  · exact rel_map ended fun _ _ left => ⟨rfl, left⟩
  · exact .none

theorem readEnd_alike (h : Softens lone t s) : Reading.Alike lone (readEnd t) (readEnd s) := by
  have plain := plainEnd?_alike h
  have cut : Option.Rel (Softens.Parts lone) (cutAt? '>' t) (cutAt? '>' s) := h.cutAt? rfl
  unfold readEnd
  generalize cutAt? '>' t = found at cut ⊢
  generalize cutAt? '>' s = found' at cut ⊢
  generalize plainEnd? t = ended at plain ⊢
  generalize plainEnd? s = ended' at plain ⊢
  cases cut with
  | none => exact .incomplete
  | @some parts parts' parted =>
    obtain ⟨inside, rest⟩ := parts
    obtain ⟨inside', rest'⟩ := parts'
    obtain ⟨insides, left⟩ := parted
    cases plain with
    | @some found found' same =>
      obtain ⟨name, rest⟩ := found
      obtain ⟨name', rest'⟩ := found'
      obtain ⟨rfl, left⟩ := same
      exact .tokens (.cons (.stop _) .nil) none left
    | none =>
      have name := insides.takeWhile_eq (p := Tag.inName) (by decide) (by decide)
      dsimp only at insides left name ⊢
      cases insides with
      | nil => exact .tokens .nil none left
      | pair h => exact .tokens (.cons (.aside .comment (.pair h)) .nil) none left
      | single hl h => exact .tokens (.cons (.aside .comment (.single hl h)) .nil) none left
      | same c h =>
        dsimp only
        rw [name]
        split
        · exact .tokens (.cons (.stop _) .nil) none left
        · exact .tokens (.cons (.aside .comment (.same c h)) .nil) none left

theorem readRawEnd_alike (raw : RawElement) (h : Softens lone t s) :
    Reading.Alike lone (readRawEnd raw t) (readRawEnd raw s) := by
  have plain := plainEnd?_alike h
  have cut : Option.Rel (Softens.Parts lone) (cutAt? '>' t) (cutAt? '>' s) := h.cutAt? rfl
  unfold readRawEnd
  generalize cutAt? '>' t = found at cut ⊢
  generalize cutAt? '>' s = found' at cut ⊢
  generalize plainEnd? t = ended at plain ⊢
  generalize plainEnd? s = ended' at plain ⊢
  cases cut with
  | none => exact .incomplete
  | @some parts parts' parted =>
    obtain ⟨inside, rest⟩ := parts
    obtain ⟨inside', rest'⟩ := parts'
    obtain ⟨insides, left⟩ := parted
    have data : Softens lone ('<' :: '/' :: inside ++ ['>']) ('<' :: '/' :: inside' ++ ['>']) :=
      (Softens.same '<' (.same '/' insides)).append (.same '>' .nil)
    cases plain with
    | @some found found' same =>
      obtain ⟨name, after⟩ := found
      obtain ⟨name', after'⟩ := found'
      obtain ⟨rfl, afters⟩ := same
      dsimp only
      split
      · exact .tokens (.cons (.stop _) .nil) none afters
      · exact .tokens (.cons (.data data) .nil) (some raw) afters
    | none => exact .tokens (.cons (.data data) .nil) (some raw) left

theorem readStart_alike (h : Softens lone t s) : Reading.Alike lone (readStart t) (readStart s) := by
  have read := Tag.read_alike h
  unfold readStart
  generalize Tag.read t = reading at read ⊢
  generalize Tag.read s = reading' at read ⊢
  cases read with
  | incomplete => exact .incomplete
  | tag same left =>
    dsimp only
    rw [same.name]
    exact .tokens (.cons (.start same _) .nil) _ left
  | broken left =>
    obtain ⟨⟨front, front', rfl, rfl, fronts⟩, left⟩ := left
    have taken (front rest : Text) : (front ++ rest).take ((front ++ rest).length - rest.length) = front := by
      simp
    dsimp only
    rw [taken, taken]
    exact .tokens (.cons (.data (.same '<' fronts)) .nil) none left
  | overlong digits => exact .fails _

theorem readMarkup?_alike (h : Softens lone t s) :
    Option.Rel (Reading.Alike lone) (readMarkup? t) (readMarkup? s) := by
  have bare {t s : Text} (h : Softens lone t s) :
      Option.Rel (Reading.Alike lone) (some (.tokens [.data ['<']] none t))
        (some (.tokens [.data ['<']] none s)) :=
    .some (.tokens (.cons (.data (.refl lone ['<'])) .nil) none h)
  cases h with
  | nil => exact .none
  | pair h => exact bare (.pair h)
  | single hl h => exact bare (.single hl h)
  | @same c t s h =>
    by_cases slash : c = '/'
    · subst slash
      exact .some (readEnd_alike h)
    by_cases question : c = '?'
    · subst question
      exact .some (readAside_alike .instruction (h.cutAt? rfl))
    by_cases exclamation : c = '!'
    · subst exclamation
      exact .some (readDeclaration_alike h)
    have other (text : Text) : readMarkup? (c :: text) =
        if isAsciiLetter c then some (readStart (c :: text))
        else some (.tokens [.data ['<']] none (c :: text)) := by
      rw [readMarkup?]
      all_goals simp_all
    rw [other, other]
    split
    · exact .some (readStart_alike (.same c h))
    · exact bare (.same c h)

theorem dropSemicolon_alike (h : Softens lone t s) :
    Softens lone (Reference.dropSemicolon t).2 (Reference.dropSemicolon s).2 := by
  have semicolon : Option.Rel (Softens lone) (after? [';'] t) (after? [';'] s) := h.after? rfl
  have shape (text : Text) : (Reference.dropSemicolon text).2 = (after? [';'] text).getD text := by
    unfold Reference.dropSemicolon
    split
    · simp [after?]
    · next other =>
      have none : after? [';'] text = none := by
        rw [Option.eq_none_iff_forall_ne_some]
        intro rest found
        exact other rest (after?_eq_some_iff.mp found)
      rw [none]
      rfl
  rw [shape, shape]
  exact rel_getD semicolon h

inductive ReferenceReading.Alike (lone : Prop) : ReferenceReading → ReferenceReading → Prop
  | data (value : Text) {rest rest' : Text} (left : Softens lone rest rest') :
    Alike lone (.data value rest) (.data value rest')
  | stop (value : Text) {rest rest' : Text} (left : Softens lone rest rest') :
    Alike lone (.stop value rest) (.stop value rest')
  | fails (fault : Fault) : Alike lone (.fails fault) (.fails fault)

/-- A number from its digits on. -/
def numberFrom (hex : Bool) (whole digits rest : Text) : ReferenceReading :=
  if !digits.isEmpty && rest.head?.any (fun c => !isHexDigit c) then
    match Reference.readDigits hex digits with
    | .ok n => .data [Reference.ofNumber n] (Reference.dropSemicolon rest).2
    | .error digits => .fails (.overlongNumber digits)
  else if whole.contains ';' then .stop ['&', '#'] whole
  else .stop [] ('&' :: '#' :: whole)

theorem numberFrom_alike (hex : Bool) (digits : Text) {rest rest' : Text} (h : Softens lone t s)
    (left : Softens lone rest rest') :
    ReferenceReading.Alike lone (numberFrom hex t digits rest) (numberFrom hex s digits rest') := by
  rw [numberFrom, numberFrom, left.head?_any (by decide), h.contains rfl]
  split
  · cases Reference.readDigits hex digits with
    | ok n => exact .data _ (dropSemicolon_alike left)
    | error digits => exact .fails _
  · split
    · exact .stop _ h
    · exact .stop _ (.same '&' (.same '#' h))

theorem readNumber_alike (h : Softens lone t s) :
    ReferenceReading.Alike lone (readNumber t) (readNumber s) := by
  have decimal {t s : Text} (h : Softens lone t s) := h.takeWhile_eq (p := isAsciiDigit) rfl rfl
  have hexadecimal {t s : Text} (h : Softens lone t s) := h.takeWhile_eq (p := isHexDigit) rfl rfl
  have shape (text : Text) : readNumber text =
      if text.head? == some 'x' || text.head? == some 'X' then
        numberFrom true text (text.tail.takeWhile isHexDigit) (text.tail.dropWhile isHexDigit)
      else numberFrom false text (text.takeWhile isAsciiDigit) (text.dropWhile isAsciiDigit) := by
    unfold readNumber
    dsimp only
    cases text.head? == some 'x' || text.head? == some 'X' <;> rfl
  rw [shape, shape]
  cases h with
  | nil => exact .stop _ (.refl lone _)
  | pair h => exact numberFrom_alike false [] (.pair h) (.pair h)
  | single hl h => exact numberFrom_alike false [] (.single hl h) (.single hl h)
  | same c h =>
    rw [List.head?_cons, List.head?_cons, List.tail_cons, List.tail_cons, hexadecimal h,
      decimal (.same c h)]
    split
    · exact numberFrom_alike true _ (.same c h) (h.dropWhile (by decide))
    · exact numberFrom_alike false _ (.same c h) ((Softens.same c h).dropWhile (by decide))

theorem referenceName_alike (h : Softens lone t s) :
    referenceName t = referenceName s ∧
      Softens lone (t.drop (referenceName t).length) (s.drop (referenceName t).length) := by
  have run := h.takeWhile_eq (p := inReferenceName) rfl rfl
  have rest := h.dropWhile (p := inReferenceName) (by decide)
  have same : referenceName t = referenceName s := by
    rw [referenceName, referenceName, run, rest.isEmpty]
  have inRun := referenceName_prefix t
  have inner : (referenceName t).all isInner = true := by
    rw [List.all_eq_true]
    intro c hc
    have inName := List.mem_takeWhile_imp (inRun.subset hc)
    rw [inner_iff]
    constructor <;> rintro rfl <;> exact absurd inName (by decide)
  exact ⟨same, h.drop_of_prefix (inRun.trans (List.takeWhile_prefix _)) inner⟩

theorem readReference_alike (final : Bool) (h : Softens lone t s) :
    ReferenceReading.Alike lone (readReference final t) (readReference final s) := by
  cases h with
  | nil => exact .stop _ (.refl lone _)
  | pair h => exact .data _ (.pair h)
  | single hl h => exact .data _ (.single hl h)
  | @same c t s h =>
    by_cases number : c = '#'
    · subst number
      exact readNumber_alike h
    obtain ⟨name, left⟩ := referenceName_alike (.same c h)
    rw [readReference_cons final number, readReference_cons final number, ← name, h.isEmpty]
    split
    · split
      · split
        · exact .stop _ (.refl lone _)
        · exact .stop _ (.same '&' (.same c h))
      · exact .data _ (dropSemicolon_alike left)
    · exact .data _ (.same c h)

theorem salvage_alike (h : Softens lone t s) : Softens.Parts lone (salvage t) (salvage s) := by
  have bracket : Option.Rel (Softens.Parts lone) (cutAt? '>' t) (cutAt? '>' s) := h.cutAt? rfl
  have next : Option.Rel (Softens.Parts lone) (cutAt? '<' t) (cutAt? '<' s) := h.cutAt? rfl
  unfold salvage
  generalize cutAt? '>' t = found at bracket ⊢
  generalize cutAt? '>' s = found' at bracket ⊢
  cases bracket with
  | some parts => exact ⟨(Softens.same '<' parts.1).append (.same '>' .nil), parts.2⟩
  | none =>
    generalize cutAt? '<' t = found at next ⊢
    generalize cutAt? '<' s = found' at next ⊢
    cases next with
    | some parts => exact ⟨.same '<' parts.1, .same '<' parts.2⟩
    | none => exact ⟨.refl lone _, h⟩

/-- What follows the end tag of a raw element with which the text starts. -/
def rawEnd? (raw : RawElement) (text : Text) : Option Text :=
  (after? ['<', '/'] text).bind fun rest =>
    if ((rest.dropWhile isBlank).take raw.name.length).map foldChar == raw.name then
      after? ['>'] (((rest.dropWhile isBlank).drop raw.name.length).dropWhile isBlank)
    else none

theorem cutRaw?_cons (raw : RawElement) (c : Char) (text : Text) :
    cutRaw? raw (c :: text) =
      if (rawEnd? raw (c :: text)).isSome then some ([], c :: text)
      else (cutRaw? raw text).map fun (before, rest) => (c :: before, rest) := rfl

theorem rawEnd?_alike (raw : RawElement) (h : Softens lone t s) :
    Option.Rel (Softens lone) (rawEnd? raw t) (rawEnd? raw s) := by
  have blanks : TakesLineEnds isBlank := by decide
  have carriage : foldChar '\r' ∉ raw.name := by cases raw <;> decide
  have newline : foldChar '\n' ∉ raw.name := by cases raw <;> decide
  refine rel_bind (h.after? rfl) fun rest rest' opened => ?_
  obtain ⟨starts, left⟩ := (opened.dropWhile blanks).startsFolded foldChar carriage newline
  have same : (((rest.dropWhile isBlank).take raw.name.length).map foldChar == raw.name) =
      (((rest'.dropWhile isBlank).take raw.name.length).map foldChar == raw.name) := by
    rw [Bool.eq_iff_iff, beq_iff_eq, beq_iff_eq, starts]
  rw [← same]
  split
  · next start => exact ((left (beq_iff_eq.mp start)).dropWhile blanks).after? rfl
  · exact .none

theorem cutRaw?_alike (raw : RawElement) (h : Softens lone t s) :
    Option.Rel (Softens.Parts lone) (cutRaw? raw t) (cutRaw? raw s) := by
  have isSome {t s : Text} (h : Softens lone t s) : (rawEnd? raw t).isSome = (rawEnd? raw s).isSome := by
    have ends := rawEnd?_alike raw h
    generalize rawEnd? raw t = found at ends ⊢
    generalize rawEnd? raw s = found' at ends ⊢
    cases ends <;> rfl
  have lineEnd {c : Char} (other : '<' ≠ c) (text : Text) : (rawEnd? raw (c :: text)).isSome = false := by
    rw [rawEnd?, after?, if_neg other]
    rfl
  have carriage (text : Text) := lineEnd (c := '\r') (by decide) text
  have newline (text : Text) := lineEnd (c := '\n') (by decide) text
  induction h with
  | nil => exact .none
  | @same c t s h ih =>
    rw [cutRaw?_cons, cutRaw?_cons, isSome (.same c h)]
    split
    · exact .some ⟨.nil, .same c h⟩
    · exact rel_map ih fun _ _ parts => ⟨.same c parts.1, parts.2⟩
  | pair _ ih =>
    rw [cutRaw?_cons, carriage, cutRaw?_cons, newline, cutRaw?_cons, newline]
    simp only [Bool.false_eq_true, if_false, Option.map_map]
    exact rel_map ih fun _ _ parts => ⟨.pair parts.1, parts.2⟩
  | single hl _ ih =>
    rw [cutRaw?_cons, carriage, cutRaw?_cons, newline]
    exact rel_map ih fun _ _ parts => ⟨.single hl parts.1, parts.2⟩

structure Pass.Alike (lone : Prop) (pass pass' : Pass) : Prop where
  tokens : Forall₂ (Token.Alike lone) pass.tokens pass'.tokens
  raw : pass.raw = pass'.raw
  rest : Softens lone pass.rest pass'.rest

theorem Pass.Alike.after {pass pass' : Pass} {found found' : List Token} (h : pass.Alike lone pass')
    (same : Forall₂ (Token.Alike lone) found found') : (pass.after found).Alike lone (pass'.after found') :=
  ⟨List.rel_append same h.tokens, h.raw, h.rest⟩

inductive Step.Alike (lone : Prop) : Step → Step → Prop
  | stops {pass pass' : Pass} (same : pass.Alike lone pass') : Alike lone (.stops pass) (.stops pass')
  | fails (fault : Fault) : Alike lone (.fails fault) (.fails fault)
  | goes {found found' : List Token} {rest rest' : Text} (same : Forall₂ (Token.Alike lone) found found')
    (raw : Option RawElement) (left : Softens lone rest rest') :
    Alike lone (.goes found raw rest) (.goes found' raw rest')

theorem ofData_alike (h : Softens lone t s) : Forall₂ (Alike lone) (ofData t) (ofData s) := by
  rw [ofData, ofData, h.isEmpty]
  split
  · exact .nil
  · exact .cons (.data h) .nil

theorem rawStep_alike (raw : RawElement) (h : Softens lone t s) :
    Step.Alike lone (rawStep raw t) (rawStep raw s) := by
  have cut := cutRaw?_alike raw h
  have inside {before rest : Text} (found : cutRaw? raw t = some (before, rest)) :=
    (exists_of_cutRaw? found).2
  unfold rawStep
  generalize cutRaw? raw t = found at cut inside ⊢
  generalize cutRaw? raw s = found' at cut ⊢
  cases cut with
  | none => exact .stops ⟨.nil, rfl, h⟩
  | @some parts parts' parted =>
    obtain ⟨before, rest⟩ := parts
    obtain ⟨before', rest'⟩ := parts'
    obtain ⟨befores, left⟩ := parted
    dsimp only at befores left ⊢
    obtain ⟨inner, rfl⟩ := inside rfl
    have word : ['<', '/'] <+: '<' :: '/' :: inner := ⟨inner, rfl⟩
    have read := readRawEnd_alike raw (left.drop_of_prefix word rfl)
    have data := ofData_alike befores
    rw [List.length_cons, List.length_cons, List.length_nil] at read
    generalize readRawEnd raw (('<' :: '/' :: inner).drop 2) = reading at read ⊢
    generalize readRawEnd raw (rest'.drop 2) = reading' at read ⊢
    cases read with
    | tokens same raw left => exact .goes (List.rel_append data same) raw left
    | incomplete => exact .stops ⟨data, rfl, left⟩
    | fails => exact .stops ⟨data, rfl, left⟩

theorem referenceStep_alike (final : Bool) {before before' : List Token}
    (befores : Forall₂ (Alike lone) before before') (h : Softens lone t s) :
    Step.Alike lone (referenceStep final before t) (referenceStep final before' s) := by
  have read := readReference_alike final h
  unfold referenceStep
  generalize readReference final t = reading at read ⊢
  generalize readReference final s = reading' at read ⊢
  cases read with
  | data value left => exact .goes (List.rel_append befores (ofData_alike (.refl lone value))) none left
  | stop value left =>
    exact .stops ⟨List.rel_append befores (ofData_alike (.refl lone value)), rfl, left⟩
  | fails fault => exact .fails fault

theorem markupStep_alike (final : Bool) {before before' : List Token}
    (befores : Forall₂ (Alike lone) before before') (h : Softens lone t s) :
    Step.Alike lone (markupStep final before t) (markupStep final before' s) := by
  have read := readMarkup?_alike h
  unfold markupStep
  generalize readMarkup? t = reading at read ⊢
  generalize readMarkup? s = reading' at read ⊢
  cases read with
  | none => exact .stops ⟨befores, rfl, .refl lone _⟩
  | some same =>
    cases same with
    | tokens same raw left => exact .goes (List.rel_append befores same) raw left
    | fails fault => exact .fails fault
    | incomplete =>
      obtain ⟨data, left⟩ := salvage_alike h
      dsimp only
      split
      · exact .goes (List.rel_append befores (.cons (.data data) .nil)) none left
      · exact .stops ⟨befores, rfl, .same '<' h⟩

theorem plainStep_alike (final : Bool) (h : Softens lone t s) :
    Step.Alike lone (plainStep final t) (plainStep final s) := by
  have plain : TakesLineEnds fun c => !isSpecial c := by decide
  have befores := ofData_alike (h.takeWhile plain)
  have left := h.dropWhile plain
  have special := List.head?_dropWhile_not (fun c => !isSpecial c) t
  unfold plainStep
  generalize (t.dropWhile fun c => !isSpecial c) = rest at left special ⊢
  generalize (s.dropWhile fun c => !isSpecial c) = rest' at left ⊢
  cases left with
  | nil => exact .stops ⟨befores, rfl, .nil⟩
  | pair => simp [isSpecial] at special
  | single => simp [isSpecial] at special
  | same c left =>
    dsimp only
    split
    · exact referenceStep_alike final befores left
    · exact markupStep_alike final befores left

theorem step_alike (final : Bool) (raw : Option RawElement) (h : Softens lone t s) :
    Step.Alike lone (step final raw t) (step final raw s) := by
  cases raw with
  | some raw => exact rawStep_alike raw h
  | none => exact plainStep_alike final h

/-- The passes over two sources that differ in line ends come to tokens that do so too. -/
theorem wholePass_alike (final : Bool) (raw : Option RawElement) (h : Softens lone t s) :
    ResultRel (Pass.Alike lone) (wholePass final raw t) (wholePass final raw s) := by
  refine wholePass_induction final (motive := fun raw t => ∀ s, Softens lone t s →
    ResultRel (Pass.Alike lone) (wholePass final raw t) (wholePass final raw s)) ?_ raw t s h
  intro raw t ih s h
  have moves := step_alike final raw h
  rw [wholePass_eq, wholePass_eq]
  generalize hs : step final raw t = move at moves ⊢
  generalize step final raw s = move' at moves ⊢
  cases moves with
  | stops same => exact .ok same
  | fails fault => exact .error fault
  | goes same raw left => exact (ih _ _ _ hs _ left).map fun _ _ passes => passes.after same

theorem ofText_alike (h : Softens lone t s) :
    ResultRel (Forall₂ (Alike lone)) (ofText t) (ofText s) := by
  refine (wholePass_alike false none h).bind fun first first' firsts => ?_
  rw [← firsts.raw]
  refine (wholePass_alike true first.raw firsts.rest).bind fun second second' seconds => .ok ?_
  have tokens := List.rel_append firsts.tokens seconds.tokens
  rw [← seconds.raw]
  split
  · exact List.rel_append tokens .nil
  · exact List.rel_append tokens (ofData_alike seconds.rest)

end DocExamples.Markup.Token
