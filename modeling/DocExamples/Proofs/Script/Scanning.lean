import DocExamples.Proofs.Effects
import DocExamples.Proofs.Script.Blanks
import DocExamples.Proofs.Text.Trim
import Mathlib.Data.List.Find

namespace DocExamples.Script.Lexing

open Text Effects

variable {left white other : Text}

theorem Swap.head {p : Char → Bool} (swap : Swap left white other)
    (hp : ∀ c, isSpacing c = true → p c = false) (h : (left ++ white).head?.any p = false) :
    (left ++ other).head?.any p = false := by
  cases left with
  | nil =>
    obtain ⟨c, rest, rfl, hc⟩ := (swap.spaced rfl).exists_cons
    simp [hp c hc]
  | cons c left => simpa using h

theorem head?_dropWhile_any (p : Char → Bool) (t : Text) : (t.dropWhile p).head?.any p = false := by
  induction t with
  | nil => rfl
  | cons c t ih =>
    rw [List.dropWhile_cons]
    split
    · exact ih
    · simpa using ‹¬ p c = true›

/-- The characters of a name that stands where it may are visible. -/
theorem visible_of_misplaced? {name : Text} (h : misplaced? name = none) :
    name.all (!isBlank ·) = true := by
  have all : ∀ c ∈ name, continuesIdentifier c = true := by
    cases name with
    | nil => simp
    | cons c rest =>
      rw [misplaced?] at h
      split at h
      · next starts =>
        intro d hd
        rcases List.mem_cons.mp hd with rfl | hd
        · simp [continuesIdentifier, starts]
        · simpa using List.find?_eq_none.mp h d hd
      · simp at h
  rw [List.all_eq_true]
  intro c hc
  cases blank : isBlank c with
  | false => rfl
  | true =>
    have continues := all c hc
    simp [continuesIdentifier_of_isBlank blank] at continues

theorem Swap.head_isBlank (swap : Swap [] white other) {c : Char} (h : other.head? = some c) :
    isBlank c = true := by
  obtain ⟨d, rest, rfl, hd⟩ := (swap.spaced rfl).exists_cons
  cases h
  exact isBlank_of_isSpacing hd

theorem head_isBlank (hb : white.all isBlank = true) {c : Char} (h : white.head? = some c) :
    isBlank c = true :=
  List.all_eq_true.mp hb c (List.mem_of_mem_head? h)

/-- There are no digits in white space. -/
theorem digitRun_blank {p : Char → Bool} (hp : ∀ c, isBlank c = true → p c = false) {t : Text}
    (ht : ∀ c, t.head? = some c → isBlank c = true) : digitRun p t = .ok ([], t) := by
  cases t with
  | nil => rfl
  | cons c rest =>
    have blank := ht c rfl
    have digit := hp c blank
    have underscore : c ≠ '_' := by
      rintro rfl
      exact absurd blank (by decide)
    unfold digitRun
    split <;> simp_all

/-- What a scan reads from a text before white space ends inside the text, and is read before something
else too. -/
def IsLocal {ε α : Type} (scan : Text → Except ε (α × Text)) (text : Text) : Prop :=
  ∀ white value rest, white.all isBlank = true → scan (text ++ white) = .ok (value, rest) →
    ∃ left, left <:+ text ∧ rest = left ++ white ∧
      ∀ other, Swap left white other → scan (text ++ other) = .ok (value, left ++ other)

theorem IsLocal.of_map {ε α β : Type} {scan : Text → Except ε (α × Text)}
    {mapped : Text → Except ε (β × Text)} {text : Text} (h : IsLocal scan text) (f : α → β)
    (hm : ∀ t, mapped t = (scan t).map fun found => (f found.1, found.2)) :
    IsLocal mapped text := by
  intro white value rest hb run
  rw [hm] at run
  cases inner : scan (text ++ white) with
  | error e => simp [inner, Except.map] at run
  | ok found =>
    simp only [inner, Except.map, Except.ok.injEq, Prod.mk.injEq] at run
    obtain ⟨rfl, rfl⟩ := run
    obtain ⟨left, suffix, heq, same⟩ := h white found.1 found.2 hb inner
    refine ⟨left, suffix, heq, fun other swap => ?_⟩
    rw [hm, same other swap]
    rfl

theorem IsLocal.append {ε α : Type} {scan : Text → Except ε (α × Text)} {taken text : Text}
    (h : IsLocal (fun t => scan (taken ++ t)) text) : IsLocal scan (taken ++ text) := by
  intro white value rest hb run
  rw [List.append_assoc] at run
  obtain ⟨left, suffix, heq, same⟩ := h white value rest hb run
  refine ⟨left, suffix.trans (List.suffix_append taken text), heq, fun other swap => ?_⟩
  rw [List.append_assoc]
  exact same other swap

theorem IsLocal.congr {ε α : Type} {scan scan' : Text → Except ε (α × Text)} {text : Text}
    (h : IsLocal scan text)
    (hs : ∀ other, Outside other → scan' (text ++ other) = scan (text ++ other)) :
    IsLocal scan' text := by
  intro white value rest hb run
  obtain ⟨left, suffix, heq, same⟩ := h white value rest hb (hs white (.of_blank hb) ▸ run)
  exact ⟨left, suffix, heq, fun other swap =>
    (hs other swap.isOutside).trans (same other swap)⟩

theorem digitRun_cons {p : Char → Bool} {c : Char} (hc : c ≠ '_') (t : Text) :
    digitRun p (c :: t) =
      if p c then (digitRun p t).map fun (digits, rest) => (c :: digits, rest)
      else .ok ([], c :: t) := by
  rw [digitRun.eq_def]
  split <;> simp_all

theorem digitRun_isLocal {p : Char → Bool} (hp : ∀ c, isBlank c = true → p c = false) (text : Text) :
    IsLocal (digitRun p) text := by
  have notUnderscore {c : Char} {text : Text} (notPair : ∀ d t, c = '_' → text = d :: t → False)
      (notLast : c = '_' → text = [] → False) : c ≠ '_' := by
    rintro rfl
    cases text with
    | nil => exact notLast rfl rfl
    | cons d text => exact notPair d text rfl rfl
  induction text using digitRun.induct p with
  | case1 =>
    intro white digits rest hb h
    rw [List.nil_append, digitRun_blank hp fun c => head_isBlank hb] at h
    cases h
    exact ⟨[], List.suffix_rfl, rfl, fun other swap => digitRun_blank hp fun c => swap.head_isBlank⟩
  | case2 c text hc ih =>
    have pair : IsLocal (fun t => digitRun p (['_', c] ++ t)) text :=
      ih.of_map (c :: ·) fun t => by simp [digitRun, hc]
    exact pair.append
  | case3 c text hc =>
    intro white digits rest hb h
    simp [digitRun, hc] at h
  | case4 =>
    intro white digits rest hb h
    cases white with
    | nil => simp [digitRun] at h
    | cons c white =>
      have digit := hp c (by simpa using List.all_eq_true.mp hb c)
      simp [digitRun, digit] at h
  | case5 c text notPair notLast hc ih =>
    have underscore := notUnderscore notPair notLast
    have single : IsLocal (fun t => digitRun p ([c] ++ t)) text :=
      ih.of_map (c :: ·) fun t => by simp [digitRun_cons underscore, hc]
    exact single.append
  | case6 c text notPair notLast hc =>
    have underscore := notUnderscore notPair notLast
    intro white digits rest hb h
    simp only [List.cons_append, digitRun_cons underscore, hc] at h
    cases h
    exact ⟨c :: text, List.suffix_rfl, rfl, fun other _ => by simp [digitRun_cons underscore, hc]⟩

theorem mayEndNumber_of_swap (swap : Swap left white other)
    (h : mayEndNumber (left ++ white) = true) : mayEndNumber (left ++ other) = true := by
  have words (left : Text) {other : Text} (ho : Outside other) :
      wordsAfterNumber.any (·.isPrefixOf (left ++ other)) =
        wordsAfterNumber.any (·.isPrefixOf left) := by
    have visible : ∀ word ∈ wordsAfterNumber, word.all (!isBlank ·) = true := by decide
    rw [Bool.eq_iff_iff, List.any_eq_true, List.any_eq_true]
    exact exists_congr fun word => and_congr_right fun hw => by
      rw [isPrefixOf_append_outside (visible word hw) ho]
  rw [mayEndNumber, Bool.or_eq_true, Bool.not_eq_true', words left (.of_blank swap.isWhite)] at h
  rw [mayEndNumber, Bool.or_eq_true, Bool.not_eq_true', words left swap.isOutside]
  refine h.imp_left (swap.head fun c hc => ?_)
  rcases isSpacing_iff.mp hc with rfl | rfl | rfl | rfl <;> decide

/-- A scan of digits, a check of them and a check of what follows is as local as the scan. -/
theorem IsLocal.of_digits {ε α β : Type} {scan : Text → Except ε (α × Text)}
    {number : Text → Except Fault (β × Text)} {text : Text} (h : IsLocal scan text)
    (check : α → Option β) (mayEnd : Text → Bool)
    (hm : ∀ t value rest, number t = .ok (value, rest) ↔
      ∃ digits, scan t = .ok (digits, rest) ∧ check digits = some value ∧ mayEnd rest = true)
    (hend : ∀ left white other, Swap left white other → mayEnd (left ++ white) = true →
      mayEnd (left ++ other) = true) :
    IsLocal number text := by
  intro white value rest hb run
  obtain ⟨digits, found, checked, ended⟩ := (hm _ _ _).mp run
  obtain ⟨left, suffix, rfl, same⟩ := h white digits rest hb found
  exact ⟨left, suffix, rfl, fun other swap =>
    (hm _ _ _).mpr ⟨digits, same other swap, checked, hend left white other swap ended⟩⟩

theorem isDigit_of_isBlank {c : Char} (h : isBlank c = true) : c.isDigit = false :=
  eq_false_of_isBlank h (by decide)

theorem readBased_isLocal (base : Nat) (kind : String) (text : Text) :
    IsLocal (readBased base kind) text := by
  have digits : IsLocal (digitRun fun c =>
      if base = 16 then isHexDigit c else c.isDigit && c.toNat - 48 < base) text := by
    refine digitRun_isLocal (fun c hc => ?_) text
    split
    · exact eq_false_of_isBlank hc (by decide)
    · simp [isDigit_of_isBlank hc]
  refine digits.of_digits (fun digits => if digits = [] then none else some (numeral base digits))
    (fun rest => !(rest.head?.any fun c => base ≠ 16 && c.isDigit) && mayEndNumber rest)
    (fun t value rest => ?_) (fun left white other swap h => ?_)
  · unfold readBased
    dsimp only
    split
    · simp [*]
    · simp_all
    · next digits left notNil run =>
      have notEmpty : digits ≠ [] := notNil
      rw [run]
      split
      · grind
      · split <;> grind
  · rw [Bool.and_eq_true, Bool.not_eq_true'] at h ⊢
    refine ⟨swap.head (fun c hc => ?_) h.1, mayEndNumber_of_swap swap h.2⟩
    simp [isDigit_of_isBlank (isBlank_of_isSpacing hc)]

theorem readDecimal_isLocal {c : Char} (hc : c.isDigit = true) (text : Text) :
    IsLocal (fun t => readNumber.readDecimal (c :: t)) text := by
  have underscore : c ≠ '_' := by
    rintro rfl
    exact absurd hc (by decide)
  have digits : IsLocal (fun t => digitRun Char.isDigit (c :: t)) text :=
    (digitRun_isLocal (fun _ => isDigit_of_isBlank) text).of_map (c :: ·) fun t => by
      simp [digitRun_cons underscore, hc]
  refine digits.of_digits
    (fun digits =>
      if digits.head? = some '0' && digits.any (· != '0') then none
      else if digits.head? ≠ some '0' && mostDigits < digits.length then none
      else some (numeral 10 digits))
    mayEndNumber (fun t value rest => ?_) (fun left white other swap => mayEndNumber_of_swap swap)
  unfold readNumber.readDecimal
  cases digitRun Char.isDigit (c :: t) with
  | error e => simp
  | ok found =>
    dsimp only
    split
    · grind
    · split
      · grind
      · split <;> grind

/-- The letters that mark the base of a number after a nought. -/
def isBaseMark (c : Char) : Bool :=
  c == 'x' || c == 'X' || c == 'o' || c == 'O' || c == 'b' || c == 'B'

theorem readNumber_of_unmarked {c : Char} {t : Text} (h : c ≠ '0' ∨ t.head?.any isBaseMark = false) :
    readNumber (c :: t) = readNumber.readDecimal (c :: t) := by
  unfold readNumber
  split
  · next mark rest heq =>
    cases heq
    have unmarked : isBaseMark mark = false := by simpa using h
    simp only [isBaseMark, Bool.or_eq_false_iff, beq_eq_false_iff_ne] at unmarked
    simp [unmarked]
  · rfl

theorem readNumber_isLocal {c : Char} (hc : c.isDigit = true) (text : Text) :
    IsLocal (fun t => readNumber (c :: t)) text := by
  by_cases marked : c = '0' ∧ text.head?.any isBaseMark = true
  · obtain ⟨rfl, marked⟩ := marked
    cases text with
    | nil => simp at marked
    | cons mark text =>
      have based : ∃ base kind, ∀ t, readNumber ('0' :: mark :: t) = readBased base kind t := by
        simp only [List.head?_cons, Option.any_some, isBaseMark, Bool.or_eq_true, beq_iff_eq] at marked
        rcases marked with ((((rfl | rfl) | rfl) | rfl) | rfl) | rfl
        · exact ⟨16, "hexadecimal", fun t => rfl⟩
        · exact ⟨16, "hexadecimal", fun t => rfl⟩
        · exact ⟨8, "octal", fun t => rfl⟩
        · exact ⟨8, "octal", fun t => rfl⟩
        · exact ⟨2, "binary", fun t => rfl⟩
        · exact ⟨2, "binary", fun t => rfl⟩
      obtain ⟨base, kind, same⟩ := based
      have after : IsLocal (fun t => readNumber ('0' :: ([mark] ++ t))) text :=
        (readBased_isLocal base kind text).congr fun white _ => same _
      exact @IsLocal.append _ _ (fun t => readNumber ('0' :: t)) [mark] text after
  · refine (readDecimal_isLocal hc text).congr fun other ho => readNumber_of_unmarked ?_
    by_cases zero : c = '0'
    · right
      cases text with
      | nil =>
        cases other with
        | nil => rfl
        | cons d other =>
          have blank : isBlank d = true := by simpa using ho.blank
          simpa using eq_false_of_isBlank blank (by decide : blanks.all (!isBaseMark ·) = true)
      | cons d text => simpa [zero] using marked
    · exact .inl zero

/-- Where an operator ends does not depend on what stands outside after a text. -/
theorem readOperator_append (c : Char) (ho : Outside other) (text : Text) :
    readOperator c (text ++ other) =
      ((readOperator c text).1, (readOperator c text).2 ++ other) := by
  have visible : ∀ op ∈ longOperators, op.all (!isBlank ·) = true := by decide
  have same : longOperators.find? (·.isPrefixOf (c :: (text ++ other))) =
      longOperators.find? (·.isPrefixOf (c :: text)) := by
    apply List.find?_congr
    intro op hop
    exact isPrefixOf_append_outside (visible op hop) ho (c :: text)
  unfold readOperator
  rw [same]
  cases found : longOperators.find? (·.isPrefixOf (c :: text)) with
  | none => rfl
  | some op =>
    have starts : op <+: c :: text :=
      List.isPrefixOf_iff_prefix.mp (by simpa using List.find?_some found)
    have fits : op.length - 1 ≤ text.length := by
      have := starts.length_le
      simp only [List.length_cons] at this
      omega
    simp [List.drop_append_of_le_length fits]

theorem readOperator_suffix (c : Char) (text : Text) : (readOperator c text).2 <:+ text := by
  unfold readOperator
  split
  · exact List.drop_suffix _ _
  · exact List.suffix_rfl

theorem readToken_isLocal (c : Char) (text : Text) : IsLocal (readToken c) text := by
  intro white token rest hb h
  unfold readToken at h ⊢
  by_cases name : startsName c = true
  · simp only [name, if_true] at h ⊢
    cases placed : misplaced? (c :: (text ++ white).takeWhile inName) with
    | some d => simp [placed] at h
    | none =>
      simp only [placed, Except.ok.injEq, Prod.mk.injEq] at h
      obtain ⟨rfl, rfl⟩ := h
      have visible : ((text ++ white).takeWhile inName).all (!isBlank ·) = true := by
        have := visible_of_misplaced? placed
        rw [List.all_cons, Bool.and_eq_true] at this
        exact this.2
      obtain ⟨left, ht, hr⟩ := append_eq_append_outside visible (Outside.of_blank hb).blank
        List.takeWhile_append_dropWhile
      have stops := head?_dropWhile_any inName (text ++ white)
      refine ⟨left, ⟨_, ht.symm⟩, hr, fun other swap => ?_⟩
      rw [hr] at stops
      obtain ⟨taken, dropped⟩ := takeWhile_append_of_stops List.all_takeWhile
        (swap.head (fun _ => inName_of_isSpacing) stops)
      rw [← List.append_assoc, ← ht] at taken dropped
      simp [taken, dropped, placed]
  · simp only [name] at h ⊢
    by_cases digit : c.isDigit = true
    · have number : IsLocal (fun t => (readNumber (c :: t)).map fun found =>
          (Token.int found.1, found.2)) text :=
        (readNumber_isLocal digit text).of_map Token.int fun t => rfl
      simp only [digit, if_true] at h ⊢
      exact number white token rest hb h
    · simp only [digit] at h ⊢
      by_cases printable : isPrintable c = true
      · simp only [printable, if_true, Bool.false_eq_true, if_false, readOperator_append c (.of_blank hb),
          Except.ok.injEq, Prod.mk.injEq] at h ⊢
        obtain ⟨rfl, rfl⟩ := h
        refine ⟨_, readOperator_suffix c text, rfl, fun other swap => ?_⟩
        simp [readOperator_append c swap.isOutside]
      · simp [printable] at h

/-- Whether a string literal starts a text does not depend on what stands outside after it. -/
theorem stringStart?_append (ho : Outside other) (text : Text) :
    stringStart? (text ++ other) =
      (stringStart? text).map fun (isRaw, literal) => (isRaw, literal ++ other) := by
  unfold stringStart?
  rw [List.takeWhile_append, List.dropWhile_append]
  cases rest : text.dropWhile inName with
  | nil => simp [ho.noQuote]
  | cons c left =>
    have stopped : (text.takeWhile inName).length ≠ text.length := by
      intro same
      have := congrArg List.length (List.takeWhile_append_dropWhile (p := inName) (l := text))
      rw [rest, List.length_append, same, List.length_cons] at this
      omega
    simp only [stopped, if_false, List.isEmpty_cons, Bool.false_eq_true, List.cons_append,
      List.head?_cons]
    split <;> simp_all

theorem exists_quote_of_stringStart? {text literal : Text} {isRaw : Bool}
    (h : stringStart? text = some (isRaw, literal)) :
    ∃ quote inside, literal = quote :: inside ∧ isQuote quote = true ∧ literal <:+ text := by
  unfold stringStart? at h
  dsimp only at h
  split at h
  · next starts =>
    cases h
    have suffix := List.dropWhile_suffix inName (l := text)
    cases rest : text.dropWhile inName with
    | nil => simp [rest] at starts
    | cons quote inside =>
      rw [rest] at starts suffix
      exact ⟨quote, inside, rfl, by simpa using And.right (Bool.and_eq_true _ _ ▸ starts), suffix⟩
  · simp at h

/-- White space closes no string. -/
theorem readString_blank {quote : Char} {triple : Bool} {first fuel line : Nat} {literal : Literal}
    (hq : isQuote quote = true) (hb : white.all isBlank = true) :
    readString quote triple first fuel line white ≠ .ok literal := by
  induction fuel generalizing line white literal with
  | zero => simp [readString]
  | succ fuel ih =>
    cases white with
    | nil => simp [readString]
    | cons c white =>
      rw [List.all_cons, Bool.and_eq_true] at hb
      have notQuote : c ≠ quote := by
        rintro rfl
        simp [isQuote_of_isBlank hb.1] at hq
      have backslash : c ≠ '\\' := by
        rintro rfl
        exact absurd hb.1 (by decide)
      intro h
      simp only [readString, notQuote, backslash, decide_false, Bool.false_and, Bool.false_eq_true,
        if_false] at h
      split at h
      · simp at h
      · obtain ⟨further, run, -⟩ := exists_of_map_eq_ok h
        exact ih hb.2 run

theorem take_append_eq_quotes_iff {quote : Char} (hq : isQuote quote = true)
    (ho : Outside other) (text : Text) :
    ((text ++ other).take 2 == [quote, quote]) = (text.take 2 == [quote, quote]) := by
  have quotes : [quote, quote].all (!isBlank ·) = true := by
    cases blank : isBlank quote with
    | false => simp [blank]
    | true => simp [isQuote_of_isBlank blank] at hq
  have same := isPrefixOf_append_outside quotes ho text
  rw [Bool.eq_iff_iff] at same ⊢
  simp only [List.isPrefixOf_iff_prefix, beq_iff_eq, List.prefix_iff_eq_take, List.length_cons,
    List.length_nil] at same ⊢
  rw [eq_comm, same, eq_comm]

/-- How many characters of a string are taken together: a backslash takes the next one with it. -/
def stride (c : Char) : Nat := if c = '\\' then 2 else 1

theorem stride_pos (c : Char) : 0 < stride c := by
  rw [stride]
  split <;> omega

/-- Whether the quotes of a string are closed by a quote and what follows it. -/
def closes (quote : Char) (triple : Bool) (c : Char) (text : Text) : Bool :=
  c = quote && (!triple || text.take 2 == [quote, quote])

theorem readString_of_closes {quote : Char} {triple : Bool} {c : Char} {text : Text}
    (h : closes quote triple c text = true) (first line fuel : Nat) :
    readString quote triple first (fuel + 1) line (c :: text) =
      .ok ⟨[], if triple then text.drop 2 else text, line⟩ := by
  rw [closes] at h
  rw [readString, if_pos h]

theorem readString_of_open {quote : Char} {triple : Bool} {c : Char} {text : Text}
    (h : closes quote triple c text = false) (inLine : c = '\n' → triple = true)
    (first line fuel : Nat) : ∃ next, readString quote triple first (fuel + 1) line (c :: text) =
      (readString quote triple first fuel next ((c :: text).drop (stride c))).map
        (·.after ((c :: text).take (stride c))) := by
  rw [closes] at h
  have newline : (c = '\n' && !triple) = false := by
    cases triple <;> simp_all
  rw [readString]
  simp only [h, newline, Bool.false_eq_true, if_false]
  by_cases backslash : c = '\\'
  · exact ⟨_, by simp [stride, backslash]; rfl⟩
  · exact ⟨_, by simp [stride, backslash]; rfl⟩

theorem drop_quotes_append {quote : Char} {text : Text} (h : text.take 2 = [quote, quote])
    (other : Text) : (text ++ other).drop 2 = text.drop 2 ++ other := by
  refine List.drop_append_of_le_length ?_
  have := congrArg List.length h
  simp only [List.length_take, List.length_cons, List.length_nil] at this
  omega

theorem closes_append {quote : Char} {triple : Bool} (hq : isQuote quote = true)
    (ho : Outside other) (c : Char) (text : Text) :
    closes quote triple c (text ++ other) = closes quote triple c text := by
  rw [closes, closes, take_append_eq_quotes_iff hq ho]

/-- A string literal that is closed in a text before white space is read alike before anything else that
stands outside. -/
def Closed (quote : Char) (triple : Bool) (text white : Text) (literal : Literal) : Prop :=
  ∃ left, left <:+ text ∧ literal.rest = left ++ white ∧
    ∀ other, Outside other → ∀ first line fuel, (text ++ other).length < fuel →
      ∃ last, readString quote triple first fuel line (text ++ other) =
        .ok ⟨literal.inside, left ++ other, last⟩

variable {quote : Char} {triple : Bool} {c : Char} {text : Text}

theorem Closed.of_closes (hq : isQuote quote = true) (closed : closes quote triple c text = true)
    (line : Nat) : Closed quote triple (c :: text) white
      ⟨[], if triple then (text ++ white).drop 2 else text ++ white, line⟩ := by
  have after (other : Text) : (if triple then (text ++ other).drop 2 else text ++ other) =
      (if triple then text.drop 2 else text) ++ other := by
    cases triple with
    | false => rfl
    | true =>
      simp only [closes, Bool.not_true, Bool.false_or, Bool.and_eq_true, beq_iff_eq] at closed
      exact drop_quotes_append closed.2 other
  refine ⟨if triple then text.drop 2 else text, ?_, after white, fun other ho first line fuel hf => ?_⟩
  · split
    · exact (List.drop_suffix 2 text).trans (List.suffix_cons c text)
    · exact List.suffix_cons c text
  · obtain ⟨fuel, rfl⟩ := Nat.exists_eq_add_one_of_ne_zero (Nat.ne_zero_of_lt hf)
    rw [List.cons_append, readString_of_closes ((closes_append hq ho c text).trans closed), after]
    exact ⟨line, rfl⟩

/-- What a string takes together leads to the rest of it. -/
theorem Closed.of_open {inner : Literal} (hq : isQuote quote = true)
    (opened : closes quote triple c text = false) (inLine : c = '\n' → triple = true)
    (fits : stride c ≤ (c :: text).length)
    (h : Closed quote triple ((c :: text).drop (stride c)) white inner) :
    Closed quote triple (c :: text) white
      (inner.after ((c :: text).take (stride c))) := by
  obtain ⟨left, suffix, rest, again⟩ := h
  refine ⟨left, suffix.trans (List.drop_suffix _ _), rest, fun other ho first line fuel hf => ?_⟩
  obtain ⟨fuel, rfl⟩ := Nat.exists_eq_add_one_of_ne_zero (Nat.ne_zero_of_lt hf)
  have shorter : ((c :: text).drop (stride c) ++ other).length < fuel := by
    have := stride_pos c
    simp only [List.length_append, List.length_drop, List.length_cons] at hf fits ⊢
    omega
  obtain ⟨next, run⟩ :=
    readString_of_open ((closes_append hq ho c text).trans opened) inLine first line fuel
  obtain ⟨last, found⟩ := again other ho first next fuel shorter
  have passed : (c :: (text ++ other)).drop (stride c) = (c :: text).drop (stride c) ++ other :=
    List.drop_append_of_le_length fits
  have taken : (c :: (text ++ other)).take (stride c) = (c :: text).take (stride c) :=
    List.take_append_of_le_length fits
  refine ⟨last, ?_⟩
  rw [List.cons_append, run, passed, found, taken]
  rfl

/-- A backslash at the end of a text takes white space with it, and leaves only such. -/
theorem drop_stride_isBlank (hb : white.all isBlank = true) (short : ¬ stride c ≤ (c :: text).length) :
    ((c :: (text ++ white)).drop (stride c)).all isBlank = true := by
  have last : text = [] ∧ stride c = 2 := by
    simp only [stride, List.length_cons] at short ⊢
    split at short
    · next h =>
      rw [if_pos h]
      exact ⟨List.length_eq_zero_iff.mp (by omega), rfl⟩
    · omega
  rw [last.1, last.2, List.all_eq_true]
  exact fun d hd => List.all_eq_true.mp hb d (List.mem_of_mem_drop hd)

/-- A string literal that is closed before white space is closed there before anything else. -/
theorem readString_append {first fuel line : Nat} {literal : Literal} (hq : isQuote quote = true)
    (hb : white.all isBlank = true)
    (h : readString quote triple first fuel line (text ++ white) = .ok literal) :
    Closed quote triple text white literal := by
  induction fuel generalizing line text literal with
  | zero => simp [readString] at h
  | succ fuel ih =>
    cases text with
    | nil => exact absurd h (readString_blank hq hb)
    | cons c text =>
      have same := @closes_append white quote triple hq (.of_blank hb) c text
      rw [List.cons_append] at h
      cases closed : closes quote triple c text with
      | true =>
        rw [readString_of_closes (same.trans closed)] at h
        cases h
        exact .of_closes hq closed line
      | false =>
        have inLine : c = '\n' → triple = true := by
          rintro rfl
          by_contra single
          rw [Bool.not_eq_true] at single
          have notQuote : '\n' ≠ quote := by
            rintro rfl
            exact absurd hq (by decide)
          simp [readString, notQuote, single] at h
        obtain ⟨next, run⟩ := readString_of_open (same.trans closed) inLine first line fuel
        obtain ⟨inner, run, rfl⟩ := exists_of_map_eq_ok (run ▸ h)
        by_cases fits : stride c ≤ (c :: text).length
        · have passed : (c :: (text ++ white)).drop (stride c) = (c :: text).drop (stride c) ++ white :=
            List.drop_append_of_le_length fits
          have taken : (c :: (text ++ white)).take (stride c) = (c :: text).take (stride c) :=
            List.take_append_of_le_length fits
          rw [passed] at run
          rw [taken]
          exact .of_open hq closed inLine fits (ih run)
        · exact absurd run (readString_blank hq (drop_stride_isBlank hb fits))

end DocExamples.Script.Lexing
