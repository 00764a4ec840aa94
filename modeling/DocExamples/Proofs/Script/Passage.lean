import DocExamples.Proofs.Script.Ending

namespace DocExamples.Script

open Text

/-- Positions that differ in lines only. -/
structure Position.Alike (here there : Position) : Prop where
  levels : here.levels = there.levels
  brackets : here.brackets.map (·.1) = there.brackets.map (·.1)
  lead : here.lead = there.lead

namespace Position.Alike

variable {here there : Position}

theorem refl (here : Position) : here.Alike here := ⟨rfl, rfl, rfl⟩

theorem symm (h : here.Alike there) : there.Alike here := ⟨h.levels.symm, h.brackets.symm, h.lead.symm⟩

theorem length (h : here.Alike there) : here.brackets.length = there.brackets.length := by
  simpa using congrArg List.length h.brackets

theorem eq_nil_iff (h : here.Alike there) : here.brackets = [] ↔ there.brackets = [] := by
  rw [← List.length_eq_zero_iff, h.length, List.length_eq_zero_iff]

end Position.Alike

namespace Lexing

variable {fresh next : Bool} {here there : Position} {text white rest : Text} {lexemes : List Lexeme}
  {tokens : List Token}

/-- A text that ends in a character other than white space. -/
def EndsVisible (t : Text) : Prop := ∃ c, t.getLast? = some c ∧ isBlank c = false

theorem EndsVisible.ne_nil {t : Text} (h : EndsVisible t) : t ≠ [] := by
  rintro rfl
  obtain ⟨c, hc, -⟩ := h
  simp at hc

theorem EndsVisible.getLast?_ne {t : Text} {c : Char} (h : EndsVisible t) (hc : isBlank c = true) :
    t.getLast? ≠ some c := by
  obtain ⟨d, last, visible⟩ := h
  rw [last, Ne, Option.some.injEq]
  exact ne_of_isBlank visible hc

theorem EndsVisible.of_suffix {t left : Text} (h : EndsVisible t) (suffix : left <:+ t)
    (hne : left ≠ []) : EndsVisible left := by
  obtain ⟨taken, rfl⟩ := suffix
  obtain ⟨c, hc, visible⟩ := h
  refine ⟨c, ?_, visible⟩
  rw [List.getLast?_append, List.getLast?_eq_some_getLast hne] at hc
  rw [List.getLast?_eq_some_getLast hne]
  exact hc

/-- A step that reads the same tokens and leaves a rest, at a position that differs in lines only. -/
def Repeats (move : Step) (lexemes : List Lexeme) (next : Bool) (there : Position) (rest : Text) :
    Prop :=
  ∃ others place, move = .goes others next place rest ∧
    others.map (·.token) = lexemes.map (·.token) ∧ there.Alike place

/-- What a comment leaves of the white space after it. -/
def afterComment (fresh : Bool) (white : Text) : Text :=
  if fresh then (white.dropWhile (· != '\n')).drop 1 else white.dropWhile (· != '\n')

/-- How a step over a text that white space follows goes on, and goes on before other white space. -/
inductive Passage (fresh : Bool) (here : Position) (text white : Text) (lexemes : List Lexeme)
    (next : Bool) (there : Position) (rest : Text) : Prop
  /-- It ends inside the text. -/
  | within (left : Text) (suffix : left <:+ text) (hrest : rest = left ++ white)
    (hnext : next = true → left ≠ [])
    (again : ∀ place other, here.Alike place → Swap left white other →
      Repeats (step fresh place (text ++ other)) lexemes next there (left ++ other))
  /-- It passes over a comment at the end of the text. -/
  | comment (hrest : rest = afterComment fresh white) (hnext : next = fresh)
    (again : ∀ place other, here.Alike place →
      Repeats (step fresh place (text ++ other)) lexemes next there (afterComment fresh other))
  /-- It joins the last line with the empty one after it. -/
  | joined (last : text.getLast? = some '\\') (hnext : next = fresh) (hwhite : white = '\n' :: rest)
    (hrest : rest ≠ [])
    (again : ∀ place below, here.Alike place → below ≠ [] →
      Repeats (step fresh place (text ++ '\n' :: below)) lexemes next there below)

/-- A comment ends at a line end inside a text, or takes all of it and goes on in what follows. -/
theorem dropWhile_comment (text : Text) :
    (∃ below, '\n' :: below <:+ text ∧
      ∀ other, (text ++ other).dropWhile (· != '\n') = '\n' :: (below ++ other)) ∨
    ∀ other, (text ++ other).dropWhile (· != '\n') = other.dropWhile (· != '\n') := by
  have suffix := List.dropWhile_suffix (· != '\n') (l := text)
  have stop := head?_dropWhile_any (· != '\n') text
  cases rest : text.dropWhile (· != '\n') with
  | nil => exact .inr fun other => by rw [List.dropWhile_append, rest]; rfl
  | cons c below =>
    rw [rest] at suffix stop
    obtain rfl : c = '\n' := by simpa using stop
    exact .inl ⟨below, suffix, fun other => by rw [List.dropWhile_append, rest]; rfl⟩

theorem stringStep_again {isRaw : Bool} {quote : Char} {inside : Text} (hq : isQuote quote = true)
    (hb : white.all isBlank = true)
    (h : stringStep isRaw here (quote :: (inside ++ white)) = .goes lexemes next there rest) :
    ∃ left, left <:+ inside ∧ rest = left ++ white ∧ next = false ∧
      ∀ place other, here.Alike place → Outside other →
        Repeats (stringStep isRaw place (quote :: (inside ++ other))) lexemes next there
          (left ++ other) := by
  let body := if inside.take 2 == [quote, quote] then inside.drop 2 else inside
  have suffix : body <:+ inside := by
    dsimp only [body]
    split
    · exact List.drop_suffix 2 inside
    · exact List.suffix_rfl
  have opened (other : Text) : (if inside.take 2 == [quote, quote] then (inside ++ other).drop 2
      else inside ++ other) = body ++ other := by
    dsimp only [body]
    split
    · next triple => exact drop_quotes_append (by simpa using triple) other
    · rfl
  unfold stringStep at h ⊢
  simp only [take_append_eq_quotes_iff hq (.of_blank hb), opened] at h
  split at h
  · simp at h
  · next literal run =>
    cases h
    obtain ⟨left, closed, heq, same⟩ := readString_append hq hb run
    refine ⟨left, closed.trans suffix, heq, rfl, fun place other alike ho => ?_⟩
    obtain ⟨last, again⟩ := same other ho place.line place.line _ (Nat.lt_succ_self _)
    simp only [take_append_eq_quotes_iff hq ho, opened, again]
    exact ⟨_, _, rfl, rfl, alike.levels, alike.brackets, alike.lead⟩

theorem openStep_again {c : Char}
    (h : openStep here c (text ++ white) = .goes lexemes next there rest) :
    rest = text ++ white ∧ next = false ∧ ∀ place other, here.Alike place →
      Repeats (openStep place c (text ++ other)) lexemes next there (text ++ other) := by
  unfold openStep at h ⊢
  split at h
  · simp at h
  · next few =>
    cases h
    refine ⟨rfl, rfl, fun place other alike => ?_⟩
    rw [if_neg (alike.length ▸ few)]
    exact ⟨_, _, rfl, rfl, alike.levels, by simp [alike.brackets], alike.lead⟩

theorem closeStep_again {c : Char}
    (h : closeStep here c (text ++ white) = .goes lexemes next there rest) :
    rest = text ++ white ∧ next = false ∧ ∀ place other, here.Alike place →
      Repeats (closeStep place c (text ++ other)) lexemes next there (text ++ other) := by
  unfold closeStep at h ⊢
  split at h
  · simp at h
  · next opening line outer open_ =>
    split at h
    · next fits =>
      cases h
      refine ⟨rfl, rfl, fun place other alike => ?_⟩
      have brackets := alike.brackets
      rw [open_, List.map_cons] at brackets
      obtain ⟨first, others, same, hfirst, hothers⟩ := List.map_eq_cons_iff.mp brackets.symm
      obtain ⟨bracket, place'⟩ := first
      obtain rfl : bracket = opening := hfirst
      rw [same]
      simp only [fits, if_true]
      exact ⟨_, _, rfl, rfl, alike.levels, hothers.symm, alike.lead⟩
    · simp at h

theorem step_comment : step false here ('#' :: rest) =
    .goes [] false here (rest.dropWhile (· != '\n')) := by
  simp [step, innerStep, isLineBlank]

theorem joinStep_newline (hne : rest ≠ []) : joinStep fresh here ('\n' :: rest) =
    .goes [] fresh { here with line := here.line + 1 } rest := by
  simp [joinStep, hne]

theorem step_backslash : step false here ('\\' :: rest) = joinStep false here rest := by
  simp [step, innerStep, isLineBlank]

/-- A step over a backslash that something else than white space ends, or white space follows. -/
theorem joinStep_again {left : Text} (visible : EndsVisible ('\\' :: left))
    (h : joinStep fresh here (left ++ white) = .goes lexemes next there rest) :
    next = fresh ∧
      ((left = [] ∧ white = '\n' :: rest ∧ rest ≠ [] ∧ ∀ place below, here.Alike place → below ≠ [] →
          Repeats (joinStep fresh place ('\n' :: below)) lexemes next there below) ∨
        ∃ below, below <:+ left ∧ rest = below ++ white ∧ below ≠ [] ∧ ∀ place other, here.Alike place →
          Repeats (joinStep fresh place (left ++ other)) lexemes next there (below ++ other)) := by
  obtain ⟨heq, hne, rfl, rfl, rfl⟩ := exists_of_joinStep h
  refine ⟨rfl, ?_⟩
  cases left with
  | nil =>
    exact .inl ⟨rfl, heq, hne, fun place below alike hbelow =>
      ⟨_, _, joinStep_newline hbelow, rfl, alike.levels, alike.brackets, alike.lead⟩⟩
  | cons d left =>
    obtain ⟨rfl, rfl⟩ := List.cons.inj heq
    have below : left ≠ [] := by
      rintro rfl
      exact visible.getLast?_ne (by decide : isBlank '\n' = true) rfl
    exact .inr ⟨left, List.suffix_cons _ _, rfl, below, fun place other alike =>
      ⟨_, _, joinStep_newline (by simp [below]), rfl, alike.levels, alike.brackets, alike.lead⟩⟩

/-- A step over a token that white space follows. -/
theorem tokenStep_again {c : Char} (hb : white.all isBlank = true)
    (h : tokenStep here c (text ++ white) = .goes lexemes next there rest) :
    ∃ left, left <:+ c :: text ∧ rest = left ++ white ∧ next = false ∧
      ∀ place other, here.Alike place → Swap left white other →
        Repeats (tokenStep place c (text ++ other)) lexemes next there (left ++ other) := by
  have same {other : Text} (ho : Outside other) := stringStart?_append ho (c :: text)
  simp only [List.cons_append] at same
  simp only [tokenStep, same (.of_blank hb)] at h
  cases starts : stringStart? (c :: text) with
  | some found =>
    obtain ⟨isRaw, literal⟩ := found
    obtain ⟨quote, inside, rfl, hq, suffix⟩ := exists_quote_of_stringStart? starts
    rw [starts] at h
    obtain ⟨left, closed, heq, rfl, again⟩ := stringStep_again hq hb h
    refine ⟨left, (closed.trans (List.suffix_cons _ _)).trans suffix, heq, rfl,
      fun place other alike swap => ?_⟩
    simp only [tokenStep, same swap.isOutside, starts]
    exact again place other alike swap.isOutside
  | none =>
    rw [starts] at h
    dsimp only [Option.map_none] at h
    split at h
    · next opens =>
      obtain ⟨heq, rfl, again⟩ := openStep_again h
      refine ⟨text, List.suffix_cons c text, heq, rfl, fun place other alike swap => ?_⟩
      simp only [tokenStep, same swap.isOutside, starts, Option.map_none, opens, if_true]
      exact again place other alike
    · next notOpen =>
      split at h
      · next closes =>
        obtain ⟨heq, rfl, again⟩ := closeStep_again h
        refine ⟨text, List.suffix_cons c text, heq, rfl, fun place other alike swap => ?_⟩
        simp only [tokenStep, same swap.isOutside, starts, Option.map_none, notOpen, closes,
          if_true]
        exact again place other alike
      · next notClose =>
        split at h
        · simp at h
        · next token left run =>
          cases h
          obtain ⟨left, suffix, heq, again⟩ := readToken_isLocal c text white token _ hb run
          refine ⟨left, suffix.trans (List.suffix_cons c text), heq, rfl,
            fun place other alike swap => ?_⟩
          simp only [tokenStep, same swap.isOutside, starts, Option.map_none, notOpen, notClose,
            again other swap]
          exact ⟨_, _, rfl, rfl, alike⟩

theorem comment_passage {left : Text}
    (h : step false here ('#' :: (left ++ white)) = .goes lexemes next there rest) :
    Passage false here ('#' :: left) white lexemes next there rest := by
  rw [step_comment] at h
  cases h
  rcases dropWhile_comment left with ⟨below, suffix, same⟩ | same
  · refine .within ('\n' :: below) (suffix.trans (List.suffix_cons _ _)) (same white) (by simp)
      fun place other alike _ => ?_
    rw [List.cons_append, step_comment, same]
    exact ⟨_, _, rfl, rfl, alike⟩
  · refine .comment (same white) rfl fun place other alike => ?_
    rw [List.cons_append, step_comment, same]
    exact ⟨_, _, rfl, rfl, alike⟩

theorem newline_passage {left : Text} (hne : left ≠ [])
    (h : step false here ('\n' :: (left ++ white)) = .goes lexemes next there rest) :
    Passage false here ('\n' :: left) white lexemes next there rest := by
  by_cases outside : here.brackets = []
  · rw [step_newline_outside outside] at h
    cases h
    exact .within left (List.suffix_cons _ _) rfl (fun _ => hne) fun place other alike _ =>
      ⟨_, _, step_newline_outside (alike.eq_nil_iff.mp outside), rfl, alike.levels, alike.brackets, alike.lead⟩
  · rw [step_newline_inside outside] at h
    cases h
    exact .within left (List.suffix_cons _ _) rfl (by simp) fun place other alike _ =>
      ⟨_, _, step_newline_inside (mt alike.eq_nil_iff.mpr outside), rfl, alike.levels,
        alike.brackets, alike.lead⟩

theorem backslash_passage {left : Text} (visible : EndsVisible ('\\' :: left))
    (h : step false here ('\\' :: (left ++ white)) = .goes lexemes next there rest) :
    Passage false here ('\\' :: left) white lexemes next there rest := by
  rw [step_backslash] at h
  obtain ⟨rfl, ⟨rfl, hwhite, hne, again⟩ | ⟨below, suffix, heq, -, again⟩⟩ := joinStep_again visible h
  · refine .joined rfl rfl hwhite hne fun place below alike hbelow => ?_
    rw [List.singleton_append, step_backslash]
    exact again place below alike hbelow
  · refine .within below (suffix.trans (List.suffix_cons _ _)) heq (by simp) fun place other alike _ => ?_
    rw [List.cons_append, step_backslash]
    exact again place other alike

/-- A step inside a line over a text that white space follows. -/
theorem innerStep_passage (visible : EndsVisible text) (hb : white.all isBlank = true)
    (h : step false here (text ++ white) = .goes lexemes next there rest) :
    Passage false here text white lexemes next there rest := by
  obtain ⟨c, left, rfl⟩ := List.exists_cons_of_ne_nil visible.ne_nil
  rw [List.cons_append] at h
  by_cases line : isLineBlank c = true
  · rw [step_lineBlank line] at h
    cases h
    exact .within left (List.suffix_cons c left) rfl (by simp)
      fun place other alike _ => ⟨_, _, step_lineBlank line, rfl, alike⟩
  by_cases comment : c = '#'
  · subst comment
    exact comment_passage h
  by_cases newline : c = '\n'
  · subst newline
    refine newline_passage ?_ h
    rintro rfl
    exact visible.getLast?_ne (by decide : isBlank '\n' = true) rfl
  by_cases backslash : c = '\\'
  · subst backslash
    exact backslash_passage visible h
  have token (place : Position) (rest : Text) :
      step false place (c :: rest) = tokenStep place c rest := by
    simp [step, innerStep, line, comment, newline, backslash]
  rw [token] at h
  obtain ⟨left', suffix, heq, rfl, again⟩ := tokenStep_again hb h
  refine .within left' suffix heq (by simp) fun place other alike swap => ?_
  rw [List.cons_append, token]
  exact again place other alike swap

theorem indentation_append {text : Text} (h : text.dropWhile isLineBlank ≠ []) (level : Level)
    (other : Text) : indentation level (text ++ other) = indentation level text := by
  induction text generalizing level with
  | nil => simp at h
  | cons c text ih =>
    by_cases line : isLineBlank c = true
    · rw [List.dropWhile_cons, if_pos line] at h
      simp only [List.cons_append, indentation, ih h]
    · simp only [isLineBlank, Bool.or_eq_true, beq_iff_eq, not_or] at line
      simp [indentation, line]

theorem leadPast_append {text : Text} (h : text.dropWhile isLineBlank ≠ []) (lead : Lead)
    (other : Text) : leadPast lead (text ++ other) = leadPast lead text := by
  rw [leadPast, leadPast, indentation_append h]

section

variable {c : Char} {below : Text} (start : text.dropWhile isLineBlank = c :: below)
include start

theorem dropWhile_append_of_start (other : Text) :
    (text ++ other).dropWhile isLineBlank = c :: (below ++ other) := by
  rw [List.dropWhile_append, start]
  rfl

theorem suffix_of_start : c :: below <:+ text := by
  rw [← start]
  exact List.dropWhile_suffix isLineBlank

theorem leadPast_of_start (lead : Lead) (other : Text) :
    leadPast lead (text ++ other) = leadPast lead text :=
  leadPast_append (by simp [start]) lead other

theorem skippedLine_passage (visible : EndsVisible text) (skipped : c = '#' ∨ c = '\n')
    (h : step true here (text ++ white) = .goes lexemes next there rest) :
    Passage true here text white lexemes next there rest := by
  have starts := dropWhile_append_of_start start
  have suffix := suffix_of_start start
  rw [freshStep_of_skipped (starts white) skipped] at h
  cases h
  rcases dropWhile_comment (c :: below) with ⟨rest, further, same⟩ | same
  · simp only [List.cons_append] at same
    have hne : rest ≠ [] := by
      rintro rfl
      have ends := visible.of_suffix (further.trans suffix) (by simp)
      exact ends.getLast?_ne (by decide : isBlank '\n' = true) rfl
    refine .within rest ((List.suffix_cons _ _).trans (further.trans suffix))
      (by rw [same]; rfl) (fun _ => hne) fun place other alike _ => ?_
    rw [freshStep_of_skipped (starts other) skipped, same]
    exact ⟨_, _, rfl, rfl, alike.levels, alike.brackets, rfl⟩
  · simp only [List.cons_append] at same
    refine .comment (by rw [same]; rfl) rfl fun place other alike => ?_
    rw [freshStep_of_skipped (starts other) skipped, same]
    exact ⟨_, _, rfl, rfl, alike.levels, alike.brackets, rfl⟩

theorem codeLine_passage (skipped : ¬ (c = '#' ∨ c = '\n')) (backslash : c ≠ '\\')
    (h : step true here (text ++ white) = .goes lexemes next there rest) :
    Passage true here text white lexemes next there rest := by
  have starts := dropWhile_append_of_start start
  have lead := leadPast_of_start start
  rw [not_or] at skipped
  rw [freshStep_of_code (starts white) skipped backslash, lead] at h
  cases change : changeLevel (leadLevel (leadPast here.lead text)) here.levels with
  | error fault => simp [change] at h
  | ok found =>
    obtain ⟨changed, levels⟩ := found
    rw [change] at h
    cases h
    refine .within (c :: below) (suffix_of_start start) rfl (by simp) fun place other alike _ => ?_
    rw [freshStep_of_code (starts other) skipped backslash, lead, ← alike.levels, ← alike.lead, change]
    exact ⟨_, _, rfl, by simp, rfl, alike.brackets, rfl⟩

end

theorem joinedLine_passage {below : Text} (start : text.dropWhile isLineBlank = '\\' :: below)
    (visible : EndsVisible text)
    (h : step true here (text ++ white) = .goes lexemes next there rest) :
    Passage true here text white lexemes next there rest := by
  have starts := dropWhile_append_of_start start
  have suffix := suffix_of_start start
  have lead := leadPast_of_start start
  have alike {place : Position} (alike : here.Alike place) :
      ({ here with lead := leadJoined (leadPast here.lead text) } : Position).Alike
        { place with lead := leadJoined (leadPast place.lead text) } :=
    ⟨alike.levels, alike.brackets, by rw [alike.lead]⟩
  have ends : EndsVisible ('\\' :: below) := visible.of_suffix suffix (by simp)
  rw [freshStep_of_joined (starts white), lead] at h
  obtain ⟨rfl, ⟨rfl, hwhite, hne, again⟩ | ⟨rest, further, heq, hne, again⟩⟩ := joinStep_again ends h
  · refine .joined ?_ rfl hwhite hne fun place below same hbelow => ?_
    · obtain ⟨taken, rfl⟩ := suffix
      simp
    · rw [freshStep_of_joined (starts ('\n' :: below)), lead]
      exact again _ below (alike same) hbelow
  · refine .within rest (further.trans ((List.suffix_cons _ _).trans suffix)) heq (fun _ => hne)
      fun place other same _ => ?_
    rw [freshStep_of_joined (starts other), lead]
    exact again _ other (alike same)

/-- A step at the start of a line over a text that white space follows. -/
theorem freshStep_passage (visible : EndsVisible text)
    (h : step true here (text ++ white) = .goes lexemes next there rest) :
    Passage true here text white lexemes next there rest := by
  cases start : text.dropWhile isLineBlank with
  | nil =>
    obtain ⟨c, hc, hv⟩ := visible
    have line := List.dropWhile_eq_nil_iff.mp start c (List.mem_of_getLast? hc)
    simp [isLineBlank_eq_false hv] at line
  | cons c below =>
    by_cases skipped : c = '#' ∨ c = '\n'
    · exact skippedLine_passage start visible skipped h
    by_cases backslash : c = '\\'
    · subst backslash
      exact joinedLine_passage start visible h
    · exact codeLine_passage start skipped backslash h

theorem step_passage (visible : EndsVisible text) (hb : white.all isBlank = true)
    (h : step fresh here (text ++ white) = .goes lexemes next there rest) :
    Passage fresh here text white lexemes next there rest := by
  cases fresh with
  | false => exact innerStep_passage visible hb h
  | true => exact freshStep_passage visible h

/-- The reading of a script does not end at a character other than white space. -/
theorem step_ne_ends (visible : EndsVisible text) {lexing : Lexing}
    (h : step fresh here (text ++ white) = .ends lexing) : lexing.finish ≠ .complete := by
  cases fresh with
  | false => exact (innerStep_ends h).2
  | true =>
    cases start : (text ++ white).dropWhile isLineBlank with
    | nil =>
      obtain ⟨c, hc, hv⟩ := visible
      have line := List.dropWhile_eq_nil_iff.mp start c
        (List.mem_append_left _ (List.mem_of_getLast? hc))
      simp [isLineBlank_eq_false hv] at line
    | cons c below =>
      by_cases skipped : c = '#' ∨ c = '\n'
      · simp [freshStep_of_skipped start skipped] at h
      · rw [not_or] at skipped
        by_cases backslash : c = '\\'
        · subst backslash
          rw [freshStep_of_joined start] at h
          exact (joinStep_ends h).2
        · rw [freshStep_of_code start skipped backslash] at h
          grind

/-- What stands in the same line of white space, and what stands below. -/
def inLine (white : Text) : Text := white.takeWhile (· != '\n')

def belowLine (white : Text) : Text := (white.dropWhile (· != '\n')).drop 1

theorem dropWhile_eq_belowLine (h : '\n' ∈ white) :
    white.dropWhile (· != '\n') = '\n' :: belowLine white := by
  have stop := head?_dropWhile_any (· != '\n') white
  cases rest : white.dropWhile (· != '\n') with
  | nil =>
    have := List.dropWhile_eq_nil_iff.mp rest '\n' h
    simp at this
  | cons c below =>
    rw [rest] at stop
    obtain rfl : c = '\n' := by simpa using stop
    simp [belowLine, rest]

theorem inLine_append_belowLine (h : '\n' ∈ white) : inLine white ++ '\n' :: belowLine white = white := by
  rw [inLine, ← dropWhile_eq_belowLine h, List.takeWhile_append_dropWhile]

theorem getLast?_belowLine (h : white.getLast? = some '\n') (hne : belowLine white ≠ []) :
    (belowLine white).getLast? = some '\n' := by
  obtain ⟨c, below, hb⟩ := List.exists_cons_of_ne_nil hne
  rw [← inLine_append_belowLine (List.mem_of_getLast? h), hb, List.getLast?_append,
    List.getLast?_cons_cons] at h
  rw [hb]
  simpa using h

theorem wholeLines_belowLine (h : white.getLast? = some '\n') :
    belowLine white = [] ∨ (belowLine white).getLast? = some '\n' := by
  by_cases none : belowLine white = []
  · exact .inl none
  · exact .inr (getLast?_belowLine h none)

/-- What follows white space with a line end in it stands below its first line. -/
theorem inLine_append (h : '\n' ∈ white) (rest : Text) :
    inLine (white ++ rest) = inLine white ∧ belowLine (white ++ rest) = belowLine white ++ rest := by
  have whole : white ++ rest = inLine white ++ '\n' :: (belowLine white ++ rest) := by
    conv_lhs => rw [← inLine_append_belowLine h]
    simp
  have stop : ('\n' :: (belowLine white ++ rest)).head?.any (· != '\n') = false := rfl
  obtain ⟨taken, dropped⟩ := takeWhile_append_of_stops (@List.all_takeWhile _ (· != '\n') white) stop
  rw [whole, inLine, belowLine]
  exact ⟨taken, congrArg (List.drop 1) dropped⟩

theorem all_isSpacing_iff (h : '\n' ∈ white) :
    white.all isSpacing = true ↔
      (inLine white).all isLineBlank = true ∧ (belowLine white).all isSpacing = true := by
  have newline : isSpacing '\n' = true := by decide
  have line : (inLine white).all isSpacing = true ↔ (inLine white).all isLineBlank = true := by
    rw [List.all_eq_true, List.all_eq_true]
    refine forall₂_congr fun c hc => ?_
    have : c ≠ '\n' := by simpa using List.all_eq_true.mp List.all_takeWhile c hc
    simp [isSpacing, this]
  conv_lhs => rw [← inLine_append_belowLine h]
  rw [List.all_append, List.all_cons, newline, Bool.true_and, Bool.and_eq_true, line]

theorem all_isBlank_belowLine (hb : white.all isBlank = true) :
    (belowLine white).all isBlank = true := by
  rw [List.all_eq_true] at hb ⊢
  exact fun c hc => hb c ((List.dropWhile_suffix _).subset (List.mem_of_mem_drop hc))

/-- White space that a line end comes before may be read outside brackets. -/
theorem reads_newline_blank (hb : white.all isBlank = true) :
    Reads false here ('\n' :: white) tokens ↔
      white.all isSpacing = true ∧ here.brackets = [] ∧
        tokens = .newline :: endTokens here.levels := by
  have blank : isBlank '\n' = true := by decide
  have newline : isSpacing '\n' = true := by decide
  have all : ('\n' :: white : Text).all isBlank = true := by simp [blank, hb]
  simp [reads_blank_inner all, newline]

/-- A text that is read over where a line starts. -/
def IsReadOver (text : Text) : Prop := ∀ here, Reads true here text (endTokens here.levels)

/-- A text of which nothing is read, inside a line, but the end of the line. -/
def EndsLine (text : Text) : Prop :=
  ∀ here, here.brackets = [] → Reads false here text (.newline :: endTokens here.levels)

theorem IsReadOver.of_spacing (h : white.all isSpacing = true) : IsReadOver white := fun _ =>
  (reads_blank_fresh (all_isBlank_of_isSpacing h)).mpr ⟨h, rfl⟩

/-- The rest of a line that may be passed over where the line starts, before what is read over. -/
theorem IsReadOver.of_line {line below : Text} (hl : line.all isLineBlank = true)
    (hb : IsReadOver below) : IsReadOver (line ++ '\n' :: below) := by
  intro here
  have start : (line ++ '\n' :: below).dropWhile isLineBlank = '\n' :: below := by
    rw [List.dropWhile_append_of_pos (List.all_eq_true.mp hl)]
    rfl
  rw [reads_of_goes (freshStep_of_skipped start (.inr rfl))]
  exact ⟨_, rfl, hb { here with line := here.line + 1, lead := noLead }⟩

theorem EndsLine.ne_nil (h : EndsLine text) : text ≠ [] := by
  rintro rfl
  let here : Position := { line := 1, levels := [], brackets := [], lead := noLead }
  have ended : step false here [] = .ends (cutShort here) := rfl
  exact not_reads_of_ends ended (cutShort_spec here).2 (h here rfl)

theorem EndsLine.of_newline {below : Text} (hb : IsReadOver below) : EndsLine ('\n' :: below) := by
  intro here outside
  rw [reads_of_goes (step_newline_outside outside)]
  exact ⟨_, rfl, hb { here with line := here.line + 1 }⟩

theorem EndsLine.of_line {line below : Text} (hl : line.all isLineBlank = true)
    (hb : IsReadOver below) : EndsLine (line ++ '\n' :: below) := by
  induction line with
  | nil => exact .of_newline hb
  | cons c line ih =>
    rw [List.all_cons, Bool.and_eq_true] at hl
    intro here outside
    rw [List.cons_append, reads_of_goes (step_lineBlank hl.1)]
    exact ⟨_, rfl, ih hl.2 here outside⟩

theorem EndsLine.of_spacing (h : white.all isSpacing = true) (newline : '\n' ∈ white) :
    EndsLine white := by
  obtain ⟨line, below⟩ := (all_isSpacing_iff newline).mp h
  rw [← inLine_append_belowLine newline]
  exact .of_line line (.of_spacing below)

/-- What may follow a text in the place of white space, so that a sound script of it is not made
unsound. -/
structure Replaces (text white other : Text) : Prop where
  isBlank : (inLine other).all isBlank = true
  newline : '\n' ∈ other
  below : IsReadOver (belowLine other)
  /-- In the line of the text foreign characters stand only in the place of such characters. -/
  line : (inLine white).all isLineBlank = true → (inLine other).all isLineBlank = true
  /-- A backslash that joins the text with an empty line goes on doing so. -/
  joined : text.getLast? = some '\\' → ∀ below, white = '\n' :: below → below ≠ [] →
    inLine other = [] ∧ EndsLine (belowLine other)

theorem Replaces.of_suffix {left other : Text} (h : Replaces text white other)
    (suffix : left <:+ text) : Replaces left white other := by
  refine { h with joined := fun last => h.joined ?_ }
  obtain ⟨taken, rfl⟩ := suffix
  rw [List.getLast?_append, last]
  rfl

/-- White space in the place of other one. -/
theorem Replaces.of_blank {other : Text} (hb : other.all Text.isBlank = true) (newline : '\n' ∈ other)
    (below : (belowLine other).all isSpacing = true)
    (line : (inLine white).all isLineBlank = true → (inLine other).all isLineBlank = true)
    (joined : text.getLast? = some '\\' → ∀ below, white = '\n' :: below → below ≠ [] →
      inLine other = [] ∧ '\n' ∈ belowLine other) : Replaces text white other where
  isBlank := by
    rw [List.all_eq_true] at hb ⊢
    exact fun c hc => hb c ((List.takeWhile_prefix _).subset hc)
  newline := newline
  below := .of_spacing below
  line := line
  joined last further hw hne := by
    obtain ⟨none, newline⟩ := joined last further hw hne
    exact ⟨none, .of_spacing below newline⟩

theorem Replaces.outside {other : Text} (h : Replaces text white other) : Outside other := by
  have blank : (inLine other ++ ['\n']).all Text.isBlank = true := by
    rw [List.all_append, h.isBlank]
    decide
  rw [← inLine_append_belowLine h.newline, List.append_cons]
  exact .of_lines blank (by simp) (belowLine other)

theorem Reads.of_repeats {place : Position} {more : List Token}
    (h : Repeats (step fresh place text) lexemes next there rest)
    (reads : ∀ place, there.Alike place → Reads next place rest more) :
    Reads fresh place text (lexemes.map (·.token) ++ more) := by
  obtain ⟨others, place', same, tokens, alike⟩ := h
  rw [← tokens]
  exact .goes same (reads place' alike)

/-- The lines below a text hold white space of scripts only, and the text is read alike from any place
like the first and with anything after it that may stand in the place of the first white space. -/
def Replays (fresh : Bool) (here : Position) (text white : Text) (tokens : List Token) : Prop :=
  (belowLine white).all isSpacing = true ∧
    ∀ place other, here.Alike place → Replaces text white other → Reads fresh place (text ++ other) tokens

variable {more : List Token}

/-- In the place of white space of scripts stands what may be read alone. -/
theorem Replaces.endsLine {other : Text} (h : Replaces text white other)
    (spaced : (inLine white).all isLineBlank = true) :
    EndsLine other ∧ IsReadOver other ∧ StartsSpaced other := by
  have line := h.line spaced
  have first : StartsSpaced (inLine other ++ '\n' :: belowLine other) := by
    cases start : inLine other with
    | nil => rfl
    | cons c rest =>
      rw [start, List.all_cons, Bool.and_eq_true] at line
      simpa [StartsSpaced] using isSpacing_of_isLineBlank line.1
  rw [← inLine_append_belowLine h.newline]
  exact ⟨.of_line line h.below, .of_line line h.below, first⟩

/-- The last token of a text leaves only white space. -/
theorem Replays.of_last (hb : white.all isBlank = true) (hn : '\n' ∈ white)
    (reads : Reads false there white more)
    (again : ∀ place other, here.Alike place → Swap [] white other →
      Repeats (step fresh place (text ++ other)) lexemes false there other) :
    Replays fresh here text white (lexemes.map (·.token) ++ more) := by
  obtain ⟨spaced, -, outside, rfl⟩ := (reads_blank_inner hb).mp reads
  obtain ⟨line, below⟩ := (all_isSpacing_iff hn).mp spaced
  refine ⟨below, fun place other alike replaces => ?_⟩
  obtain ⟨ends, -, starts⟩ := replaces.endsLine line
  refine .of_repeats (again place other alike ⟨hb, replaces.outside, fun _ => starts⟩) ?_
  intro place' alike'
  rw [alike'.levels]
  exact ends place' (alike'.eq_nil_iff.mp outside)

/-- A comment at the end of a text goes on to the end of its line. -/
theorem Replays.of_comment (hb : white.all isBlank = true) (hn : '\n' ∈ white)
    (reads : Reads next there (afterComment next white) more)
    (again : ∀ place other, here.Alike place →
      Repeats (step fresh place (text ++ other)) lexemes next there (afterComment next other)) :
    Replays fresh here text white (lexemes.map (·.token) ++ more) := by
  have blankBelow := all_isBlank_belowLine hb
  cases next with
  | false =>
    have rest {white : Text} (hn : '\n' ∈ white) :
        afterComment false white = '\n' :: belowLine white := dropWhile_eq_belowLine hn
    rw [rest hn, reads_newline_blank blankBelow] at reads
    obtain ⟨spaced, outside, rfl⟩ := reads
    refine ⟨spaced, fun place other alike replaces => .of_repeats (again place other alike) ?_⟩
    intro place' alike'
    rw [rest replaces.newline, alike'.levels]
    exact EndsLine.of_newline replaces.below place' (alike'.eq_nil_iff.mp outside)
  | true =>
    obtain ⟨spaced, rfl⟩ := (reads_blank_fresh blankBelow).mp reads
    refine ⟨spaced, fun place other alike replaces => .of_repeats (again place other alike) ?_⟩
    intro place' alike'
    rw [alike'.levels]
    exact replaces.below place'

/-- A backslash at the end of a text joins the next line to its last one. -/
theorem Replays.of_joined {below : Text} (hb : below.all isBlank = true) (hne : below ≠ [])
    (last : text.getLast? = some '\\') (reads : Reads fresh there below more)
    (again : ∀ place below, here.Alike place → below ≠ [] →
      Repeats (step fresh place (text ++ '\n' :: below)) lexemes fresh there below) :
    Replays fresh here text ('\n' :: below) (lexemes.map (·.token) ++ more) := by
  have whole : belowLine ('\n' :: below) = below := by simp [belowLine]
  have joins {other : Text} (replaces : Replaces text ('\n' :: below) other) :
      other = '\n' :: belowLine other ∧ EndsLine (belowLine other) := by
    obtain ⟨line, ends⟩ := replaces.joined last below rfl hne
    have split := inLine_append_belowLine replaces.newline
    rw [line, List.nil_append] at split
    exact ⟨split.symm, ends⟩
  cases fresh with
  | false =>
    obtain ⟨spaced, -, outside, rfl⟩ := (reads_blank_inner hb).mp reads
    refine ⟨by rwa [whole], fun place other alike replaces => ?_⟩
    obtain ⟨split, ends⟩ := joins replaces
    rw [split]
    refine .of_repeats (again place _ alike ends.ne_nil) fun place' alike' => ?_
    rw [alike'.levels]
    exact ends place' (alike'.eq_nil_iff.mp outside)
  | true =>
    obtain ⟨spaced, rfl⟩ := (reads_blank_fresh hb).mp reads
    refine ⟨by rwa [whole], fun place other alike replaces => ?_⟩
    obtain ⟨split, ends⟩ := joins replaces
    rw [split]
    refine .of_repeats (again place _ alike ends.ne_nil) fun place' alike' => ?_
    rw [alike'.levels]
    exact replaces.below place'

/-- A script that is read with white space after it is read alike with anything that may stand in the
place of the white space. -/
theorem Reads.replay (h : Reads fresh here (text ++ white) tokens) (visible : EndsVisible text)
    (hb : white.all isBlank = true) (hn : '\n' ∈ white) : Replays fresh here text white tokens := by
  generalize whole : text ++ white = t at h
  induction h generalizing text with
  | ends move complete =>
    subst whole
    exact absurd complete (step_ne_ends visible move)
  | @goes fresh next here there _ rest lexemes more move reads ih =>
    subst whole
    cases step_passage visible hb move with
    | within left suffix hrest hnext again =>
      subst hrest
      by_cases hne : left = []
      · subst hne
        obtain rfl : next = false := by simpa using hnext
        exact .of_last hb hn reads again
      · obtain ⟨below, replay⟩ := ih (visible.of_suffix suffix hne) rfl
        refine ⟨below, fun place other alike replaces => ?_⟩
        refine .of_repeats (again place other alike ⟨hb, replaces.outside, fun h => absurd h hne⟩) ?_
        exact fun place' alike' => replay place' other alike' (replaces.of_suffix suffix)
    | comment hrest hnext again =>
      subst hrest hnext
      exact .of_comment hb hn reads again
    | joined last hnext hwhite hrest again =>
      subst hnext hwhite
      rw [List.all_cons, Bool.and_eq_true] at hb
      exact .of_joined hb.2 hrest last reads again

end Lexing

end DocExamples.Script
