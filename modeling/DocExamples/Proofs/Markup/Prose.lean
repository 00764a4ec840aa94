import DocExamples.Proofs.Markup.Building
import DocExamples.Proofs.Markup.Weight

namespace DocExamples.Markup

open Text

namespace Content

variable {content : Content} {found : Tag × Content}

theorem prose_reverseOnto (content after : Content) :
    (content.reverseOnto after).prose = content.reverse.prose ++ after.prose := by
  induction content generalizing after with
  | done => rfl
  | string kind text next ih =>
    rw [reverse, reverseOnto, reverseOnto, ih, ih]
    simp only [prose]
    split <;> simp
  | element tag inside next _ ih =>
    rw [reverse, reverseOnto, reverseOnto, ih, ih]
    simp [prose]

theorem prose_infix_of_mem_descendants (h : found ∈ content.descendants) :
    found.2.prose <:+: content.prose := by
  induction content with
  | done => cases h
  | string kind text next ih =>
    have inside := ih h
    rw [prose]
    split
    · exact inside.trans (List.suffix_append text next.prose).isInfix
    · exact inside
  | element tag inside next inIH nextIH =>
    rw [descendants, List.cons_append, List.mem_cons, List.mem_append] at h
    rw [prose]
    rcases h with rfl | inner | later
    · exact (List.prefix_append _ _).isInfix
    · exact (inIH inner).trans (List.prefix_append _ _).isInfix
    · exact (nextIH later).trans (List.suffix_append _ _).isInfix

theorem mem_descendants_of_mem_children (h : found ∈ content.children) : found ∈ content.descendants := by
  induction content with
  | done => cases h
  | string kind text next ih => exact ih h
  | element tag inside next _ ih =>
    rw [descendants, List.cons_append, List.mem_cons, List.mem_append]
    rcases List.mem_cons.mp h with same | later
    · exact .inl same
    · exact .inr (.inr (ih later))

end Content

namespace Builder

variable {b b' b'' : Builder} {budget budget' : Nat}

/-- What the tree says so far, without the string that is being read. -/
def spoken (b : Builder) : Text :=
  b.outside.reverse.prose ++ b.openElements.reverse.flatMap fun element => element.inside.reverse.prose

/-- What the string that is being read weighs at most. -/
def waiting (b : Builder) : Nat := (b.pending.map held).getD 0

/-- A tree that says what another one says and then no more than the other's waiting string and a budget. -/
def Grows (budget : Nat) (b b' : Builder) : Prop :=
  ∃ said, b'.spoken = b.spoken ++ said ∧ weight said + b'.waiting ≤ b.waiting + budget

theorem Grows.of_eq (spoken : b'.spoken = b.spoken) (pending : b'.pending = b.pending) : Grows 0 b b' := by
  refine ⟨[], ?_, ?_⟩
  · rw [spoken, List.append_nil]
  · rw [waiting, waiting, pending]
    exact le_of_eq (Nat.zero_add _)

theorem Grows.trans (h : Grows budget b b') (h' : Grows budget' b' b'') :
    Grows (budget + budget') b b'' := by
  obtain ⟨said, spoken, weighs⟩ := h
  obtain ⟨said', spoken', weighs'⟩ := h'
  refine ⟨said ++ said', ?_, ?_⟩
  · rw [spoken', spoken, List.append_assoc]
  · rw [weight_append]
    omega

theorem weight_collapse_le (text : Text) : weight (collapse text) ≤ held text := by
  have one (c : Char) (blank : isMarkupBlank c = true) : weigh c = 1 := by
    simp only [isMarkupBlank, Bool.or_eq_true, beq_iff_eq] at blank
    rcases blank with (((rfl | rfl) | rfl) | rfl) | rfl <;> decide
  unfold collapse
  split
  · next blank =>
    have single : weight (if text.contains '\n' then ['\n'] else [' ']) = 1 := by
      split <;> decide
    rw [single]
    cases text with
    | nil => exact le_rfl
    | cons c text =>
      have first := one c (List.all_eq_true.mp blank c List.mem_cons_self)
      rw [held_of_ne_nil (List.cons_ne_nil c text), weight_cons, first]
      omega
  · exact weight_le_held text

theorem spoken_addString (b : Builder) (kind : StringKind) (text : Text) :
    (b.addString kind text).spoken = b.spoken ++
      if kind = .plain || kind = .cdata then
        (if b.isInside preservingNames then text else collapse text) else [] := by
  have string (text : Text) (next : Content) : (Content.string kind text next).reverse.prose =
      next.reverse.prose ++ if kind = .plain || kind = .cdata then text else [] := by
    rw [Content.reverse, Content.reverseOnto, Content.prose_reverseOnto, Content.prose]
    split <;> simp [Content.prose]
  obtain ⟨elements, outside, pending, early⟩ := b
  unfold addString
  dsimp only
  cases elements with
  | nil => simp [spoken, string]
  | cons element rest => simp [spoken, string]

theorem addString_grows (b : Builder) (kind : StringKind) (text : Text) :
    Grows (if kind = .plain || kind = .cdata then held text else 0) b (b.addString kind text) := by
  refine ⟨_, spoken_addString b kind text, ?_⟩
  rw [waiting, waiting, pending_addString]
  split
  · split
    · have string := weight_le_held text
      omega
    · have string := weight_collapse_le text
      omega
  · exact le_of_eq (Nat.zero_add _)

/-- The end of a string uses up what was kept for it. -/
theorem endString_grows (b : Builder) : Grows 0 b b.endString := by
  cases waits : b.pending with
  | none =>
    rw [endString_of_pending waits]
    exact .of_eq rfl rfl
  | some text =>
    obtain ⟨said, spoken, weighs⟩ := addString_grows { b with pending := none }
      (if b.isInside embeddingNames then .embedded else .plain) text
    have shape : b.endString = { b with pending := none }.addString
        (if b.isInside embeddingNames then .embedded else .plain) text := by
      rw [endString, waits]
    have budget (kind : StringKind) : (if kind = .plain || kind = .cdata then held text else 0) ≤
        held text := by
      split
      · exact le_rfl
      · exact Nat.zero_le _
    have enough := budget (if b.isInside embeddingNames then .embedded else .plain)
    have before : b.waiting = held text := by rw [waiting, waits]; rfl
    have after : ({ b with pending := none } : Builder).waiting = 0 := rfl
    refine ⟨said, ?_, ?_⟩
    · rw [shape, spoken]
      rfl
    · rw [shape]
      omega

theorem closeInnermost_grows (b : Builder) : Grows 0 b b.closeInnermost := by
  have element (tag : Tag) (inside next : Content) : (Content.element tag inside next).reverse.prose =
      next.reverse.prose ++ inside.prose := by
    rw [Content.reverse, Content.reverseOnto, Content.prose_reverseOnto, Content.prose, Content.prose,
      List.append_nil]
  obtain ⟨elements, outside, pending, early⟩ := b
  match elements with
  | [] => exact .of_eq rfl rfl
  | innermost :: [] => exact .of_eq (by simp [closeInnermost, spoken, element]) rfl
  | innermost :: parent :: rest => exact .of_eq (by simp [closeInnermost, spoken, element]) rfl

theorem closeMany_grows (n : Nat) (b : Builder) : Grows 0 b (closeMany n b) := by
  induction n generalizing b with
  | zero => exact .of_eq rfl rfl
  | succ n ih => exact (closeInnermost_grows b).trans (ih b.closeInnermost)

theorem close_grows (b : Builder) (name : Text) : Grows 0 b (b.close name) := by
  rw [close]
  split
  · exact (endString_grows b).trans (closeMany_grows _ _)
  · exact endString_grows b

theorem endTag_grows (b : Builder) (name : Text) : Grows 0 b (b.endTag name) := by
  rw [endTag]
  split
  · exact .of_eq rfl rfl
  · exact close_grows b name

theorem enter_grows (b : Builder) (tag : Tag) : Grows 0 b (b.enter tag) := by
  refine .of_eq ?_ rfl
  simp [enter, spoken, Content.reverse, Content.reverseOnto, Content.prose]

theorem startTag_grows (b : Builder) (tag : Tag) (selfClosing : Bool) :
    Grows 0 b (b.startTag tag selfClosing) := by
  have entered := (endString_grows b).trans (enter_grows b.endString tag)
  have closed := entered.trans (close_grows (b.endString.enter tag) tag.name)
  change Grows 0 b (if selfClosing then (b.endString.enter tag).close tag.name
    else if voidNames.contains tag.name then
      { (b.endString.enter tag).close tag.name with
        closedEarly := tag.name :: (b.endString.enter tag).closedEarly }
    else b.endString.enter tag)
  split
  · exact closed
  · split
    · exact closed.trans (.of_eq rfl rfl)
    · exact entered

theorem data_grows (b : Builder) (text : Text) :
    Grows (held text) b { b with pending := some (b.pending.getD [] ++ text) } := by
  refine ⟨[], (List.append_nil _).symm, ?_⟩
  have none : weight [] = 0 := rfl
  rw [none, waiting, waiting]
  cases b.pending with
  | none => simp
  | some before =>
    have joined := held_append_le before text
    simpa using joined

/-- A token adds no more than it weighs. -/
theorem take_grows (b : Builder) (token : Token) : Grows token.load b (b.take token) := by
  cases token with
  | data text => exact data_grows b text
  | start tag selfClosing => exact startTag_grows b tag selfClosing
  | stop name => exact endTag_grows b name
  | aside kind text =>
    have added := (endString_grows b).trans (addString_grows b.endString (kindOf kind) text)
    rw [Nat.zero_add] at added
    cases kind <;> exact added

theorem foldl_grows (found : List Token) (b : Builder) :
    Grows (Token.loads found) b (found.foldl take b) := by
  induction found generalizing b with
  | nil => exact .of_eq rfl rfl
  | cons token found ih => exact (take_grows b token).trans (ih (b.take token))

theorem openElements_closeInnermost (b : Builder) :
    b.closeInnermost.openElements.length = b.openElements.length - 1 := by
  obtain ⟨elements, outside, pending, early⟩ := b
  match elements with
  | [] => rfl
  | innermost :: [] => rfl
  | innermost :: parent :: rest => rfl

theorem openElements_closeMany {n : Nat} (h : b.openElements.length ≤ n) :
    (closeMany n b).openElements = [] := by
  induction n generalizing b with
  | zero => exact List.eq_nil_of_length_eq_zero (Nat.le_zero.mp h)
  | succ n ih =>
    refine ih ?_
    rw [openElements_closeInnermost]
    omega

/-- A finished tree says what the tree says so far and its last string. -/
theorem exists_prose_finish (b : Builder) :
    ∃ said, b.finish.prose = b.spoken ++ said ∧ weight said ≤ b.waiting := by
  obtain ⟨said, spoken, weighs⟩ :=
    (endString_grows b).trans (closeMany_grows b.endString.openElements.length b.endString)
  have closed := openElements_closeMany (le_refl b.endString.openElements.length)
  refine ⟨said, ?_, by omega⟩
  rw [← spoken, Builder.spoken, closed]
  exact (List.append_nil _).symm

end Builder

/-- The tree of tokens says what those at its start come to, and then no more than the others weigh. -/
theorem Content.exists_prose_ofTokens (found later : List Token)
    (h : (found.foldl Builder.take Builder.empty).pending = none) :
    ∃ said, (ofTokens (found ++ later)).prose = (found.foldl Builder.take Builder.empty).spoken ++ said ∧
      weight said ≤ Token.loads later := by
  obtain ⟨said, spoken, weighs⟩ := Builder.foldl_grows later (found.foldl Builder.take Builder.empty)
  obtain ⟨last, finished, weighsLast⟩ :=
    Builder.exists_prose_finish (later.foldl Builder.take (found.foldl Builder.take Builder.empty))
  have before : (found.foldl Builder.take Builder.empty).waiting = 0 := by
    rw [Builder.waiting, h]
    rfl
  refine ⟨said ++ last, ?_, ?_⟩
  · rw [ofTokens, List.foldl_append, finished, spoken, List.append_assoc]
  · rw [weight_append]
    omega

end DocExamples.Markup
