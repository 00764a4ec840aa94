import DocExamples.Text.NormalForm

namespace DocExamples.Text

section Ascii

variable {tail : Text} (ascii : ∀ c ∈ tail, c.toNat < 0x80)
include ascii

theorem flatMap_plain_of_ascii : tail.flatMap plain = tail := by
  induction tail with
  | nil => rfl
  | cons c tail ih =>
    rw [List.flatMap_cons, plain_of_ascii (ascii c List.mem_cons_self),
      ih fun d mem => ascii d (List.mem_cons_of_mem c mem)]
    rfl

theorem flatMap_decompose_of_ascii (fuel : Nat) : tail.flatMap (decompose fuel) = tail := by
  induction tail with
  | nil => rfl
  | cons c tail ih =>
    rw [List.flatMap_cons, decompose_of_ascii (ascii c List.mem_cons_self),
      ih fun d mem => ascii d (List.mem_cons_of_mem c mem)]
    rfl

/-- No mark is put after a character that is none. -/
theorem insertMark_append (c : Char) (text : Text) :
    insertMark c (text ++ tail) = insertMark c text ++ tail := by
  induction text with
  | nil =>
    cases tail with
    | nil => rfl
    | cons d tail =>
      have first : insertMark c (d :: tail) = c :: d :: tail := by
        rw [insertMark, markClass_of_ascii (ascii d List.mem_cons_self)]
        rfl
      exact first
  | cons d text ih =>
    rw [List.cons_append, insertMark, insertMark]
    split
    · rw [ih, List.cons_append]
    · rfl

theorem foldr_insertMark_append (text : Text) :
    (text ++ tail).foldr insertMark [] = text.foldr insertMark [] ++ tail := by
  have last : tail.foldr insertMark [] = tail := by
    induction tail with
    | nil => rfl
    | cons c tail ih =>
      have later : ∀ d ∈ tail, d.toNat < 0x80 := fun d mem => ascii d (List.mem_cons_of_mem c mem)
      rw [List.foldr_cons, ih later]
      exact insertMark_append later c []
  induction text with
  | nil => exact last
  | cons c text ih => rw [List.cons_append, List.foldr_cons, List.foldr_cons, ih, insertMark_append ascii]

/-- A letter and an ASCII character after it do not make one. -/
theorem composeFrom_ascii (letter : Char) (marks : Text) :
    composeFrom letter marks tail = letter :: marks ++ tail := by
  induction tail generalizing letter marks with
  | nil => rw [composeFrom, List.append_nil]
  | cons c tail ih =>
    have first := ascii c List.mem_cons_self
    have apart (isFree : Bool) : (if isFree then compose? letter c else none) = none := by
      rw [compose?_of_ascii first, ite_self]
    rw [composeFrom]
    simp only [apart, markClass_of_ascii first, if_pos]
    rw [ih fun d mem => ascii d (List.mem_cons_of_mem c mem)]
    simp

theorem composeFrom_append (letter : Char) (marks text : Text) :
    composeFrom letter marks (text ++ tail) = composeFrom letter marks text ++ tail := by
  induction text generalizing letter marks with
  | nil => rw [List.nil_append, composeFrom_ascii ascii, composeFrom]
  | cons c text ih =>
    rw [List.cons_append, composeFrom, composeFrom]
    split
    · exact ih _ _
    · split
      · rw [ih, List.append_assoc]
      · exact ih _ _

/-- The normal form of a text that goes on in ASCII goes on in the same way. -/
theorem normalForm_append (text : Text) : normalForm (text ++ tail) = normalForm text ++ tail := by
  have same : tail.all (fun c => c.toNat < 0x80) = true := by
    simpa using ascii
  rw [normalForm, normalForm, List.all_append, same, Bool.and_true]
  split
  · rfl
  · rw [List.flatMap_append, List.flatMap_append, flatMap_plain_of_ascii ascii,
      flatMap_decompose_of_ascii ascii, foldr_insertMark_append ascii]
    cases ((text.flatMap plain).flatMap (decompose 4)).foldr insertMark [] with
    | nil =>
      cases tail with
      | nil => rfl
      | cons c tail =>
        exact composeFrom_ascii (fun d mem => ascii d (List.mem_cons_of_mem c mem)) c []
    | cons c rest => exact composeFrom_append ascii c [] rest

end Ascii

/-- A form that the spellings of one identifier share. An ASCII end keeps its form and leaves the one of the
text before it alone. -/
structure Normalization where
  form : Text → Text
  form_append : ∀ text tail : Text, (∀ c ∈ tail, c.toNat < 0x80) → form (text ++ tail) = form text ++ tail

/-- The form of identifiers in scripts. -/
def Normalization.identifier : Normalization where
  form := normalForm
  form_append text _ ascii := normalForm_append ascii text

end DocExamples.Text
