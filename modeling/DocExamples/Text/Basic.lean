namespace DocExamples

/-- Text is a sequence of code points. -/
abbrev Text := List Char

namespace Text

def after? : (token text : Text) → Option Text
  | [], text => some text
  | _ :: _, [] => none
  | t :: token, c :: text => if t = c then after? token text else none

/-- The text before and after the first occurrence of `token`. -/
def cut? (token : Text) : Text → Option (Text × Text)
  | [] => (after? token []).map ([], ·)
  | c :: text =>
    match after? token (c :: text) with
    | some rest => some ([], rest)
    | none => (cut? token text).map fun (before, rest) => (c :: before, rest)

def cutAt? (mark : Char) : Text → Option (Text × Text)
  | [] => none
  | c :: text =>
    if c = mark then some ([], text)
    else (cutAt? mark text).map fun (before, rest) => (c :: before, rest)

/-- The pieces between the occurrences of the character `mark`: always at least one. -/
def pieces (mark : Char) : Text → List Text
  | [] => [[]]
  | c :: text =>
    if c = mark then [] :: pieces mark text
    else
      match pieces mark text with
      | [] => [[c]]
      | piece :: rest => (c :: piece) :: rest

/-- Texts one after another with `between` between neighbours. -/
def joinWith (between : Text) : List Text → Text
  | [] => []
  | [t] => t
  | t :: u :: ts => t ++ between ++ joinWith between (u :: ts)

/-- The text without its longest end of characters in the class `p`. -/
def trimEnd (p : Char → Bool) (t : Text) : Text :=
  (t.reverse.dropWhile p).reverse

/-- The text without its longest start and its longest end of characters in the class `p`. -/
def trim (p : Char → Bool) (t : Text) : Text :=
  trimEnd p (t.dropWhile p)

def isPart (part : Text) : Text → Bool
  | [] => part.isEmpty
  | c :: text => part.isPrefixOf (c :: text) || isPart part text

def afterLast (c : Char) (text : Text) : Text := (text.reverse.takeWhile (· != c)).reverse

def times : Nat → Text → Text
  | 0, _ => []
  | n + 1, t => t ++ times n t

theorem after?_append (token rest : Text) : after? token (token ++ rest) = some rest := by
  induction token with
  | nil => cases rest <;> rfl
  | cons c token ih => simp [after?, ih]

theorem after?_eq_some_iff {token text rest : Text} :
    after? token text = some rest ↔ text = token ++ rest := by
  constructor
  · intro h
    fun_induction after? token text with
    | case1 text => simpa using h
    | case2 => simp at h
    | case3 token c text ih => simp [ih h]
    | case4 => simp at h
  · rintro rfl
    exact after?_append token rest

end Text

end DocExamples
