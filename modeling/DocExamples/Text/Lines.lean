import DocExamples.Text.Class

namespace DocExamples.Text

/-- The lines of a text, ended by CRLF or LF, empty first and last lines included. -/
def splitLines : Text → List Text
  | [] => [[]]
  | '\r' :: '\n' :: text => [] :: splitLines text
  | c :: text =>
    if c = '\n' then [] :: splitLines text
    else
      match splitLines text with
      | [] => [[c]]
      | line :: rest => (c :: line) :: rest

/-- The lines that a comparison looks at: all but a single empty last one. -/
def comparableLines (lines : List Text) : List Text :=
  if lines.getLast? = some [] then lines.dropLast else lines

/-- Characters at which a listing is cut into lines. -/
def isLineBoundary (c : Char) : Bool :=
  (0x0A ≤ c.toNat && c.toNat ≤ 0x0D) || (0x1C ≤ c.toNat && c.toNat ≤ 0x1E) || c.toNat == 0x85 ||
    c.toNat == 0x2028 || c.toNat == 0x2029

/-- The lines of a listing, each with the boundary that ends it; CRLF is one boundary. -/
def wholeLines : Text → List Text
  | [] => []
  | '\r' :: '\n' :: text => ['\r', '\n'] :: wholeLines text
  | c :: text =>
    if isLineBoundary c then [c] :: wholeLines text
    else
      match wholeLines text with
      | [] => [[c]]
      | line :: rest => (c :: line) :: rest

/-- Puts `lead` in front of every line of a listing that has a character other than white space. -/
def indentLines (lead listing : Text) : Text :=
  (wholeLines listing).flatMap fun line => if line.all isBlank then line else lead ++ line

/-- Text with CRLF and lone CR turned into LF. -/
def unifyNewlines : Text → Text
  | [] => []
  | '\r' :: '\n' :: text => '\n' :: unifyNewlines text
  | c :: text => (if c = '\r' then '\n' else c) :: unifyNewlines text

theorem splitLines_ne_nil (t : Text) : splitLines t ≠ [] := by
  fun_cases splitLines t <;> simp_all

end DocExamples.Text
