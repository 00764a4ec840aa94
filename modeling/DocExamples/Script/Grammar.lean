import DocExamples.Script.Program
import DocExamples.Script.Reader
import DocExamples.Text.NormalForm

namespace DocExamples.Script

open Text

/-- Words that are no names. -/
def keywords : List Text :=
  ["False", "None", "True", "and", "as", "assert", "async", "await", "break", "class", "continue",
    "def", "del", "elif", "else", "except", "finally", "for", "from", "global", "if", "import", "in",
    "is", "lambda", "nonlocal", "not", "or", "pass", "raise", "return", "try", "while", "with",
    "yield"].map String.toList

/-- Words that are keywords in some places only. -/
def softKeywords : List Text := ["_", "case", "match"].map String.toList

namespace Expr

def kind : Expr → String
  | none => "None"
  | bool true => "True"
  | bool false => "False"
  | int _ | str _ => "literal"
  | name _ => "name"
  | tuple _ => "tuple"
  | list _ => "list"
  | dict _ => "dict literal"
  | negate _ | keep _ | invert _ | binary .. | both .. | either .. => "expression"
  | choice .. => "conditional expression"
  | compare .. => "comparison"
  | member .. => "attribute"
  | subscript .. => "subscript"
  | call .. => "function call"
  | wait _ => "await expression"

mutual

/-- The part of an expression that keeps it from being assigned to, by a loop or otherwise. In front of
a loop's items only what stands before the word `in` counts. -/
def unassignable? (byLoop : Bool) : Expr → Option Expr
  | name _ | member .. | subscript .. => Option.none
  | tuple items | list items => unassignableIn? byLoop items
  | compare first others line =>
    if !byLoop then some (compare first others line)
    else if others.head?.any (·.1 == .contained) then first.unassignable? byLoop
    else Option.none
  | value => some value

def unassignableIn? (byLoop : Bool) : List Expr → Option Expr
  | [] => Option.none
  | item :: items => (item.unassignable? byLoop).or (unassignableIn? byLoop items)

end

end Expr

namespace Lexeme

def isName (lexeme : Lexeme) : Bool :=
  match lexeme.token with
  | .name text => !keywords.contains text
  | _ => false

def depthBefore (lexeme : Lexeme) : Nat :=
  match lexeme.token with
  | .op ['('] | .op ['['] | .op ['\x7b'] => lexeme.depth - 1
  | _ => lexeme.depth

/-- Whether lexemes between brackets, at a depth, have a comma of their own. -/
def haveComma (depth : Nat) (lexemes : List Lexeme) : Bool :=
  lexemes.any fun lexeme => lexeme.depth == depth && lexeme.token == .op [',']

/-- The line in which the expression that some lexemes make up starts: brackets around all of it do not
belong to it. The fuel bounds the number of brackets. -/
def startLine : (fuel : Nat) → List Lexeme → Nat
  | _, [] => 0
  | 0, first :: _ => first.line
  | fuel + 1, first :: rest =>
    let inside := rest.dropLast
    let isGroup := first.token == .op ['('] && rest.getLast?.any (·.depth < first.depth) &&
      inside.all (first.depth ≤ ·.depth) && !inside.isEmpty && !haveComma first.depth inside
    if isGroup then startLine fuel inside else first.line

def linkingWords : List Text := ["and", "if", "in", "is", "not", "or"].map String.toList

def comparingOperators : List Text := ["==", "!=", "<", "<=", ">", ">="].map String.toList

/-- Whether the lexemes of an expression make up one operand of a comparison. -/
def makeOperand (lexemes : List Lexeme) : Bool :=
  match lexemes with
  | [] => false
  | first :: _ =>
    !lexemes.any fun lexeme => lexeme.depth == first.depthBefore &&
      match lexeme.token with
      | .name text => linkingWords.contains text
      | .op op => comparingOperators.contains op
      | _ => false

/-- Whether an expression starts with brackets of a list or of a tuple, or with a constant. -/
def startLikeTarget (lexemes : List Lexeme) : Bool :=
  match lexemes with
  | [] => false
  | first :: rest =>
    let inside := rest.takeWhile (first.depth ≤ ·.depth)
    first.token == .op ['['] ||
      (first.token == .op ['('] && (inside.isEmpty || haveComma first.depth inside)) ||
      ["True", "None", "False"].any fun word => first.token == .name word.toList

end Lexeme

namespace Reader

def identifier : Reader Text := do
  match ← next with
  | .name text =>
    if keywords.contains text then stuck
    else
      skip
      return normalForm text
  | _ => stuck

/-- One or more string literals in a row are one. -/
def strings (fuel : Nat) : Reader Text := do
  let parts ← many string fuel
  match parts.mapM id with
  | .error fault => foundAtFar fault
  | .ok texts => if texts.isEmpty then stuck else return texts.flatten
where
  string : Reader (Except Fault Text) := do
    match ← next with
    | .str text =>
      skip
      return .ok text
    | .brokenStr fault =>
      skip
      return .error fault
    | _ => stuck

def comparison : Reader Comparison := do
  match ← next with
  | .op ['=', '='] => return ← taken (.related .equal)
  | .op ['!', '='] => return ← taken (.related .notEqual)
  | .op ['<'] => return ← taken (.related .less)
  | .op ['<', '='] => return ← taken (.related .lessOrEqual)
  | .op ['>'] => return ← taken (.related .greater)
  | .op ['>', '='] => return ← taken (.related .greaterOrEqual)
  | .name word =>
    if word = "in".toList then return ← taken .contained
    else if word = "not".toList then
      skip
      takeWord "in"
      return .notContained
    else if word = "is".toList then
      skip
      if ← takeIf (.name "not".toList) then return .notIdentical else return .identical
    else stuck
  | _ => stuck
where
  taken (comparison : Comparison) : Reader Comparison := do
    skip
    return comparison

def operator (known : List (String × Operator)) : Reader Operator := do
  match ← next with
  | .op op =>
    match known.find? fun entry => entry.1.toList == op with
    | some entry =>
      skip
      return entry.2
    | none => stuck
  | _ => stuck

def checkComma (start : Cursor) (expression : Reader Expr) : Reader Unit := do
  let lexemes ← takenSince start
  let isExcluded := match start.rest with
    | first :: second :: _ =>
      first.isName && match second.token with
        | .str _ | .brokenStr _ => true
        | _ => false
    | _ => false
  let isSoft := match start.rest.head?.map (·.token) with
    | some (.name text) => softKeywords.contains text
    | _ => false
  let isLegacy := match lexemes with
    | [⟨.name text, _, _⟩] => text = "print".toList || text = "exec".toList
    | _ => false
  if isExcluded || isSoft then return
  match ← ahead expression with
  | some (_, cursor) =>
    if !isLegacy && cursor.last.any (·.depth != 0) then
      found .missingComma (Lexeme.startLine lexemes.length lexemes)
  | none => return

def checkElse (start : Cursor) (condition : Reader Expr) : Reader Unit := do
  if !(← isWord "if") then return
  match ← ahead (do skip; let _ ← condition; return (← isWord "else") || (← isOp ":")) with
  | some (false, _) =>
    let lexemes ← takenSince start
    found .missingElse (Lexeme.startLine lexemes.length lexemes)
  | _ => return

def checkLegacy (start : Cursor) (expressions : Reader Expr) : Reader Unit := do
  match start.rest with
  | ⟨.name text, line, _⟩ :: _ =>
    if text = "print".toList || text = "exec".toList then
      let here ← get
      goBack start
      skip
      if !(← isOp "(") then
        match ← attempt expressions with
        | some _ => found (.missingParentheses text) line
        | none => pure ()
      goBack here
  | _ => return

def checkAssignment (start : Cursor) (value : Expr) (operand : Reader Expr) : Reader Unit := do
  let lexemes ← takenSince start
  if !(← isOp "=") || !Lexeme.makeOperand lexemes then return
  let rest := do
    skip
    let _ ← operand
    return (← isOp "=") || (← isOp ":=")
  match ← ahead rest with
  | some (false, _) =>
    match lexemes, value with
    | [first], .name _ => found .comparisonMeant first.line
    | _, _ =>
      if !Lexeme.startLikeTarget lexemes then
        found (.cannotAssignHere value.kind) (Lexeme.startLine lexemes.length lexemes)
  | _ => return

/-- Looks for an entry of a dictionary without its value and, after other entries, for one without its
colon. -/
def checkEntries (entry : Reader (Expr × Expr)) (key : Reader Expr) (fuel : Nat) : Reader Unit := do
  let start ← get
  let others := do
    let _ ← entry
    let _ ← many (do takeOp ","; entry) fuel
    takeOp ","
  if (← attempt others).isSome then checkEntry true
  goBack start
  checkEntry false
where
  checkEntry (isFurther : Bool) : Reader Unit := do
    let start ← get
    if (← attempt key).isNone then return
    if ← isOp ":" then
      let line ← line
      skip
      if (← isOp ",") || (← isNext (.op ['\x7d'])) then found .missingValue line
    else if isFurther then
      let lexemes ← takenSince start
      found .missingKeyColon (Lexeme.startLine lexemes.length lexemes)

/-- Looks for a loop over something that cannot be assigned to. -/
def checkLoopTarget (expressions : Reader Expr) : Reader Unit := do
  let line ← line
  match (← ahead expressions).bind (·.1.unassignable? true) with
  | some part => found (.cannotAssign part.kind) line
  | none => return

mutual

/-- A list of expressions between commas; more than one, or a comma after it, makes a tuple. -/
def expressions (diagnose : Bool) : (fuel : Nat) → Reader Expr
  | 0 => stuck
  | fuel + 1 => do
    let first ← expression diagnose fuel
    if ← isOp "," then
      let others ← many (do takeOp ","; expression diagnose fuel) fuel
      let _ ← takeIfOp ","
      return .tuple (first :: others)
    else return first

/-- An expression. When causes are looked for, what follows it is looked at too. -/
def expression (diagnose : Bool) : (fuel : Nat) → Reader Expr
  | 0 => stuck
  | fuel + 1 => do
    let start ← get
    let value ← disjunction diagnose fuel
    if diagnose then
      checkComma start (expression false fuel)
      checkElse start (disjunction true fuel)
      checkLegacy start (expressions true fuel)
    if ← isWord "if" then
      let choice ← attempt do
        skip
        let condition ← disjunction diagnose fuel
        takeWord "else"
        return Expr.choice condition value (← expression diagnose fuel)
      return choice.getD value
    else return value

/-- An expression in a place where it could be given a name. -/
def nameable (diagnose : Bool) : (fuel : Nat) → Reader Expr
  | 0 => stuck
  | fuel + 1 => do
    let start ← get
    let value ← expression diagnose fuel
    if diagnose then checkAssignment start value (sum true fuel)
    return value

def disjunction (diagnose : Bool) : (fuel : Nat) → Reader Expr
  | 0 => stuck
  | fuel + 1 => do
    let first ← conjunction diagnose fuel
    let others ← many (do takeWord "or"; conjunction diagnose fuel) fuel
    return others.foldl .either first

def conjunction (diagnose : Bool) : (fuel : Nat) → Reader Expr
  | 0 => stuck
  | fuel + 1 => do
    let first ← inversion diagnose fuel
    let others ← many (do takeWord "and"; inversion diagnose fuel) fuel
    return others.foldl .both first

def inversion (diagnose : Bool) : (fuel : Nat) → Reader Expr
  | 0 => stuck
  | fuel + 1 => do
    if ← isWord "not" then
      skip
      return .invert (← inversion diagnose fuel)
    else
      let line ← line
      let first ← sum diagnose fuel
      let others ← many (do return (← comparison, ← sum diagnose fuel)) fuel
      return if others.isEmpty then first else .compare first others line

def sum (diagnose : Bool) : (fuel : Nat) → Reader Expr
  | 0 => stuck
  | fuel + 1 => do
    let first ← product diagnose fuel
    let others ← many
      (do return (← operator [("+", .add), ("-", .subtract)], ← product diagnose fuel)) fuel
    return others.foldl (fun left (operator, right) => .binary operator left right) first

def product (diagnose : Bool) : (fuel : Nat) → Reader Expr
  | 0 => stuck
  | fuel + 1 => do
    let first ← factor diagnose fuel
    let others ← many
      (do return (← operator [("*", .multiply), ("//", .floorDivide)], ← factor diagnose fuel)) fuel
    return others.foldl (fun left (operator, right) => .binary operator left right) first

def factor (diagnose : Bool) : (fuel : Nat) → Reader Expr
  | 0 => stuck
  | fuel + 1 => do
    if ← takeIfOp "-" then return .negate (← factor diagnose fuel)
    else if ← takeIfOp "+" then return .keep (← factor diagnose fuel)
    else if ← isWord "await" then
      skip
      return .wait (← primary diagnose fuel)
    else primary diagnose fuel

def primary (diagnose : Bool) : (fuel : Nat) → Reader Expr
  | 0 => stuck
  | fuel + 1 => do
    let line ← line
    let target ← atom diagnose fuel
    trailers diagnose target line fuel

/-- What follows an operand that starts in a line: members, arguments and subscripts. -/
def trailers (diagnose : Bool) (target : Expr) (line : Nat) : (fuel : Nat) → Reader Expr
  | 0 => stuck
  | fuel + 1 => do
    match ← attempt (trailer diagnose target line fuel) with
    | some value => trailers diagnose value line fuel
    | none => return target

def trailer (diagnose : Bool) (target : Expr) (line : Nat) : (fuel : Nat) → Reader Expr
  | 0 => stuck
  | fuel + 1 => do
    if ← takeIfOp "." then return .member target (← identifier)
    else if ← takeIfOp "(" then
      let (arguments, named) ← arguments diagnose fuel
      takeOp ")"
      return .call target arguments named line
    else if ← takeIfOp "[" then
      let index ← expressions diagnose fuel
      takeOp "]"
      return .subscript target index line
    else stuck

def atom (diagnose : Bool) : (fuel : Nat) → Reader Expr
  | 0 => stuck
  | fuel + 1 => do
    match ← next with
    | .int value =>
      skip
      return .int value
    | .str _ | .brokenStr _ => return .str (← strings fuel)
    | .name text =>
      if text = "None".toList then
        skip
        return .none
      else if text = "True".toList then
        skip
        return .bool true
      else if text = "False".toList then
        skip
        return .bool false
      else return .name (← identifier)
    | .op ['('] =>
      skip
      if ← takeIfOp ")" then return .tuple []
      let first ← nameable diagnose fuel
      if ← isOp "," then
        let others ← items diagnose fuel
        takeOp ")"
        return .tuple (first :: others)
      else
        takeOp ")"
        return first
    | .op ['['] =>
      skip
      if ← takeIfOp "]" then return .list []
      let first ← nameable diagnose fuel
      let others ← items diagnose fuel
      takeOp "]"
      return .list (first :: others)
    | .op ['\x7b'] =>
      skip
      if ← takeIf (.op ['\x7d']) then return .dict []
      match ← attempt (entries diagnose fuel) with
      | some entries => return .dict entries
      | none =>
        if diagnose then checkEntries (entry true fuel) (expression true fuel) fuel
        stuck
    | _ => stuck

/-- The further items before a closing bracket, each after a comma, and one more comma. -/
def items (diagnose : Bool) : (fuel : Nat) → Reader (List Expr)
  | 0 => stuck
  | fuel + 1 => do
    let items ← many (do takeOp ","; nameable diagnose fuel) fuel
    let _ ← takeIfOp ","
    return items

/-- The entries of a dictionary and its closing bracket. -/
def entries (diagnose : Bool) : (fuel : Nat) → Reader (List (Expr × Expr))
  | 0 => stuck
  | fuel + 1 => do
    let first ← entry diagnose fuel
    let others ← many (do takeOp ","; entry diagnose fuel) fuel
    let _ ← takeIfOp ","
    take (.op ['\x7d'])
    return first :: others

def entry (diagnose : Bool) : (fuel : Nat) → Reader (Expr × Expr)
  | 0 => stuck
  | fuel + 1 => do
    let key ← expression diagnose fuel
    takeOp ":"
    return (key, ← expression diagnose fuel)

/-- The arguments up to a closing bracket: those by position, then those by name. -/
def arguments (diagnose : Bool) : (fuel : Nat) → Reader (List Expr × List (Keyword × Expr))
  | 0 => stuck
  | fuel + 1 => do
    if ← isOp ")" then return ([], [])
    let read ← argumentList diagnose fuel
    let end_ ← get
    let _ ← takeIfOp ","
    if ← isOp ")" then return read
    if diagnose then
      goBack end_
      if ← takeIfOp "," then
        if (← attempt (argumentList diagnose fuel)).isSome then foundAtFar .positionalAfterNamed
    stuck

def argumentList (diagnose : Bool) : (fuel : Nat) → Reader (List Expr × List (Keyword × Expr))
  | 0 => stuck
  | fuel + 1 => do
    match ← attempt (positional diagnose fuel) with
    | none =>
      let first ← named diagnose fuel
      return ([], first :: (← many (do takeOp ","; named diagnose fuel) fuel))
    | some first =>
      let others ← many (do takeOp ","; positional diagnose fuel) fuel
      return (first :: others, ← many (do takeOp ","; named diagnose fuel) fuel)

def positional (diagnose : Bool) : (fuel : Nat) → Reader Expr
  | 0 => stuck
  | fuel + 1 => do
    let value ← expression diagnose fuel
    if ← isOp "=" then stuck
    return value

def named (diagnose : Bool) : (fuel : Nat) → Reader (Keyword × Expr)
  | 0 => stuck
  | fuel + 1 => do
    let start ← get
    match ← next with
    | .name text =>
      if (← second) == .op ['='] then
        if keywords.contains text then
          if diagnose && ["True", "False", "None"].any (·.toList == text) then
            found (.cannotAssign (String.ofList text)) (← line)
          stuck
        let line ← line
        let name ← identifier
        skip
        return (⟨name, line⟩, ← expression diagnose fuel)
    | _ => pure ()
    if diagnose then
      let _ ← expression diagnose fuel
      if ← isOp "=" then
        let lexemes ← takenSince start
        found .assignmentInCall (Lexeme.startLine lexemes.length lexemes)
    stuck

end

def modulePath (fuel : Nat) : Reader ModulePath := do
  let first ← identifier
  return first :: (← many (do takeOp "."; identifier) fuel)

def otherName : Reader (Option Text) := do
  if ← isWord "as" then
    skip
    return some (← identifier)
  else return none

def moduleList (fuel : Nat) : Reader (List (ModulePath × Option Text)) := do
  let first ← entry
  return first :: (← many (do takeOp ","; entry) fuel)
where
  entry : Reader (ModulePath × Option Text) := do return (← modulePath fuel, ← otherName)

def nameList (diagnose : Bool) (fuel : Nat) : Reader (List (Text × Option Text)) := do
  let isInside ← takeIfOp "("
  let first ← entry
  let others ← many (do takeOp ","; entry) fuel
  if isInside then
    let _ ← takeIfOp ","
    takeOp ")"
  else if ← isOp "," then
    if diagnose then
      skip
      if ← isNext .newline then foundAtFar .trailingComma
    stuck
  return first :: others
where
  entry : Reader (Text × Option Text) := do return (← identifier, ← otherName)

def augmentOperators : List (String × Operator) :=
  [("+=", .add), ("-=", .subtract), ("*=", .multiply), ("//=", .floorDivide)]

def assignmentTarget : Reader Text := do
  let name ← identifier
  takeOp "="
  return name

def assignment (diagnose : Bool) (fuel : Nat) : Reader Stmt := do
  let first ← assignmentTarget
  let others ← many assignmentTarget fuel
  let value ← expressions diagnose fuel
  if ← isOp "=" then stuck
  return .assign (first :: others) value

def augmentation (diagnose : Bool) (fuel : Nat) : Reader Stmt := do
  let name ← identifier
  let operator ← operator augmentOperators
  return .augment name operator (← expressions diagnose fuel)

/-- Looks for an assignment to what cannot be assigned to. -/
def checkTargets (fuel : Nat) : Reader Unit := do
  let _ ← ahead (nameable true fuel)
  let start ← get
  let line ← line
  let target ← attempt do
    let _ ← many assignmentTarget fuel
    let value ← expressions true fuel
    takeOp "="
    return value
  match target.bind (Expr.unassignable? false) with
  | some part => found (.cannotAssign part.kind) line
  | none => pure ()
  goBack start
  let augmented ← attempt do
    let value ← expressions true fuel
    let _ ← operator augmentOperators
    let _ ← expressions true fuel
    return value
  match augmented with
  | some value => found (.cannotAugment value.kind) line
  | none => return

def expressionStatement (diagnose : Bool) (fuel : Nat) : Reader Stmt := do
  match ← attempt (assignment diagnose fuel) with
  | some statement => return statement
  | none =>
    match ← attempt (augmentation diagnose fuel) with
    | some statement => return statement
    | none =>
      if diagnose then checkTargets fuel
      return .expr (← expressions diagnose fuel)

def simpleStatement (diagnose : Bool) (fuel : Nat) : Reader Stmt := do
  let line ← line
  let word := wordOf (← next)
  if word = "pass".toList then
    skip
    return .pass
  else if word = "break".toList then
    skip
    return .stopLoop line
  else if word = "continue".toList then
    skip
    return .nextItem line
  else if word = "return".toList then
    skip
    return .leave (← attempt (expressions diagnose fuel)) line
  else if word = "raise".toList then
    skip
    return .raise (← attempt (expression diagnose fuel))
  else if word = "assert".toList then
    skip
    let condition ← expression diagnose fuel
    return .assert condition (← attempt (do takeOp ","; expression diagnose fuel)) line
  else if word = "import".toList then
    skip
    return .importModules (← moduleList fuel)
  else if word = "from".toList then
    skip
    let path ← modulePath fuel
    takeWord "import"
    return .importNames path (← nameList diagnose fuel)
  else expressionStatement diagnose fuel
where
  wordOf : Token → Text
    | .name text => text
    | _ => []

def statementLine (diagnose : Bool) (fuel : Nat) : Reader (List Stmt) := do
  let first ← simpleStatement diagnose fuel
  let others ← many (do takeOp ";"; simpleStatement diagnose fuel) fuel
  let _ ← takeIfOp ";"
  take .newline
  return first :: others

def takeColon (diagnose : Bool) : Reader Unit := do
  if diagnose && (← isNext .newline) then foundAtFar .missingColon
  takeOp ":"

def loopTarget (diagnose : Bool) (fuel : Nat) : Reader Text := do
  let target ← attempt do
    let name ← identifier
    takeWord "in"
    return name
  match target with
  | some name => return name
  | none =>
    if diagnose then checkLoopTarget (expressions true fuel)
    stuck

mutual

def statements (diagnose : Bool) : (fuel : Nat) → Reader (List Stmt)
  | 0 => stuck
  | fuel + 1 => do
    let first ← statement diagnose fuel
    if (← isNext .dedent) || (← isNext .stop) then return first
    return first ++ (← statements diagnose fuel)

def statement (diagnose : Bool) : (fuel : Nat) → Reader (List Stmt)
  | 0 => stuck
  | fuel + 1 => do
    if ← isWord "if" then return [← conditional diagnose "if" fuel]
    else if ← isWord "for" then
      let line ← line
      skip
      let target ← loopTarget diagnose fuel
      let items ← expressions diagnose fuel
      takeColon diagnose
      let body ← block diagnose "for" line fuel
      return [.forEach target items body (← otherwise diagnose fuel) line]
    else statementLine diagnose fuel

/-- A condition after its word, with its block and the alternatives after it. -/
def conditional (diagnose : Bool) (word : String) : (fuel : Nat) → Reader Stmt
  | 0 => stuck
  | fuel + 1 => do
    let line ← line
    skip
    let condition ← nameable diagnose fuel
    takeColon diagnose
    let body ← block diagnose word line fuel
    if ← isWord "elif" then
      return .ifElse condition body [← conditional diagnose "elif" fuel]
    else return .ifElse condition body (← otherwise diagnose fuel)

/-- The block after the last alternative, if there is one. -/
def otherwise (diagnose : Bool) : (fuel : Nat) → Reader (List Stmt)
  | 0 => stuck
  | fuel + 1 => do
    let line ← line
    if ← isWord "else" then
      skip
      if !(← isOp ":") then found .missingColon (← Reader.line)
      skip
      block diagnose "else" line fuel
    else return []

/-- The block after a colon: the rest of the line, or indented lines. -/
def block (diagnose : Bool) (opener : String) (opened : Nat) : (fuel : Nat) → Reader (List Stmt)
  | 0 => stuck
  | fuel + 1 => do
    if ← takeIf .newline then
      if ← takeIf .indent then
        let body ← statements diagnose fuel
        take .dedent
        return body
      else if diagnose then foundAtFar (.missingBlock opener opened)
      else stuck
    else statementLine diagnose fuel

end

def script (diagnose : Bool) (fuel : Nat) : Reader Program := do
  if ← isNext .stop then return []
  let program ← statements diagnose fuel
  take .stop
  return program

end Reader

namespace Program

/-- The error that is reported for a cause, or for a place where no rule applies, when lexemes up to a
line were looked at: a fault further on in the script that is raised wins, and so does a bracket opened
in an earlier line and never closed. -/
def reported (finish : Finish) (error : CompileError) (seen : Nat) : CompileError :=
  match finish with
  | .raised fault => fault
  | .stopped _ (some (opening, line)) => if seen > line then ⟨.neverClosed opening, line⟩ else error
  | .stopped _ none | .complete => error

def atFinish : Finish → CompileError
  | .raised error | .stopped error _ => error
  | .complete => ⟨.unexpectedEnd, 1⟩

/-- The error of a script in which no rule applies: `last` is the furthest lexeme that was looked at
before causes were looked for, `seen` the furthest line afterwards. -/
def unexplained (finish : Finish) (last : Option Lexeme) (seen : Nat) : CompileError :=
  let line := (last.map (·.line)).getD 0
  if last.any (·.token == .indent) then ⟨.unexpectedIndent, line⟩
  else reported finish ⟨.invalidSyntax, line⟩ seen

/-- The program of a script's tokens. -/
def ofTokens (lexing : Lexing) : Except CompileError Program :=
  let fuel := 30 * (lexing.lexemes.length + 1)
  let lineAt (cursor : Cursor) : Nat := ((lexing.lexemes[cursor.far]?).map (·.line)).getD 0
  let failed (cursor : Cursor) (last : Option Lexeme) : Failure → CompileError
    | .ended => atFinish lexing.finish
    | .found fault line =>
      reported lexing.finish ⟨fault, line.getD (lineAt cursor)⟩ (lineAt cursor)
    | .stuck => unexplained lexing.finish last (lineAt cursor)
  let start := Cursor.ofLexemes lexing.lexemes
  match (Reader.script false fuel).run start with
  | (.ok program, _) => .ok program
  | (.error .stuck, cursor) =>
    match (Reader.script true fuel).run { start with far := cursor.far } with
    | (.ok _, after) => .error (failed after lexing.lexemes[cursor.far]? .stuck)
    | (.error failure, after) => .error (failed after lexing.lexemes[cursor.far]? failure)
  | (.error failure, cursor) => .error (failed cursor none failure)

end Program

end DocExamples.Script
