import DocExamples.Script.Grammar
import DocExamples.Text.Lines

namespace DocExamples.Script

open Text

/-- The first name that is given to two arguments, and the line in which it is given again. -/
def repeatedKeyword? : List (Keyword × Expr) → Option CompileError
  | [] => none
  | (keyword, _) :: named =>
    match named.find? fun other => other.1.name == keyword.name with
    | some other => some ⟨.repeatedName keyword.name, other.1.line⟩
    | none => repeatedKeyword? named

mutual

/-- The first call in an expression that gives two arguments one name. -/
def Expr.fault? : Expr → Option CompileError
  | .none | .bool _ | .int _ | .str _ | .name _ => Option.none
  | .tuple items | .list items => faultInExprs? items
  | .dict entries => faultInEntries? entries
  | .negate operand | .keep operand | .invert operand | .wait operand => operand.fault?
  | .binary _ left right | .both left right | .either left right => left.fault?.or right.fault?
  | .choice condition value otherwise => (condition.fault?.or value.fault?).or otherwise.fault?
  | .compare first others _ => first.fault?.or (faultInOthers? others)
  | .member target _ => target.fault?
  | .subscript target index _ => target.fault?.or index.fault?
  | .call function arguments named _ =>
    (repeatedKeyword? named).or
      ((function.fault?.or (faultInExprs? arguments)).or (faultInNamed? named))

def faultInExprs? : List Expr → Option CompileError
  | [] => none
  | e :: es => e.fault?.or (faultInExprs? es)

def faultInEntries? : List (Expr × Expr) → Option CompileError
  | [] => none
  | (key, value) :: entries => (key.fault?.or value.fault?).or (faultInEntries? entries)

def faultInOthers? : List (Comparison × Expr) → Option CompileError
  | [] => none
  | (_, e) :: others => e.fault?.or (faultInOthers? others)

def faultInNamed? : List (Keyword × Expr) → Option CompileError
  | [] => none
  | (_, e) :: named => e.fault?.or (faultInNamed? named)

end

def mostLoops : Nat := 20

mutual

/-- The first fault in a statement that is read well and stands in some loops: a call that gives two
arguments one name, a statement that leaves a function, or a loop or its item, outside one, or a loop in
too many others. -/
def Stmt.fault? (loops : Nat) : Stmt → Option CompileError
  | .pass | .importModules _ | .importNames _ _ => none
  | .expr value | .assign _ value | .augment _ _ value => value.fault?
  | .raise error => error.bind Expr.fault?
  | .assert condition message _ => condition.fault?.or (message.bind Expr.fault?)
  | .leave _ line => some ⟨.returnOutsideFunction, line⟩
  | .stopLoop line => if loops = 0 then some ⟨.breakOutsideLoop, line⟩ else none
  | .nextItem line => if loops = 0 then some ⟨.continueOutsideLoop, line⟩ else none
  | .ifElse condition body orelse =>
    condition.fault?.or ((faultIn? loops body).or (faultIn? loops orelse))
  | .forEach _ items body orelse line =>
    if mostLoops ≤ loops then some ⟨.tooManyLoops, line⟩
    else items.fault?.or ((faultIn? (loops + 1) body).or (faultIn? loops orelse))

def faultIn? (loops : Nat) : List Stmt → Option CompileError
  | [] => none
  | s :: ss => (s.fault? loops).or (faultIn? loops ss)

end

/-- A script with LF at the ends of its lines. CR LF at the end of it counts as two line ends. -/
def unifyLines (source : Text) : Text :=
  let lines := unifyNewlines source
  if ['\r', '\n'].isSuffixOf source then lines ++ ['\n'] else lines

def Program.parse (source : Text) : Except CompileError Program :=
  Program.ofTokens (Lexing.ofText (unifyLines source))

/-- The program of a script whose text holds no NUL. -/
def Program.ofText (source : Text) : Except CompileError Program := do
  let program ← Program.parse source
  match faultIn? 0 program with
  | some error => .error error
  | none => .ok program

end DocExamples.Script
