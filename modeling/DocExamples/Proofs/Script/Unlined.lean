import DocExamples.Script.Compile
import Mathlib.Data.List.Forall2

namespace DocExamples.Script

mutual

/-- An expression without lines. -/
def Expr.unlined : Expr → Expr
  | .none => .none
  | .bool value => .bool value
  | .int value => .int value
  | .str value => .str value
  | .name name => .name name
  | .tuple items => .tuple (unlinedItems items)
  | .list items => .list (unlinedItems items)
  | .dict entries => .dict (unlinedEntries entries)
  | .negate operand => .negate operand.unlined
  | .keep operand => .keep operand.unlined
  | .invert operand => .invert operand.unlined
  | .both left right => .both left.unlined right.unlined
  | .either left right => .either left.unlined right.unlined
  | .choice condition value otherwise =>
    .choice condition.unlined value.unlined otherwise.unlined
  | .binary operator left right => .binary operator left.unlined right.unlined
  | .compare first others _ => .compare first.unlined (unlinedOthers others) 0
  | .member target name => .member target.unlined name
  | .subscript target index _ => .subscript target.unlined index.unlined 0
  | .call function arguments named _ =>
    .call function.unlined (unlinedItems arguments) (unlinedNamed named) 0
  | .wait operand => .wait operand.unlined

def unlinedItems : List Expr → List Expr
  | [] => []
  | e :: es => e.unlined :: unlinedItems es

def unlinedEntries : List (Expr × Expr) → List (Expr × Expr)
  | [] => []
  | (key, value) :: entries => (key.unlined, value.unlined) :: unlinedEntries entries

def unlinedOthers : List (Comparison × Expr) → List (Comparison × Expr)
  | [] => []
  | (comparison, e) :: others => (comparison, e.unlined) :: unlinedOthers others

def unlinedNamed : List (Keyword × Expr) → List (Keyword × Expr)
  | [] => []
  | (keyword, e) :: named => (⟨keyword.name, 0⟩, e.unlined) :: unlinedNamed named

end

mutual

/-- A statement without lines. -/
def Stmt.unlined : Stmt → Stmt
  | .pass => .pass
  | .expr value => .expr value.unlined
  | .assign targets value => .assign targets value.unlined
  | .augment target operator value => .augment target operator value.unlined
  | .importModules modules => .importModules modules
  | .importNames path names => .importNames path names
  | .raise error => .raise (error.map Expr.unlined)
  | .assert condition message _ => .assert condition.unlined (message.map Expr.unlined) 0
  | .ifElse condition body orelse =>
    .ifElse condition.unlined (unlinedBlock body) (unlinedBlock orelse)
  | .forEach target items body orelse _ =>
    .forEach target items.unlined (unlinedBlock body) (unlinedBlock orelse) 0
  | .leave value _ => .leave (value.map Expr.unlined) 0
  | .stopLoop _ => .stopLoop 0
  | .nextItem _ => .nextItem 0

def unlinedBlock : List Stmt → List Stmt
  | [] => []
  | s :: ss => s.unlined :: unlinedBlock ss

end

theorem names_unlinedNamed (named : List (Keyword × Expr)) :
    (unlinedNamed named).map (·.1.name) = named.map (·.1.name) := by
  induction named with
  | nil => rfl
  | cons first named ih => simp [unlinedNamed, ih]

/-- A name is found twice among the names of arguments that are not distinct. -/
theorem repeatedKeyword?_isSome_iff (named : List (Keyword × Expr)) :
    (repeatedKeyword? named).isSome = true ↔ ¬ (named.map (·.1.name)).Nodup := by
  induction named with
  | nil => simp [repeatedKeyword?]
  | cons first named ih =>
    rw [repeatedKeyword?, List.map_cons, List.nodup_cons, not_and_or, not_not]
    cases found : named.find? fun other => other.1.name == first.1.name with
    | some other =>
      have name : other.1.name = first.1.name := by simpa using List.find?_some found
      have mem : first.1.name ∈ named.map (·.1.name) :=
        name ▸ List.mem_map_of_mem (List.mem_of_find?_eq_some found)
      simp [mem]
    | none =>
      have notMem : first.1.name ∉ named.map (·.1.name) := by
        intro mem
        obtain ⟨other, ho, name⟩ := List.mem_map.mp mem
        simpa [name] using List.find?_eq_none.mp found other ho
      simp only [notMem, false_or, ← ih]

theorem isSome_repeatedKeyword?_unlined (named : List (Keyword × Expr)) :
    (repeatedKeyword? (unlinedNamed named)).isSome = (repeatedKeyword? named).isSome := by
  rw [Bool.eq_iff_iff, repeatedKeyword?_isSome_iff, repeatedKeyword?_isSome_iff, names_unlinedNamed]

mutual

theorem Expr.isSome_fault?_unlined : ∀ e : Expr, e.unlined.fault?.isSome = e.fault?.isSome
  | .none | .bool _ | .int _ | .str _ | .name _ => rfl
  | .tuple items | .list items => isSome_faultInExprs?_unlined items
  | .dict entries => isSome_faultInEntries?_unlined entries
  | .negate operand | .keep operand | .invert operand | .wait operand =>
    operand.isSome_fault?_unlined
  | .binary _ left right | .both left right | .either left right => by
    simp [Expr.unlined, Expr.fault?, left.isSome_fault?_unlined, right.isSome_fault?_unlined]
  | .choice condition value otherwise => by
    simp [Expr.unlined, Expr.fault?, condition.isSome_fault?_unlined, value.isSome_fault?_unlined,
      otherwise.isSome_fault?_unlined]
  | .compare first others _ => by
    simp [Expr.unlined, Expr.fault?, first.isSome_fault?_unlined,
      isSome_faultInOthers?_unlined others]
  | .member target _ => target.isSome_fault?_unlined
  | .subscript target index _ => by
    simp [Expr.unlined, Expr.fault?, target.isSome_fault?_unlined, index.isSome_fault?_unlined]
  | .call function arguments named _ => by
    simp [Expr.unlined, Expr.fault?, function.isSome_fault?_unlined,
      isSome_faultInExprs?_unlined arguments, isSome_faultInNamed?_unlined named,
      isSome_repeatedKeyword?_unlined]

theorem isSome_faultInExprs?_unlined : ∀ es : List Expr,
    (faultInExprs? (unlinedItems es)).isSome = (faultInExprs? es).isSome
  | [] => rfl
  | e :: es => by
    simp [unlinedItems, faultInExprs?, e.isSome_fault?_unlined, isSome_faultInExprs?_unlined es]

theorem isSome_faultInEntries?_unlined : ∀ entries : List (Expr × Expr),
    (faultInEntries? (unlinedEntries entries)).isSome = (faultInEntries? entries).isSome
  | [] => rfl
  | (key, value) :: entries => by
    simp [unlinedEntries, faultInEntries?, key.isSome_fault?_unlined, value.isSome_fault?_unlined,
      isSome_faultInEntries?_unlined entries]

theorem isSome_faultInOthers?_unlined : ∀ others : List (Comparison × Expr),
    (faultInOthers? (unlinedOthers others)).isSome = (faultInOthers? others).isSome
  | [] => rfl
  | (_, e) :: others => by
    simp [unlinedOthers, faultInOthers?, e.isSome_fault?_unlined,
      isSome_faultInOthers?_unlined others]

theorem isSome_faultInNamed?_unlined : ∀ named : List (Keyword × Expr),
    (faultInNamed? (unlinedNamed named)).isSome = (faultInNamed? named).isSome
  | [] => rfl
  | (_, e) :: named => by
    simp [unlinedNamed, faultInNamed?, e.isSome_fault?_unlined, isSome_faultInNamed?_unlined named]

end

theorem isSome_fault?_map_unlined (e : Option Expr) :
    ((e.map Expr.unlined).bind Expr.fault?).isSome = (e.bind Expr.fault?).isSome := by
  cases e with
  | none => rfl
  | some e => exact e.isSome_fault?_unlined

mutual

theorem Stmt.isSome_fault?_unlined : ∀ (s : Stmt) (loops : Nat),
    (s.unlined.fault? loops).isSome = (s.fault? loops).isSome
  | .pass, _ | .importModules _, _ | .importNames _ _, _ => rfl
  | .expr value, _ | .assign _ value, _ | .augment _ _ value, _ => value.isSome_fault?_unlined
  | .raise error, _ => isSome_fault?_map_unlined error
  | .assert condition message _, _ => by
    simp [Stmt.unlined, Stmt.fault?, condition.isSome_fault?_unlined,
      isSome_fault?_map_unlined message]
  | .leave _ _, _ => rfl
  | .stopLoop _, loops | .nextItem _, loops => by
    simp only [Stmt.unlined, Stmt.fault?]
    split <;> rfl
  | .ifElse condition body orelse, loops => by
    simp [Stmt.unlined, Stmt.fault?, condition.isSome_fault?_unlined,
      isSome_faultIn?_unlined body, isSome_faultIn?_unlined orelse]
  | .forEach _ items body orelse _, loops => by
    simp only [Stmt.unlined, Stmt.fault?]
    split
    · rfl
    · simp [items.isSome_fault?_unlined, isSome_faultIn?_unlined body,
        isSome_faultIn?_unlined orelse]

theorem isSome_faultIn?_unlined : ∀ (ss : List Stmt) (loops : Nat),
    (faultIn? loops (unlinedBlock ss)).isSome = (faultIn? loops ss).isSome
  | [], _ => rfl
  | s :: ss, loops => by
    simp [unlinedBlock, faultIn?, s.isSome_fault?_unlined, isSome_faultIn?_unlined ss]

end

mutual

theorem Expr.waits_unlined : ∀ e : Expr, e.unlined.waits = e.waits
  | .none | .bool _ | .int _ | .str _ | .name _ | .wait _ => rfl
  | .tuple items | .list items => waitsInAny_unlined items
  | .dict entries => waitsInEntries_unlined entries
  | .negate operand | .keep operand | .invert operand => operand.waits_unlined
  | .binary _ left right | .both left right | .either left right => by
    simp [Expr.unlined, Expr.waits, left.waits_unlined, right.waits_unlined]
  | .choice condition value otherwise => by
    simp [Expr.unlined, Expr.waits, condition.waits_unlined, value.waits_unlined,
      otherwise.waits_unlined]
  | .compare first others _ => by
    simp [Expr.unlined, Expr.waits, first.waits_unlined, waitsInOthers_unlined others]
  | .member target _ => target.waits_unlined
  | .subscript target index _ => by
    simp [Expr.unlined, Expr.waits, target.waits_unlined, index.waits_unlined]
  | .call function arguments named _ => by
    simp [Expr.unlined, Expr.waits, function.waits_unlined, waitsInAny_unlined arguments,
      waitsInNamed_unlined named]

theorem waitsInAny_unlined : ∀ es : List Expr, waitsInAny (unlinedItems es) = waitsInAny es
  | [] => rfl
  | e :: es => by simp [unlinedItems, waitsInAny, e.waits_unlined, waitsInAny_unlined es]

theorem waitsInEntries_unlined : ∀ entries : List (Expr × Expr),
    waitsInEntries (unlinedEntries entries) = waitsInEntries entries
  | [] => rfl
  | (key, value) :: entries => by
    simp [unlinedEntries, waitsInEntries, key.waits_unlined, value.waits_unlined,
      waitsInEntries_unlined entries]

theorem waitsInOthers_unlined : ∀ others : List (Comparison × Expr),
    waitsInOthers (unlinedOthers others) = waitsInOthers others
  | [] => rfl
  | (_, e) :: others => by
    simp [unlinedOthers, waitsInOthers, e.waits_unlined, waitsInOthers_unlined others]

theorem waitsInNamed_unlined : ∀ named : List (Keyword × Expr),
    waitsInNamed (unlinedNamed named) = waitsInNamed named
  | [] => rfl
  | (_, e) :: named => by
    simp [unlinedNamed, waitsInNamed, e.waits_unlined, waitsInNamed_unlined named]

end

theorem any_waits_unlined (e : Option Expr) :
    (e.map Expr.unlined).any (·.waits) = e.any (·.waits) := by
  cases e with
  | none => rfl
  | some e => exact e.waits_unlined

mutual

theorem Stmt.waits_unlined : ∀ s : Stmt, s.unlined.waits = s.waits
  | .pass | .importModules _ | .importNames _ _ | .stopLoop _ | .nextItem _ => rfl
  | .expr value | .assign _ value | .augment _ _ value => value.waits_unlined
  | .raise error => any_waits_unlined error
  | .assert condition message _ => by
    simp [Stmt.unlined, Stmt.waits, condition.waits_unlined, any_waits_unlined message]
  | .ifElse condition body orelse => by
    simp [Stmt.unlined, Stmt.waits, condition.waits_unlined, anyWaits_unlined body,
      anyWaits_unlined orelse]
  | .forEach _ items body orelse _ => by
    simp [Stmt.unlined, Stmt.waits, items.waits_unlined, anyWaits_unlined body,
      anyWaits_unlined orelse]
  | .leave value _ => any_waits_unlined value

theorem anyWaits_unlined : ∀ ss : List Stmt, anyWaits (unlinedBlock ss) = anyWaits ss
  | [] => rfl
  | s :: ss => by simp [unlinedBlock, anyWaits, s.waits_unlined, anyWaits_unlined ss]

end

end DocExamples.Script
