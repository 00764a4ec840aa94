import DocExamples.Proofs.Console.Capture
import DocExamples.Script.Construction

namespace DocExamples

open Text Console Effects

namespace State

variable {Space : Type}

/-- The state in which something was written before. -/
def after (before : Written) (state : State Space) : State Space :=
  { state with streams :=
      { out := { state.streams.out with text := before.out ++ state.streams.out.text }
        err := { state.streams.err with text := before.err ++ state.streams.err.text } } }

theorem closed_after (before : Written) (state : State Space) (stream : Stream) :
    ((state.after before).streams.of stream).closed = (state.streams.of stream).closed := by
  cases stream <;> rfl

end State

namespace Script

namespace Eval

variable {α β : Type}

/-- What was written before a computation stays in front of what it writes, and changes nothing else. -/
def Appends (act : Eval α) : Prop :=
  ∀ before state, act.run (state.after before) = ((act.run state).1, (act.run state).2.after before)

/-- A computation comes only to values of a kind, if it comes to one. -/
def ComesTo (act : Eval α) (P : α → Prop) : Prop :=
  ∀ state value, (act.run state).1 = .ok value → P value

theorem ComesTo.pure {P : α → Prop} {value : α} (h : P value) :
    ComesTo (Pure.pure value : Eval α) P := by
  intro state value' came
  cases came
  exact h

theorem ComesTo.bind {act : Eval α} {next : α → Eval β} {P : β → Prop}
    (hn : ∀ value, ComesTo (next value) P) : ComesTo (act >>= next) P := by
  intro state value came
  rw [run_bind] at came
  rcases ran : act.run state with ⟨raised | first, between⟩
  · rw [ran] at came
    cases came
  · rw [ran] at came
    exact hn first between value came

namespace Appends

variable {act : Eval α}

theorem pure (value : α) : Appends (Pure.pure value : Eval α) := fun _ _ => rfl

theorem throw (raised : Raised) : Appends (MonadExcept.throw raised : Eval α) := fun _ _ => rfl

theorem bind {next : α → Eval β} (h : Appends act) (hn : ∀ value, Appends (next value)) :
    Appends (act >>= next) := by
  intro before state
  rw [run_bind, run_bind, h before state]
  rcases act.run state with ⟨raised | value, between⟩
  · rfl
  · exact hn value before between

theorem throw_bind (raised : Raised) (next : α → Eval β) :
    Appends (MonadExcept.throw raised >>= next) := fun _ _ => rfl

/-- A computation that looks at the namespace only. -/
theorem get_bind {next : State Space → Eval α} (same : ∀ before state, next (state.after before) = next state)
    (hn : ∀ state, Appends (next state)) : Appends (get >>= next) := by
  intro before state
  rw [run_bind, run_bind, run_get, run_get]
  dsimp only
  rw [same before state]
  exact hn state before state

/-- A computation whose further course only appends for values such as it comes to. -/
theorem bind_of {next : α → Eval β} {P : α → Prop} (h : Appends act) (comes : ComesTo act P)
    (hn : ∀ value, P value → Appends (next value)) : Appends (act >>= next) := by
  intro before state
  rw [run_bind, run_bind, h before state]
  rcases ran : act.run state with ⟨raised | value, between⟩
  · rfl
  · exact hn value (comes state value (congrArg Prod.fst ran)) before between

theorem ite {condition : Prop} [Decidable condition] {first second : Eval α} (h : Appends first)
    (h' : Appends second) : Appends (if condition then first else second) := by
  split
  · exact h
  · exact h'

/-- A computation that stops before the rest under some condition. -/
theorem guard {condition : Prop} [Decidable condition] {stop : Eval Unit} {next : Unit → Eval α}
    (h : Appends stop) (hn : ∀ value, Appends (next value)) :
    Appends (if condition then stop >>= next else next ()) :=
  .ite (h.bind hn) (hn ())

theorem ite_bind {condition : Prop} [Decidable condition] {first second : Eval α} {next : α → Eval β}
    (h : Appends first) (h' : Appends second) (hn : ∀ value, Appends (next value)) :
    Appends (if condition then first >>= next else second >>= next) :=
  .ite (h.bind hn) (h'.bind hn)

theorem mapM {f : α → Eval β} (h : ∀ item, Appends (f item)) (items : List α) :
    Appends (items.mapM f) := by
  induction items with
  | nil => exact .pure []
  | cons item items ih =>
    rw [List.mapM_cons]
    exact (h item).bind fun first => ih.bind fun others => .pure (first :: others)

theorem foldlM {f : β → α → Eval β} (h : ∀ sofar item, Appends (f sofar item)) (start : β)
    (items : List α) : Appends (items.foldlM f start) := by
  induction items generalizing start with
  | nil => exact .pure start
  | cons item items ih =>
    rw [List.foldlM_cons]
    exact (h start item).bind ih

theorem forIn {f : α → β → Eval (ForInStep β)} (h : ∀ item sofar, Appends (f item sofar)) (start : β)
    (items : List α) : Appends (ForIn.forIn items start f) := by
  induction items generalizing start with
  | nil => exact .pure start
  | cons item items ih =>
    rw [List.forIn_cons]
    refine (h item start).bind fun step => ?_
    cases step with
    | done last => exact .pure last
    | yield next => exact ih next

end Appends

theorem appends_raise (type : ErrorType) (message : Text) : Appends (raise type message : Eval α) :=
  .throw _

theorem appends_typeError (message : Text) : Appends (typeError message : Eval α) := .throw _

theorem appends_cells : Appends cells := fun _ _ => rfl

theorem appends_allocate (cell : Cell) : Appends (allocate cell) := fun _ _ => rfl

theorem appends_store (number : Nat) (cell : Cell) : Appends (store number cell) := fun _ _ => rfl

theorem appends_setName (name : Text) (value : Value) : Appends (setName name value) := fun _ _ => rfl

theorem appends_setFilter (filter : Filter) : Appends (setFilter filter) := fun _ _ => rfl

theorem appends_isClosed (stream : Stream) : Appends (isClosed stream) :=
  .get_bind (fun before state => by rw [state.closed_after before]) fun _ => .pure _

theorem appends_write (stream : Stream) (text : Text) : Appends (write stream text) := by
  refine (appends_isClosed stream).bind fun closed => .guard (appends_raise _ _) fun _ => ?_
  intro before state
  cases stream <;> simp [State.after, Streams.write, Streams.set, Streams.of]

theorem appends_close (stream : Stream) : Appends (close stream) := by
  intro before state
  cases stream <;> rfl

theorem appends_ofShown (text : Option Text) : Appends (ofShown text) := by
  cases text with
  | some text => exact .pure text
  | none => exact appends_raise _ _

theorem appends_items (cell : Nat) : Appends (items cell) :=
  appends_cells.bind fun _ => .pure _

theorem appends_entries (cell : Nat) : Appends (entries cell) :=
  appends_cells.bind fun _ => .pure _

theorem appends_newList (values : List Value) : Appends (newList values) :=
  (appends_allocate _).bind fun _ => .pure _

theorem appends_newTuple (values : List Value) : Appends (newTuple values) :=
  (appends_allocate _).bind fun _ => .pure _

theorem appends_depth : Appends depth := appends_cells.bind fun _ => .pure _

theorem appends_related (relation : Relation) (a b : Value) : Appends (related relation a b) := by
  refine appends_cells.bind fun cells => appends_depth.bind fun depth => ?_
  split
  · exact .pure _
  · exact .pure _
  · split
    · exact .pure _
    · exact appends_typeError _

theorem appends_itemsOf? (value : Value) : Appends (itemsOf? value) := by
  cases value with
  | tuple cell | list cell => exact (appends_items cell).bind fun _ => .pure _
  | dict cell => exact (appends_entries cell).bind fun _ => .pure _
  | _ => exact .pure _

theorem appends_itemsOf (value : Value) : Appends (itemsOf value) := by
  refine (appends_itemsOf? value).bind fun found => ?_
  cases found with
  | none => exact appends_typeError _
  | some items => exact .pure items

theorem appends_checkKey (key : Value) : Appends (checkKey key) := by
  refine appends_cells.bind fun cells => appends_depth.bind fun depth => ?_
  split
  · exact appends_typeError _
  · exact .pure _

theorem appends_contains (whole item : Value) : Appends (contains whole item) := by
  refine appends_cells.bind fun cells => appends_depth.bind fun depth => ?_
  cases whole with
  | tuple cell | list cell => exact (appends_items cell).bind fun _ => .pure _
  | dict cell =>
    exact (appends_checkKey item).bind fun _ => (appends_entries cell).bind fun _ => .pure _
  | range range => exact .pure _
  | str text =>
    cases item with
    | str part => exact .pure _
    | _ => exact appends_typeError _
  | _ => exact appends_typeError _

theorem appends_compare (comparison : Comparison) (a b : Value) : Appends (compare comparison a b) := by
  cases comparison with
  | related relation => exact appends_related relation a b
  | contained => exact appends_contains b a
  | notContained => exact (appends_contains b a).bind fun _ => .pure _
  | identical | notIdentical => exact .pure _

theorem appends_unsupported (sign : String) (a b : Value) : Appends (unsupported sign a b : Eval α) :=
  .throw _

theorem appends_onlyConcatenates (a b : Value) : Appends (onlyConcatenates a b : Eval α) := .throw _

theorem appends_checkIndex (type : ErrorType) (n : Int) : Appends (checkIndex type n) :=
  .ite (appends_raise _ _) (.pure _)

theorem appends_checkRoom (length : Nat) (count : Int) : Appends (checkRoom length count) :=
  .ite (.throw _) (.pure _)

theorem appends_repeatSequence (sequence : Value) (count : Int) :
    Appends (repeatSequence sequence count) := by
  refine (appends_checkIndex _ _).bind fun _ => ?_
  cases sequence with
  | str text =>
    refine .guard (appends_raise _ _) fun _ => ?_
    exact (appends_checkRoom _ _).bind fun _ => .pure _
  | list cell =>
    refine (appends_items cell).bind fun items => (appends_checkRoom _ _).bind fun _ => ?_
    exact appends_newList _
  | tuple cell =>
    refine (appends_items cell).bind fun items => (appends_checkRoom _ _).bind fun _ => ?_
    exact appends_newTuple _
  | _ => exact .pure _

theorem appends_add (sign : String) (a b : Value) : Appends (add sign a b) := by
  unfold add
  split
  · exact .pure _
  · split
    · exact .pure _
    · exact (appends_items _).bind fun _ => (appends_items _).bind fun _ => appends_newList _
    · exact (appends_items _).bind fun _ => (appends_items _).bind fun _ => appends_newTuple _
    · exact .ite (appends_onlyConcatenates _ _) (appends_unsupported _ _ _)

theorem appends_multiply (sign : String) (a b : Value) : Appends (multiply sign a b) := by
  unfold multiply
  split
  · exact .pure _
  · refine .ite ?_ (.ite ?_ (appends_unsupported _ _ _))
    · split
      · exact appends_repeatSequence a _
      · exact appends_typeError _
    · split
      · exact appends_repeatSequence b _
      · exact appends_typeError _

theorem appends_binary (sign : String) (operator : Operator) (a b : Value) :
    Appends (binary sign operator a b) := by
  unfold binary
  split
  · exact appends_add sign a b
  · exact appends_multiply sign a b
  · split
    · exact .pure _
    · exact appends_unsupported _ _ _
  · split
    · exact .ite (appends_raise _ _) (.pure _)
    · exact appends_unsupported _ _ _

theorem appends_augment (operator : Operator) (a b : Value) : Appends (augment operator a b) := by
  unfold augment
  split
  · refine (appends_itemsOf b).bind fun further => (appends_items _).bind fun own => ?_
    exact (appends_store _ _).bind fun _ => .pure _
  · refine (appends_checkIndex _ _).bind fun _ => (appends_items _).bind fun own => ?_
    exact (appends_checkRoom _ _).bind fun _ => (appends_store _ _).bind fun _ => .pure _
  · exact appends_binary _ _ _ _

theorem appends_signed (sign : String) (change : Int → Int) (value : Value) :
    Appends (signed sign change value) := by
  unfold signed
  split
  · exact .pure _
  · exact appends_typeError _

theorem appends_outOfRange (kind : String) : Appends (outOfRange kind : Eval α) := .throw _

theorem appends_indexNumber (index : Value) (wrong : Text) : Appends (indexNumber index wrong) := by
  unfold indexNumber
  split
  · exact .pure _
  · exact appends_typeError _

theorem appends_itemAt (kind : String) (items : List α) (index : Int) :
    Appends (itemAt kind items index) := by
  refine (appends_checkIndex _ _).bind fun _ => ?_
  split
  · exact .pure _
  · exact appends_outOfRange kind

theorem appends_subscript (target index : Value) : Appends (subscript target index) := by
  cases target with
  | list cell | tuple cell =>
    refine (appends_items cell).bind fun items => (appends_indexNumber _ _).bind fun place => ?_
    exact appends_itemAt _ items place
  | str text =>
    refine (appends_indexNumber _ _).bind fun place => ?_
    exact (appends_itemAt _ text place).bind fun _ => .pure _
  | range range =>
    refine (appends_indexNumber _ _).bind fun place => ?_
    split
    · exact .pure _
    · exact appends_outOfRange _
  | dict cell =>
    refine (appends_checkKey index).bind fun _ => appends_cells.bind fun cells => ?_
    refine appends_depth.bind fun depth => (appends_entries cell).bind fun entries => ?_
    split
    · exact .pure _
    · exact .throw _
  | _ => exact appends_typeError _

theorem appends_newDict (pairs : List (Value × Value)) : Appends (newDict pairs) := by
  refine .bind (.forIn (fun pair _ => ?_) _ _) fun _ => ?_
  · exact (appends_checkKey pair.1).bind fun _ => .pure _
  · refine appends_cells.bind fun cells => appends_depth.bind fun depth => ?_
    exact (appends_allocate _).bind fun _ => .pure _

end Eval

end Script

end DocExamples
