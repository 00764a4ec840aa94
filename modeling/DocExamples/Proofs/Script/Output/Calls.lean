import DocExamples.Proofs.Script.Output.Operations
import DocExamples.Script.Call

namespace DocExamples.Script

open Text Console

namespace Arguments

theorem appends_unnamed (function : String) (arguments : Arguments) :
    (arguments.unnamed function).Appends :=
  .ite (.pure _) (Eval.appends_typeError _)

theorem appends_single (function : String) (arguments : Arguments) :
    (arguments.single function).Appends := by
  refine (appends_unnamed function arguments).bind fun values => ?_
  split
  · exact .pure _
  · exact Eval.appends_typeError _

theorem appends_nothing (function : String) (arguments : Arguments) :
    (arguments.nothing function).Appends := by
  refine (appends_unnamed function arguments).bind fun values => ?_
  split
  · exact .pure _
  · exact Eval.appends_typeError _

theorem appends_between (function : String) (least most : Nat) (values : List Value) :
    (between function least most values).Appends :=
  .ite (Eval.appends_typeError _) (.ite (Eval.appends_typeError _) (.pure _))

end Arguments

theorem Slots.appends_fill (slots : Slots) (arguments : Arguments) : (slots.fill arguments).Appends := by
  refine .guard (Eval.appends_typeError _) fun _ => .guard (Eval.appends_typeError _) fun _ => ?_
  split
  · exact Eval.appends_typeError _
  · split
    · exact Eval.appends_typeError _
    · exact .pure _

theorem Parameters.appends_take (parameters : Parameters) (arguments : Arguments) :
    (parameters.take arguments).Appends := by
  unfold take
  refine .bind (.forIn (fun entry _ => ?_) _ _) fun _ => ?_
  · exact .ite (.guard (Eval.appends_typeError _) fun _ => .pure _)
      (.guard (Eval.appends_typeError _) fun _ => .pure _)
  · refine .guard (Eval.appends_typeError _) fun _ => ?_
    dsimp only
    split
    · exact .pure _
    · exact Eval.appends_typeError _

namespace Eval

theorem appends_errorArguments (type : ErrorType) (arguments : Arguments) :
    Appends (errorArguments type arguments) := by
  unfold errorArguments
  split
  · exact arguments.appends_unnamed _
  · split
    · exact appends_typeError _
    · exact .pure _

theorem appends_checkCount (least most count : Nat) : Appends (checkCount least most count) :=
  .ite (appends_typeError _) (.ite (appends_typeError _) (.pure _))

theorem appends_checkPlace (details : Value) : Appends (checkPlace details) := by
  refine (appends_itemsOf details).bind fun items => (appends_checkCount _ _ _).bind fun _ => ?_
  exact .ite (appends_typeError _) (.pure _)

theorem appends_checkText (index : Nat) (value : Value) : Appends (checkText index value) := by
  cases value with
  | str text => exact .pure _
  | _ => exact appends_typeError _

theorem appends_indexOf (value : Value) : Appends (indexOf value) := by
  unfold indexOf
  split
  · exact .pure _
  · exact appends_typeError _

theorem appends_checkCoding (type : ErrorType) (arguments : List Value) :
    Appends (checkCoding type arguments) := by
  refine (appends_checkCount _ _ _).bind fun _ => ?_
  split
  · refine (appends_checkText _ _).bind fun _ => .guard (appends_checkText _ _) fun _ => ?_
    refine (appends_indexOf _).bind fun _ => (appends_indexOf _).bind fun _ => ?_
    exact (appends_checkText _ _).bind fun _ => .ite (appends_typeError _) (.pure _)
  · refine (appends_checkText _ _).bind fun _ => (appends_indexOf _).bind fun _ => ?_
    exact (appends_indexOf _).bind fun _ => appends_checkText _ _
  · exact .pure _

theorem appends_groupType (type : ErrorType) (arguments : List Value) :
    Appends (groupType type arguments) := by
  unfold groupType
  split
  · dsimp only
    split
    · refine .guard (appends_typeError _) fun _ => (appends_itemsOf _).bind fun items => ?_
      refine .guard (appends_raise _ _) fun _ => .bind (.mapM (fun entry => ?_) _) fun types => ?_
      · split
        · exact .pure _
        · exact appends_raise _ _
      · exact .ite (.pure _) (.guard (appends_typeError _) fun _ => .pure _)
    · exact .throw_bind _ _
  · exact appends_typeError _

theorem appends_makeError (type : ErrorType) (arguments : Arguments) :
    Appends (makeError type arguments) := by
  unfold makeError
  refine .ite ?_ ?_
  · refine (appends_groupType _ _).bind fun kind => ?_
    exact (arguments.appends_unnamed _).bind fun _ => .pure _
  · refine (appends_errorArguments _ _).bind fun values => ?_
    split
    · split
      · exact .pure _
      · exact .pure _
    · exact (appends_checkCoding _ _).bind fun _ => .pure _
    · exact (appends_checkCoding _ _).bind fun _ => .pure _
    · exact (appends_checkCoding _ _).bind fun _ => .pure _
    · split
      · exact .guard (appends_checkPlace _) fun _ => .pure _
      · exact .pure _

theorem appends_errorValue (raised : Raised) : Appends (errorValue raised) :=
  (appends_allocate _).bind fun _ => .pure _

theorem appends_toRaise (value : Value) : Appends (toRaise value) := by
  cases value with
  | error type arguments => exact (appends_items _).bind fun _ => .pure _
  | errorType type => exact appends_makeError type _
  | _ => exact appends_typeError _

theorem appends_leaving (status : Value) : Appends (leaving status) := by
  unfold leaving
  split
  · exact .pure _
  · exact (appends_items _).bind fun _ => .pure _
  · exact (appends_items _).bind fun _ => .pure _
  · exact .pure _

theorem appends_notSerializable (value : Value) : Appends (notSerializable value) := .throw _

theorem appends_wrongKey {α : Type} (options : JsonOptions) (key : Value) :
    Appends (wrongKey options key : Eval α) := .throw _

theorem appends_insertEntry (entry : Value × Value) (entries : List (Value × Value)) :
    Appends (insertEntry entry entries) := by
  induction entries with
  | nil => exact .pure _
  | cons last before ih =>
    exact (appends_related _ _ _).bind fun _ => .ite (ih.bind fun _ => .pure _) (.pure _)

theorem appends_sortEntries (entries : List (Value × Value)) : Appends (sortEntries entries) :=
  (Appends.foldlM (fun _ _ => appends_insertEntry _ _) _ _).bind fun _ => .pure _

theorem appends_checkDigits (value : Value) : Appends (checkDigits value) := by
  unfold checkDigits
  split
  · exact (appends_ofShown _).bind fun _ => .pure _
  · exact .pure _

theorem appends_json (options : JsonOptions) (convert : ∀ value, Appends (options.convert value))
    (fuel : Nat) (value : Value) : Appends (json options fuel value) := by
  induction fuel generalizing value with
  | zero => exact appends_raise _ _
  | succ fuel ih =>
    unfold json
    split
    · exact .pure _
    · exact .pure _
    · exact (appends_checkDigits _).bind fun _ => .pure _
    · exact .pure _
    · exact (appends_items _).bind fun _ => (Appends.mapM ih _).bind fun _ => .pure _
    · exact (appends_items _).bind fun _ => (Appends.mapM ih _).bind fun _ => .pure _
    · refine (appends_entries _).bind fun entries => ?_
      refine .ite_bind (appends_sortEntries _) (.pure _) fun entries => ?_
      refine .bind (.mapM (fun entry => ?_) _) fun fields => .pure _
      split
      refine (appends_checkDigits _).bind fun _ => ?_
      split
      · exact (ih _).bind fun _ => .pure _
      · exact .ite (.pure _) (appends_wrongKey _ _)
    · exact (convert _).bind ih

theorem appends_indentOf (value : Value) : Appends (indentOf value) := by
  unfold indentOf
  split
  · exact .pure _
  · exact .pure _
  · split
    · exact .pure _
    · exact appends_typeError _

theorem appends_textAt (index : Nat) (value : Value) : Appends (separatorsOf.textAt index value) := by
  cases value with
  | str text => exact .pure _
  | _ => exact appends_typeError _

theorem appends_separatorsOf (value : Value) : Appends (separatorsOf value) := by
  refine (appends_itemsOf? value).bind fun found => ?_
  split
  · exact appends_typeError _
  · exact (appends_textAt _ _).bind fun _ => (appends_textAt _ _).bind fun _ => .pure _
  · exact .ite (appends_raise _ _) (appends_raise _ _)

variable {convert : Value → Value → Eval Value}

theorem appends_convert (h : ∀ function value, Appends (convert function value)) (setting value : Value) :
    Appends ((match (motive := Value → Value → Eval Value) setting with
      | .none => notSerializable
      | function => convert function) value) := by
  split
  · exact appends_notSerializable value
  · exact h _ value

theorem jsonOptions_comesTo (h : ∀ function value, Appends (convert function value))
    (named : List (Text × Value)) :
    ComesTo (jsonOptions convert named) fun options => ∀ value, Appends (options.convert value) := by
  refine .bind fun cells => ?_
  dsimp only
  split
  · refine .bind fun _ => .bind fun indent => ?_
    split
    · exact .bind fun _ => .pure (appends_convert h _)
    · exact .bind fun _ => .pure (appends_convert h _)
  · refine .bind fun indent => ?_
    split
    · exact .bind fun _ => .pure (appends_convert h _)
    · exact .bind fun _ => .pure (appends_convert h _)

theorem appends_jsonOptions (named : List (Text × Value)) : Appends (jsonOptions convert named) := by
  refine appends_cells.bind fun cells => ?_
  dsimp only
  split
  · exact .throw_bind _ _
  · refine (appends_indentOf _).bind fun indent => ?_
    split
    · exact (Appends.pure _).bind fun _ => .pure _
    · exact (appends_separatorsOf _).bind fun _ => .pure _

theorem appends_serialize (h : ∀ function value, Appends (convert function value))
    (arguments : Arguments) : Appends (serialize convert arguments) := by
  refine (Parameters.appends_take _ _).bind fun (values, named) => ?_
  refine (appends_jsonOptions named).bind_of (jsonOptions_comesTo h named) fun options converts => ?_
  split
  · exact appends_depth.bind fun _ => (appends_json options converts _ _).bind fun _ => .pure _
  · exact .pure _

theorem appends_lookUp (name : Text) : Appends (lookUp name) := by
  refine .get_bind (fun _ _ => rfl) fun world => ?_
  split
  · exact .pure _
  · exact appends_raise _ _

theorem appends_memberOf (target : Value) (name : Text) : Appends (memberOf target name) := by
  refine .ite ?_ ?_
  · split
    · exact .pure _
    · exact appends_raise _ _
  · split
    · split
      · exact .pure _
      · exact appends_raise _ _
    · exact .ite ((appends_items _).bind fun _ => appends_newTuple _) (appends_raise _ _)
    · refine .ite ((appends_isClosed _).bind fun _ => .pure _) ?_
      split
      · exact .pure _
      · exact appends_raise _ _
    · split
      · exact .pure _
      · exact appends_raise _ _

theorem appends_check (done : ModulePath) (outer : Option Module) (path : ModulePath) :
    Appends (importModule.check done outer path) := by
  induction path generalizing done outer with
  | nil => exact .pure _
  | cons name rest ih =>
    unfold importModule.check
    dsimp only
    split
    · exact ih _ _
    · split
      · exact appends_raise _ _
      · exact .ite (appends_raise _ _) (appends_raise _ _)

theorem appends_importModule (path : ModulePath) (given : Option Text) :
    Appends (importModule path given) := by
  refine (appends_check _ _ _).bind fun _ => ?_
  dsimp only
  -- Under its own name as under a given one, the module is bound if it was found.
  split
  · split
    · exact appends_setName _ _
    · exact .pure _
  · split
    · exact appends_setName _ _
    · exact .pure _

theorem appends_importName (path : ModulePath) (name : Text) (given : Option Text) :
    Appends (importName path name given) := by
  unfold importName
  split
  · exact .pure _
  · split
    · exact appends_setName _ _
    · exact appends_raise _ _

theorem appends_importNames (path : ModulePath) (names : List (Text × Option Text)) :
    Appends (importNames path names) := by
  unfold importNames
  refine (appends_check _ _ _).bind fun _ => .bind (.forIn (fun entry _ => ?_) _ _) fun _ => .pure _
  exact (appends_importName _ _ _).bind fun _ => .pure _

theorem appends_textOf (value : Value) : Appends (textOf value) :=
  .get_bind (fun _ _ => rfl) fun _ => appends_ofShown _

theorem appends_reprOf (value : Value) : Appends (reprOf value) :=
  .get_bind (fun _ _ => rfl) fun _ => appends_ofShown _

theorem appends_separator (name default : String) (named : List (Text × Value)) :
    Appends (separator name default named) := by
  unfold separator
  split
  · exact .pure _
  · exact .pure _
  · exact .pure _
  · exact appends_typeError _

theorem appends_writeTo (target : Value) {text : Eval Text} (h : Appends text) :
    Appends (writeTo target text) := by
  unfold writeTo
  split
  · exact h.bind fun _ => appends_write _ _
  · exact (appends_memberOf _ _).bind fun _ => .pure _

theorem appends_printAll (target : Value) (between : Text) (values : List Value) :
    Appends (printAll target between values) := by
  induction values with
  | nil => exact .pure _
  | cons value values ih =>
    cases values with
    | nil => exact appends_writeTo target (appends_textOf value)
    | cons next values =>
      refine (appends_writeTo target (appends_textOf value)).bind fun _ => ?_
      exact (appends_writeTo target (.pure between)).bind fun _ => ih

theorem appends_print (arguments : Arguments) : Appends (print arguments) := by
  unfold print
  dsimp only
  split
  · exact appends_typeError _
  · refine (appends_separator _ _ _).bind fun between => (appends_separator _ _ _).bind fun last => ?_
    refine (appends_printAll _ between _).bind fun _ => ?_
    exact (appends_writeTo _ (.pure last)).bind fun _ => .pure _

theorem appends_length (value : Value) : Appends (length value) := by
  unfold length
  split
  · exact .pure _
  · exact .ite (.pure _) (appends_raise _ _)
  · refine (appends_itemsOf? _).bind fun items => ?_
    split
    · exact .pure _
    · exact appends_typeError _

theorem appends_toText (arguments : Arguments) : Appends (toText arguments) := by
  refine (Slots.appends_fill _ _).bind fun filled => .bind (.forIn (fun entry _ => ?_) _ _) fun _ => ?_
  · dsimp only
    split
    · exact .pure _
    · exact .pure _
    · exact .pure _
    · exact .throw_bind _ _
  · split
    · exact .pure _
    · exact (appends_textOf _).bind fun _ => .pure _
    · exact appends_typeError _
    · exact appends_typeError _
    · exact .pure _

theorem appends_integerOf (text : Text) (base : Nat) : Appends (integerOf text base) := by
  unfold integerOf
  split
  · exact appends_raise _ _
  · exact .pure _
  · exact appends_raise _ _

theorem appends_toInteger (arguments : Arguments) : Appends (toInteger arguments) := by
  refine (Slots.appends_fill _ _).bind fun filled => ?_
  split
  · exact appends_typeError _
  · refine (appends_indexOf _).bind fun base => .guard (appends_raise _ _) fun _ => ?_
    dsimp only
    split
    · exact appends_integerOf _ _
    · exact appends_typeError _
  · exact appends_integerOf _ _
  · split
    · exact .pure _
    · exact appends_typeError _
  · exact .pure _

theorem appends_sum (arguments : Arguments) : Appends (sum arguments) := by
  refine (Slots.appends_fill _ _).bind fun filled => ?_
  split
  · refine (appends_itemsOf _).bind fun items => ?_
    split
    · exact appends_typeError _
    · exact .foldlM (fun _ _ => appends_add _ _ _) _ _
  · exact .pure _

theorem appends_range (arguments : Arguments) : Appends (range arguments) := by
  refine (arguments.appends_unnamed _).bind fun values => ?_
  refine (Arguments.appends_between _ _ _ _).bind fun values => ?_
  split
  · exact (appends_indexOf _).bind fun _ => .pure _
  · exact (appends_indexOf _).bind fun _ => (appends_indexOf _).bind fun _ => .pure _
  · refine (appends_indexOf _).bind fun _ => (appends_indexOf _).bind fun _ => ?_
    exact (appends_indexOf _).bind fun _ => .guard (appends_raise _ _) fun _ => .pure _
  · exact .pure _

theorem appends_exit (arguments : Arguments) : Appends (exit arguments) := by
  refine (arguments.appends_unnamed _).bind fun values => ?_
  refine (Arguments.appends_between _ _ _ _).bind fun values => ?_
  exact (appends_leaving _).bind fun _ => .throw _

theorem appends_pathEnd (arguments : Arguments) : Appends (pathEnd arguments) := by
  refine (Parameters.appends_take _ _).bind fun taken => ?_
  split
  · exact .pure _
  · exact appends_typeError _
  · exact .pure _

theorem appends_sleep (arguments : Arguments) : Appends (sleep arguments) := by
  refine (Parameters.appends_take _ _).bind fun taken => ?_
  exact (appends_allocate _).bind fun _ => .pure _

theorem appends_setWarnings (arguments : Arguments) : Appends (setWarnings arguments) := by
  refine (Parameters.appends_take _ _).bind fun taken => ?_
  split
  · split
    · exact (appends_setFilter _).bind fun _ => .pure _
    · exact (appends_reprOf _).bind fun _ => appends_raise _ _
  · exact .pure _

theorem appends_callFunction (h : ∀ function value, Appends (convert function value))
    (function : Function) (arguments : Arguments) : Appends (callFunction convert function arguments) := by
  cases function with
  | print => exact appends_print arguments
  | str => exact appends_toText arguments
  | repr => exact (arguments.appends_single _).bind fun _ => (appends_reprOf _).bind fun _ => .pure _
  | len => exact (arguments.appends_single _).bind appends_length
  | sum => exact appends_sum arguments
  | int => exact appends_toInteger arguments
  | range => exact appends_range arguments
  | exit => exact appends_exit arguments
  | dumps => exact appends_serialize h arguments
  | basename => exact appends_pathEnd arguments
  | sleep => exact appends_sleep arguments
  | simplefilter => exact appends_setWarnings arguments

theorem appends_join (between : Text) (value : Value) : Appends (join between value) := by
  refine (appends_itemsOf? value).bind fun items => ?_
  split
  · exact appends_typeError _
  · refine .bind (.mapM (fun entry => ?_) _) fun _ => .pure _
    split
    split
    · exact .pure _
    · exact appends_typeError _

theorem appends_callMethod (owner : Value) (method : Method) (arguments : Arguments) :
    Appends (callMethod owner method arguments) := by
  unfold callMethod
  split
  · refine (arguments.appends_single _).bind fun item => (appends_items _).bind fun items => ?_
    exact (appends_store _ _).bind fun _ => .pure _
  · exact (arguments.appends_single _).bind fun _ => appends_join _ _
  · exact (arguments.appends_nothing _).bind fun _ => .pure _
  · refine (arguments.appends_single _).bind fun value => ?_
    split
    · exact (appends_write _ _).bind fun _ => .pure _
    · exact appends_typeError _
  · exact (arguments.appends_nothing _).bind fun _ => (appends_close _).bind fun _ => .pure _
  · refine (arguments.appends_nothing _).bind fun _ => (appends_isClosed _).bind fun _ => ?_
    exact .guard (appends_raise _ _) fun _ => .pure _
  · exact (arguments.appends_nothing _).bind fun _ => .pure _

theorem appends_callWith (h : ∀ function value, Appends (convert function value)) (function : Value)
    (arguments : Arguments) : Appends (callWith convert function arguments) := by
  cases function with
  | function function => exact appends_callFunction h function arguments
  | method owner method => exact appends_callMethod owner method arguments
  | errorType type => exact (appends_makeError type arguments).bind appends_errorValue
  | _ => exact appends_typeError _

/-- What was written before a call stays in front of what it writes. -/
theorem appends_call (function : Value) (arguments : Arguments) : Appends (call function arguments) :=
  appends_callWith (fun _ _ => appends_callWith (fun _ => appends_notSerializable) _ _) _ _

end Eval

end DocExamples.Script
