namespace DocExamples.Effects

variable {ε σ α β : Type}

theorem eq_ok_of_toOption {result : Except ε α} {value : α} (h : result.toOption = some value) :
    result = .ok value := by
  cases result with
  | error => cases h
  | ok => exact congrArg Except.ok (Option.some.inj h)

theorem eq_error_of_map {result : Except ε α} {f : α → β} {problem : ε}
    (h : result.map f = .error problem) : result = .error problem := by
  cases result with
  | error => exact congrArg Except.error (Except.error.inj h)
  | ok => cases h

theorem exists_of_map_eq_ok {result : Except ε α} {f : α → β} {value : β} (h : result.map f = .ok value) :
    ∃ first, result = .ok first ∧ f first = value := by
  cases result with
  | error => cases h
  | ok first => exact ⟨first, rfl, Except.ok.inj h⟩

theorem exists_of_bind_eq_ok {result : Except ε α} {next : α → Except ε β} {value : β}
    (h : result.bind next = .ok value) : ∃ first, result = .ok first ∧ next first = .ok value := by
  cases result with
  | error => cases h
  | ok first => exact ⟨first, rfl, h⟩

theorem eq_ok_of_mapError {δ : Type} {result : Except ε α} {f : ε → δ} {value : α}
    (h : result.mapError f = .ok value) : result = .ok value := by
  cases result with
  | error => cases h
  | ok => exact congrArg Except.ok (Except.ok.inj h)

theorem map_map {γ : Type} (result : Except ε α) (f : α → β) (g : β → γ) :
    (result.map f).map g = result.map (g ∘ f) := by
  cases result <;> rfl

@[simp] theorem run_pure (value : α) (state : σ) :
    (pure value : ExceptT ε (StateM σ) α).run state = (.ok value, state) := rfl

@[simp] theorem run_throw (error : ε) (state : σ) :
    (throw error : ExceptT ε (StateM σ) α).run state = (.error error, state) := rfl

@[simp] theorem run_get (state : σ) :
    (get : ExceptT ε (StateM σ) σ).run state = (.ok state, state) := rfl

@[simp] theorem run_set (state next : σ) :
    (set next : ExceptT ε (StateM σ) PUnit).run state = (.ok ⟨⟩, next) := rfl

@[simp] theorem run_modify (f : σ → σ) (state : σ) :
    (modify f : ExceptT ε (StateM σ) PUnit).run state = (.ok ⟨⟩, f state) := rfl

theorem run_bind (act : ExceptT ε (StateM σ) α) (next : α → ExceptT ε (StateM σ) β) (state : σ) :
    (act >>= next).run state =
      match act.run state with
      | (.ok value, state) => (next value).run state
      | (.error error, state) => (.error error, state) := by
  change (ExceptT.bind act next).run state = _
  simp only [ExceptT.bind, ExceptT.run, ExceptT.mk, bind, StateT.bind]
  rcases act state with ⟨_ | _, _⟩ <;> rfl

theorem run_map (f : α → β) (act : ExceptT ε (StateM σ) α) (state : σ) :
    (f <$> act).run state = ((act.run state).1.map f, (act.run state).2) := by
  change (ExceptT.map f act).run state = _
  simp only [ExceptT.map, ExceptT.run, ExceptT.mk, bind, StateT.bind]
  rcases act state with ⟨_ | _, _⟩ <;> rfl

theorem run_tryCatch (act : ExceptT ε (StateM σ) α) (handle : ε → ExceptT ε (StateM σ) α) (state : σ) :
    (tryCatch act handle).run state =
      match act.run state with
      | (.ok value, state) => (.ok value, state)
      | (.error error, state) => (handle error).run state := by
  change (ExceptT.tryCatch act handle).run state = _
  simp only [ExceptT.tryCatch, ExceptT.run, ExceptT.mk, bind, StateT.bind]
  rcases act state with ⟨_ | _, _⟩ <;> rfl

end DocExamples.Effects
