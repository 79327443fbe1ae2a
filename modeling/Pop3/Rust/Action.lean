import Mathlib.Tactic.Basic

/-!
# Fallible stateful actions

An `async fn(&mut self) -> Result<α, ε>` run to completion is an `EStateM`
action: it returns a value or an error, and the changes it made to the state
stay in both cases.  This module has the combinators such code is written with
and the rule for invariants of the state, which hold after an error too.
-/

namespace Rust

/-- An action on a state of type `S` that may fail with an error of type `ε`. -/
abbrev Action (ε S α : Type) := EStateM ε S α

/-- The state in which an action ends. -/
def finalState : EStateM.Result ε S α → S
  | .ok _ state => state
  | .error _ state => state

/-- The `Result` that the caller of an action sees. -/
def returned : EStateM.Result ε S α → Except ε α
  | .ok value _ => .ok value
  | .error error _ => .error error

@[simp] theorem finalState_ok (value : α) (state : S) :
    finalState (.ok value state : EStateM.Result ε S α) = state := rfl

@[simp] theorem finalState_error (error : ε) (state : S) :
    finalState (.error error state : EStateM.Result ε S α) = state := rfl

@[simp] theorem returned_ok (value : α) (state : S) :
    returned (.ok value state : EStateM.Result ε S α) = .ok value := rfl

@[simp] theorem returned_error (error : ε) (state : S) :
    returned (.error error state : EStateM.Result ε S α) = .error error := rfl

/-- Results one after the other succeed if both do. -/
theorem bind_eq_ok_iff {first : Except ε α} {next : α → Except ε β} {result : β} :
    (first >>= next) = .ok result ↔ ∃ value, first = .ok value ∧ next value = .ok result := by
  cases first <;> simp [bind, Except.bind]

/-- A result is what is returned with the state it ends in. -/
theorem eq_ok_of_returned
    {result : EStateM.Result ε S α}
    {value : α}
    (isOk : returned result = .ok value) :
    result = .ok value (finalState result) := by
  cases result with
  | ok value' state => cases isOk; rfl
  | error error state => cases isOk

theorem eq_error_of_returned
    {result : EStateM.Result ε S α}
    {error : ε}
    (isError : returned result = .error error) :
    result = .error error (finalState result) := by
  cases result with
  | ok value state => cases isError
  | error error' state => cases isError; rfl

/-! ## Combinators -/

/-- Read something off the state. -/
def gets (read : S → α) : Action ε S α := fun state => .ok (read state) state

/-- Run an action and hand its `Result` to the caller as a value. -/
def attempt (action : Action ε S α) : Action ε' S (Except ε α) := fun state =>
  match action state with
  | .ok value state => .ok (.ok value) state
  | .error error state => .ok (.error error) state

/-- `Result::map_err`. -/
def mapError (convert : ε → ε') (action : Action ε S α) : Action ε' S α :=
  fun state =>
    match action state with
    | .ok value state => .ok value state
    | .error error state => .error (convert error) state

/-- The `?` operator on a pure `Result`. -/
def ofResult (result : Except ε α) : Action ε S α := fun state =>
  match result with
  | .ok value => .ok value state
  | .error error => .error error state

/-- A component of a state, with the laws of a field. -/
structure Field (S T : Type) where
  get : S → T
  set : T → S → S
  get_set : ∀ inner outer, get (set inner outer) = inner
  set_get : ∀ outer, set (get outer) outer = outer
  set_set : ∀ first second outer, set second (set first outer) = set second outer

/-- Run an action on one component of the state. -/
def Field.run (field : Field S T) (action : Action ε T α) : Action ε S α :=
  fun outer =>
    match action (field.get outer) with
    | .ok value inner => .ok value (field.set inner outer)
    | .error error inner => .error error (field.set inner outer)

section Evaluation

variable {action : Action ε S α} {next : α → Action ε S β}
  {value : α} {error : ε} {state state' : S}

@[simp] theorem pure_apply (value : α) (state : S) :
    (pure value : Action ε S α) state = .ok value state := rfl

@[simp] theorem throw_apply (error : ε) (state : S) :
    (throw error : Action ε S α) state = .error error state := rfl

@[simp] theorem get_apply (state : S) :
    (get : Action ε S S) state = .ok state state := rfl

@[simp] theorem modify_apply (change : S → S) (state : S) :
    (modify change : Action ε S Unit) state = .ok () (change state) := rfl

@[simp] theorem gets_apply (read : S → α) (state : S) :
    (gets read : Action ε S α) state = .ok (read state) state := rfl

theorem bind_of_ok (runs : action state = .ok value state') :
    (action >>= next) state = next value state' := by
  simp [bind, EStateM.bind, runs]

theorem bind_of_error (fails : action state = .error error state') :
    (action >>= next) state = .error error state' := by
  simp [bind, EStateM.bind, fails]

@[simp] theorem pure_bind_apply (value : α) (next : α → Action ε S β) (state : S) :
    ((pure value : Action ε S α) >>= next) state = next value state := rfl

@[simp] theorem throw_bind_apply (error : ε) (next : α → Action ε S β) (state : S) :
    ((throw error : Action ε S α) >>= next) state = .error error state := rfl

@[simp] theorem get_bind_apply (next : S → Action ε S β) (state : S) :
    ((get : Action ε S S) >>= next) state = next state state := rfl

@[simp] theorem gets_bind_apply
    (read : S → α) (next : α → Action ε S β) (state : S) :
    ((gets read : Action ε S α) >>= next) state = next (read state) state := rfl

@[simp] theorem modify_bind_apply
    (change : S → S) (next : Unit → Action ε S β) (state : S) :
    ((modify change : Action ε S Unit) >>= next) state =
      next () (change state) := rfl

@[simp] theorem ofResult_ok_apply (value : α) (state : S) :
    (ofResult (.ok value) : Action ε S α) state = .ok value state := rfl

@[simp] theorem ofResult_error_apply (error : ε) (state : S) :
    (ofResult (.error error) : Action ε S α) state = .error error state := rfl

theorem finalState_ofResult (result : Except ε α) (state : S) :
    finalState (ofResult result state) = state := by
  cases result <;> rfl

theorem returned_ofResult (result : Except ε α) (state : S) :
    returned (ofResult result state) = result := by
  cases result <;> rfl

theorem ofResult_ok_bind (value : α) (next : α → Action ε S β) :
    (ofResult (.ok value) : Action ε S α) >>= next = next value := rfl

theorem ofResult_error_bind (error : ε) (next : α → Action ε S β) :
    (ofResult (.error error) : Action ε S α) >>= next = throw error := rfl

/-- A value that is wrapped after it has been found. -/
theorem ofResult_bind_pure (result : Except ε α) (wrap : α → β) :
    (do
      let value ← ofResult result
      return wrap value : Action ε S β) = ofResult (result.map wrap) := by
  cases result <;> rfl

theorem attempt_of_ok (runs : action state = .ok value state') :
    (attempt action : Action ε' S _) state = .ok (.ok value) state' := by
  simp [attempt, runs]

theorem attempt_of_error (fails : action state = .error error state') :
    (attempt action : Action ε' S _) state = .ok (.error error) state' := by
  simp [attempt, fails]

/-- Wrapping a value changes nothing else. -/
theorem finalState_bind_pure (action : Action ε S α) (wrap : α → β) (state : S) :
    finalState ((do return wrap (← action) : Action ε S β) state) =
      finalState (action state) := by
  cases run : action state with
  | ok value state' => rw [bind_of_ok run]; rfl
  | error error state' => rw [bind_of_error run]; rfl

theorem returned_bind_pure (action : Action ε S α) (wrap : α → β) (state : S) :
    returned ((do return wrap (← action) : Action ε S β) state) =
      (returned (action state)).map wrap := by
  cases run : action state with
  | ok value state' => rw [bind_of_ok run]; rfl
  | error error state' => rw [bind_of_error run]; rfl

/-- A caught result is always a value. -/
theorem attempt_apply (action : Action ε S α) (state : S) :
    (attempt action : Action ε' S _) state =
      .ok (returned (action state)) (finalState (action state)) := by
  unfold attempt
  split <;> simp [*]

@[simp] theorem finalState_attempt (action : Action ε S α) (state : S) :
    finalState ((attempt action : Action ε' S _) state) = finalState (action state) := by
  rw [attempt_apply, finalState_ok]

@[simp] theorem finalState_mapError
    (convert : ε → ε') (action : Action ε S α) (state : S) :
    finalState (mapError convert action state) = finalState (action state) := by
  unfold mapError
  split <;> simp [*]

theorem returned_mapError
    (convert : ε → ε') (action : Action ε S α) (state : S) :
    returned (mapError convert action state) = (returned (action state)).mapError convert := by
  unfold mapError
  cases action state <;> rfl

theorem mapError_of_ok
    {convert : ε → ε'}
    (runs : action state = .ok value state') :
    mapError convert action state = .ok value state' := by
  simp [mapError, runs]

theorem mapError_of_error
    {convert : ε → ε'}
    (fails : action state = .error error state') :
    mapError convert action state = .error (convert error) state' := by
  simp [mapError, fails]

/-- A pure step at the end changes nothing else. -/
theorem finalState_mapError_ofResult
    (convert : ε → ε') (action : Action ε S α) (finish : α → Except ε' β) (state : S) :
    finalState ((mapError convert action >>= fun value => ofResult (finish value)) state) =
      finalState (action state) := by
  cases run : action state with
  | ok value middle => rw [bind_of_ok (mapError_of_ok run), finalState_ofResult]; rfl
  | error error middle => rw [bind_of_error (mapError_of_error run)]; rfl

theorem returned_mapError_ofResult
    (convert : ε → ε') (action : Action ε S α) (finish : α → Except ε' β) (state : S) :
    returned ((mapError convert action >>= fun value => ofResult (finish value)) state) =
      ((returned (action state)).mapError convert >>= finish) := by
  cases run : action state with
  | ok value middle => rw [bind_of_ok (mapError_of_ok run), returned_ofResult]; rfl
  | error error middle => rw [bind_of_error (mapError_of_error run)]; rfl

/-! What a success says about the steps. -/

theorem exists_of_bind_ok
    {result : β}
    (runs : (action >>= next) state = .ok result state') :
    ∃ value middle, action state = .ok value middle ∧ next value middle = .ok result state' := by
  cases run : action state with
  | ok value middle => exact ⟨value, middle, rfl, (bind_of_ok run).symm.trans runs⟩
  | error error middle =>
      rw [bind_of_error run] at runs
      cases runs

theorem eq_of_ofResult_ok
    {result : Except ε α}
    (runs : (ofResult result : Action ε S α) state = .ok value state') :
    state' = state ∧ result = .ok value := by
  cases result with
  | ok other =>
      injection runs with sameValue sameState
      exact ⟨sameState.symm, congrArg Except.ok sameValue⟩
  | error error => cases runs

theorem eq_of_mapError_ok
    {convert : ε → ε'}
    (runs : mapError convert action state = .ok value state') :
    action state = .ok value state' := by
  cases run : action state with
  | ok other middle =>
      rw [mapError_of_ok run] at runs
      injection runs with sameValue sameState
      rw [sameValue, sameState]
  | error error middle =>
      rw [mapError_of_error run] at runs
      cases runs

theorem Field.run_of_ok
    {field : Field S T} {inner : Action ε T α} {outer : S} {state' : T}
    (runs : inner (field.get outer) = .ok value state') :
    field.run inner outer = .ok value (field.set state' outer) := by
  simp [Field.run, runs]

theorem Field.run_of_error
    {field : Field S T} {inner : Action ε T α} {outer : S} {state' : T}
    (fails : inner (field.get outer) = .error error state') :
    field.run inner outer = .error error (field.set state' outer) := by
  simp [Field.run, fails]

theorem Field.eq_of_run_ok
    {field : Field S T} {inner : Action ε T α} {outer outer' : S}
    (runs : field.run inner outer = .ok value outer') :
    ∃ inside, inner (field.get outer) = .ok value inside ∧ outer' = field.set inside outer := by
  cases run : inner (field.get outer) with
  | ok other inside =>
      have same := (Field.run_of_ok run).symm.trans runs
      injection same with sameValue sameState
      exact ⟨inside, sameValue ▸ rfl, sameState.symm⟩
  | error error inside =>
      rw [Field.run_of_error run] at runs
      cases runs

@[simp] theorem Field.finalState_run
    (field : Field S T) (inner : Action ε T α) (outer : S) :
    finalState (field.run inner outer) =
      field.set (finalState (inner (field.get outer))) outer := by
  unfold Field.run
  split <;> simp [*]

@[simp] theorem Field.returned_run
    (field : Field S T) (inner : Action ε T α) (outer : S) :
    returned (field.run inner outer) = returned (inner (field.get outer)) := by
  unfold Field.run
  split <;> simp [*]

/-- Running on a component commutes with sequencing. -/
theorem Field.run_bind
    (field : Field S T)
    (inner : Action ε T α)
    (then_inner : α → Action ε T β) :
    field.run (inner >>= then_inner) =
      field.run inner >>= fun value => field.run (then_inner value) := by
  funext outer
  cases run : inner (field.get outer) with
  | ok value state' =>
      rw [bind_of_ok (Field.run_of_ok run)]
      simp only [Field.run, bind_of_ok run, field.get_set, field.set_set]
  | error error state' =>
      rw [bind_of_error (Field.run_of_error run),
        Field.run_of_error (bind_of_error run)]

theorem Field.run_pure
    (field : Field S T)
    (value : α) :
    field.run (Pure.pure value : Action ε T α) = Pure.pure value := by
  funext outer
  simp [Field.run, field.set_get]

theorem Field.run_throw
    (field : Field S T)
    (error : ε) :
    field.run (MonadExcept.throw error : Action ε T α) = MonadExcept.throw error := by
  funext outer
  simp [Field.run, field.set_get]

theorem Field.run_ofResult
    (field : Field S T)
    (result : Except ε α) :
    field.run (ofResult result) = ofResult result := by
  funext outer
  cases result <;> simp [Field.run, field.set_get]

theorem Field.run_gets
    (field : Field S T)
    (read : T → α) :
    field.run (gets read : Action ε T α) = gets fun outer => read (field.get outer) := by
  funext outer
  simp [Field.run, field.set_get]

end Evaluation

/-! ## Invariants -/

/-- The action keeps a property of the state, whether it returns or fails. -/
def Preserves (invariant : S → Prop) (action : Action ε S α) : Prop :=
  ∀ state, invariant state → invariant (finalState (action state))

namespace Preserves

variable {invariant : S → Prop}

theorem pure (value : α) :
    Preserves invariant (Pure.pure value : Action ε S α) :=
  fun _ holds => holds

theorem throw (error : ε) :
    Preserves invariant (MonadExcept.throw error : Action ε S α) :=
  fun _ holds => holds

theorem gets (read : S → α) :
    Preserves invariant (Rust.gets read : Action ε S α) :=
  fun _ holds => holds

theorem modify
    {change : S → S}
    (keeps : ∀ state, invariant state → invariant (change state)) :
    Preserves invariant (modify change : Action ε S Unit) :=
  keeps

theorem ofResult (result : Except ε α) :
    Preserves invariant (Rust.ofResult result : Action ε S α) := by
  intro state holds
  cases result <;> exact holds

/-- What a result lets through may be used. -/
theorem ofResult_bind
    {result : Except ε α}
    {next : α → Action ε S β}
    (keeps : ∀ value, result = .ok value → Preserves invariant (next value)) :
    Preserves invariant (Rust.ofResult result >>= next) := by
  cases result with
  | ok value => exact keeps value rfl
  | error error => exact .throw error

/-- What holds after the first action, and the rest preserves, holds at the end. -/
theorem finalState_bind
    {action : Action ε S α}
    {next : α → Action ε S β}
    {state : S}
    (first : invariant (finalState (action state)))
    (rest : ∀ value, Preserves invariant (next value)) :
    invariant (finalState ((action >>= next) state)) := by
  cases run : action state with
  | ok value state' =>
      rw [bind_of_ok run]
      rw [run] at first
      exact rest value state' first
  | error error state' =>
      rw [bind_of_error run]
      rwa [run] at first

theorem bind
    {action : Action ε S α}
    {next : α → Action ε S β}
    (first : Preserves invariant action)
    (rest : ∀ value, Preserves invariant (next value)) :
    Preserves invariant (action >>= next) :=
  fun state holds => finalState_bind (first state holds) rest

theorem attempt
    {action : Action ε S α}
    (preserves : Preserves invariant action) :
    Preserves invariant (Rust.attempt action : Action ε' S _) := by
  intro state holds
  rw [finalState_attempt]
  exact preserves state holds

theorem mapError
    {convert : ε → ε'}
    {action : Action ε S α}
    (preserves : Preserves invariant action) :
    Preserves invariant (Rust.mapError convert action) := by
  intro state holds
  rw [finalState_mapError]
  exact preserves state holds

theorem field
    (field : Field S T)
    {inner : T → Prop}
    {action : Action ε T α}
    (preserves : Preserves inner action) :
    Preserves (fun outer => inner (field.get outer)) (field.run action) := by
  intro outer holds
  rw [Field.finalState_run, field.get_set]
  exact preserves (field.get outer) holds

theorem or
    {other : S → Prop}
    {action : Action ε S α}
    (first : Preserves invariant action)
    (second : Preserves other action) :
    Preserves (fun state => invariant state ∨ other state) action :=
  fun state holds => holds.imp (first state) (second state)

end Preserves

end Rust
