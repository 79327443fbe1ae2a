import Pop3.Rust.Action

/-!
# Actions that cannot succeed

Where a resource is used up, whatever needs it fails.  An action fails in all
states of a kind if one of its steps does and the steps before it keep the kind,
and with one error, if none of its steps has another.
-/

namespace Rust

/-- The action fails in every such state. -/
def FailsIn (kind : S → Prop) (action : Action ε S α) : Prop :=
  ∀ state, kind state → ∃ error, returned (action state) = .error error

namespace FailsIn

variable {kind : S → Prop}

/-- After a step that fails nothing else is done. -/
theorem first
    {action : Action ε S α}
    (fails : FailsIn kind action)
    (next : α → Action ε S β) :
    FailsIn kind (action >>= next) := by
  intro state holds
  obtain ⟨error, failed⟩ := fails state holds
  exact ⟨error, by rw [bind_of_error (eq_error_of_returned failed)]; rfl⟩

/-- Steps that keep the kind may come before one that fails. -/
theorem behind
    {action : Action ε S α}
    (keeps : Preserves kind action)
    {next : α → Action ε S β}
    (fails : ∀ value, FailsIn kind (next value)) :
    FailsIn kind (action >>= next) := by
  intro state holds
  have after := keeps state holds
  cases run : action state with
  | ok value last =>
      rw [run] at after
      rw [bind_of_ok run]
      exact fails value last after
  | error error last => exact ⟨error, by rw [bind_of_error run]; rfl⟩

theorem mapError
    {convert : ε → ε'}
    {action : Action ε S α}
    (fails : FailsIn kind action) :
    FailsIn kind (Rust.mapError convert action) := by
  intro state holds
  obtain ⟨error, failed⟩ := fails state holds
  exact ⟨convert error, by rw [mapError_of_error (eq_error_of_returned failed)]; rfl⟩

theorem field
    (field : Field S T)
    {kind : T → Prop}
    {inner : Action ε T α}
    (fails : FailsIn kind inner) :
    FailsIn (fun outer => kind (field.get outer)) (field.run inner) := by
  intro outer holds
  rw [Field.returned_run]
  exact fails _ holds

end FailsIn

/-- From every such state the action fails with this error, or not at all. -/
def RaisesIn (kind : S → Prop) (error : ε) (action : Action ε S α) : Prop :=
  ∀ state, kind state → ∀ other, returned (action state) = .error other → other = error

namespace RaisesIn

variable {kind : S → Prop} {error : ε}

theorem pure (value : α) : RaisesIn kind error (Pure.pure value : Action ε S α) := by
  intro _ _ _ failed
  cases failed

theorem gets (read : S → α) : RaisesIn kind error (Rust.gets read : Action ε S α) := by
  intro _ _ _ failed
  cases failed

theorem modify (change : S → S) :
    RaisesIn kind error (modify change : Action ε S Unit) := by
  intro _ _ _ failed
  cases failed

theorem throw : RaisesIn kind error (MonadExcept.throw error : Action ε S α) :=
  fun _ _ _ failed => (Except.error.inj failed).symm

/-- A sequence whose first part keeps the kind. -/
theorem bind
    {action : Action ε S α}
    {next : α → Action ε S β}
    (raises : RaisesIn kind error action)
    (keeps : Preserves kind action)
    (goesOn : ∀ value, RaisesIn kind error (next value)) :
    RaisesIn kind error (action >>= next) := by
  intro state holds other failed
  have after := keeps state holds
  cases run : action state with
  | ok value last =>
      rw [run] at after
      rw [bind_of_ok run] at failed
      exact goesOn value last after other failed
  | error first last =>
      rw [bind_of_error run] at failed
      obtain rfl := Except.error.inj failed
      exact raises state holds first (congrArg returned run)

theorem mapError
    {convert : ε → ε'}
    {action : Action ε S α}
    (raises : RaisesIn kind error action) :
    RaisesIn kind (convert error) (Rust.mapError convert action) := by
  intro state holds other failed
  rw [returned_mapError] at failed
  cases run : returned (action state) with
  | ok value =>
      rw [run] at failed
      cases failed
  | error first =>
      rw [run] at failed
      obtain rfl := Except.error.inj failed
      rw [raises state holds first run]

end RaisesIn

/-- An action that fails fails with the only error that it can. -/
theorem FailsIn.returned_eq
    {kind : S → Prop}
    {error : ε}
    {action : Action ε S α}
    (fails : FailsIn kind action)
    (raises : RaisesIn kind error action)
    {state : S}
    (holds : kind state) :
    returned (action state) = .error error := by
  obtain ⟨other, failed⟩ := fails state holds
  rw [failed, raises state holds other failed]

end Rust
