import Pop3.Rust.Action

/-!
# Simulation

Reasoning about fallible actions through an abstraction of their state.  An
action `Gives` a result when it does so from every state that shows a given
abstract state, unless it escapes: it fails in a way that ends the run, or it
reaches states that nothing afterwards can leave.  `Built` describes the
programs put together from a set of primitive actions, so that a property of
all of them is proved for the primitives only.
-/

namespace Rust

/-! ## Programs built from primitives -/

/-- Programs put together from primitive actions.  Errors are caught only where
`catching` holds. -/
inductive Built (primitive : ∀ {α : Type}, Action ε S α → Prop) (catching : Prop) :
    ∀ {α : Type}, Action ε S α → Prop
  | primitive {action : Action ε S α} :
      primitive action → Built primitive catching action
  | pure (value : α) : Built primitive catching (Pure.pure value)
  | throw (error : ε) :
      Built primitive catching (MonadExcept.throw error : Action ε S α)
  | ofResult (result : Except ε α) : Built primitive catching (Rust.ofResult result)
  | bind {action : Action ε S α} {next : α → Action ε S β} :
      Built primitive catching action →
      (∀ value, Built primitive catching (next value)) →
      Built primitive catching (action >>= next)
  | attempt {action : Action ε S α} :
      catching → Built primitive catching action →
      Built primitive catching (Rust.attempt action)

/-- What the primitives preserve, every program preserves. -/
theorem Built.preserves
    {primitive : ∀ {α : Type}, Action ε S α → Prop}
    {catching : Prop}
    {invariant : S → Prop}
    {action : Action ε S α}
    (built : Built primitive catching action)
    (primitives : ∀ {β : Type} (step : Action ε S β),
      primitive step → Preserves invariant step) :
    Preserves invariant action := by
  induction built with
  | primitive isPrimitive => exact primitives _ isPrimitive
  | pure value => exact .pure value
  | throw error => exact .throw error
  | ofResult result => exact .ofResult result
  | bind _ _ first rest => exact .bind first rest
  | attempt _ _ inductionHypothesis => exact .attempt inductionHypothesis

/-! ## Results through an abstraction -/

/-- The ways in which a run may leave its abstraction. -/
structure Escapes (ε S : Type) where
  /-- The action has failed with this error, and the run ends here. -/
  stuck : ε → S → Prop
  /-- Nothing that the program does from here on matters. -/
  gone : S → Prop

/-- An action never escapes. -/
def Escapes.none : Escapes ε S where
  stuck _ _ := False
  gone _ := False

/-- Seen through the abstraction, the action takes `before` to `after` and
returns the result, unless it escapes. -/
def Gives (shows : S → T → Prop) (escapes : Escapes ε S) (action : Action ε S α)
    (before : T) (result : Except ε α) (after : T) : Prop :=
  ∀ state, shows state before →
    (returned (action state) = result ∧ shows (finalState (action state)) after) ∨
    (∃ error, returned (action state) = .error error ∧
      escapes.stuck error (finalState (action state))) ∨
    escapes.gone (finalState (action state))

namespace Gives

variable {shows : S → T → Prop} {escapes : Escapes ε S}
  {before middle after : T} {result : Except ε α}

theorem pure (value : α) :
    Gives shows escapes (Pure.pure value) before (.ok value) before :=
  fun _ shown => .inl ⟨rfl, shown⟩

theorem throw (error : ε) :
    Gives shows escapes (MonadExcept.throw error : Action ε S α)
      before (.error error) before :=
  fun _ shown => .inl ⟨rfl, shown⟩

theorem ofResult (result : Except ε α) :
    Gives shows escapes (Rust.ofResult result) before result before := by
  intro state shown
  cases result <;> exact .inl ⟨rfl, shown⟩

/-- After a value, the rest of the program goes on. -/
theorem bind
    {action : Action ε S α}
    {next : α → Action ε S β}
    {value : α}
    {result : Except ε β}
    (first : Gives shows escapes action before (.ok value) middle)
    (rest : Gives shows escapes (next value) middle result after)
    (keeps : ∀ value, Preserves escapes.gone (next value)) :
    Gives shows escapes (action >>= next) before result after := by
  intro state shown
  have outcome := first state shown
  cases run : action state with
  | ok found state' =>
      rw [bind_of_ok run]
      rw [run] at outcome
      rcases outcome with ⟨same, shown'⟩ | ⟨error, failed, _⟩ | gone
      · injection same with same
        subst same
        exact rest state' shown'
      · cases failed
      · exact .inr (.inr (keeps found state' gone))
  | error error state' =>
      rw [bind_of_error run]
      rw [run] at outcome
      rcases outcome with ⟨same, _⟩ | ⟨error', failed, isStuck⟩ | gone
      · cases same
      · injection failed with failed
        subst failed
        exact .inr (.inl ⟨error, rfl, isStuck⟩)
      · exact .inr (.inr gone)

/-- After an error, the rest of the program is skipped. -/
theorem bind_error
    {action : Action ε S α}
    {next : α → Action ε S β}
    {error : ε}
    (first : Gives shows escapes action before (.error error) after)
    (keeps : ∀ value, Preserves escapes.gone (next value)) :
    Gives shows escapes (action >>= next) before (.error error) after := by
  intro state shown
  have outcome := first state shown
  cases run : action state with
  | ok found state' =>
      rw [bind_of_ok run]
      rw [run] at outcome
      rcases outcome with ⟨same, _⟩ | ⟨error', failed, _⟩ | gone
      · cases same
      · cases failed
      · exact .inr (.inr (keeps found state' gone))
  | error error' state' =>
      rw [bind_of_error run]
      rw [run] at outcome
      rcases outcome with ⟨same, shown'⟩ | ⟨error', failed, isStuck⟩ | gone
      · injection same with same
        subst same
        exact .inl ⟨rfl, shown'⟩
      · injection failed with failed
        subst failed
        exact .inr (.inl ⟨_, rfl, isStuck⟩)
      · exact .inr (.inr gone)

/-- A caught result goes on as a value, where no error ends the run. -/
theorem attempt
    {escapes' : Escapes ε' S}
    {action : Action ε S α}
    (gives : Gives shows escapes action before result after)
    (neverStuck : ∀ error state, ¬escapes.stuck error state)
    (goneUp : ∀ state, escapes.gone state → escapes'.gone state) :
    Gives shows escapes' (Rust.attempt action : Action ε' S (Except ε α))
      before (.ok result) after := by
  intro state shown
  have outcome := gives state shown
  cases run : action state with
  | ok value state' =>
      rw [attempt_of_ok run]
      rw [run] at outcome
      rcases outcome with ⟨same, shown'⟩ | ⟨error, _, isStuck⟩ | gone
      · exact .inl ⟨congrArg Except.ok same, shown'⟩
      · exact absurd isStuck (neverStuck error _)
      · exact .inr (.inr (goneUp state' gone))
  | error error state' =>
      rw [attempt_of_error run]
      rw [run] at outcome
      rcases outcome with ⟨same, shown'⟩ | ⟨error, _, isStuck⟩ | gone
      · exact .inl ⟨congrArg Except.ok same, shown'⟩
      · exact absurd isStuck (neverStuck error _)
      · exact .inr (.inr (goneUp state' gone))

/-- An action on a component acts on the whole. -/
theorem field
    {S' : Type}
    {field : Field S' S}
    {action : Action ε S α}
    {shows' : S' → T → Prop}
    {escapes' : Escapes ε S'}
    (gives : Gives shows escapes action before result after)
    (down : ∀ outer, shows' outer before → shows (field.get outer) before)
    (up : ∀ outer inner, shows' outer before → shows inner after →
      shows' (field.set inner outer) after)
    (stuckUp : ∀ error outer inner, escapes.stuck error inner →
      escapes'.stuck error (field.set inner outer))
    (goneUp : ∀ outer inner, escapes.gone inner →
      escapes'.gone (field.set inner outer)) :
    Gives shows' escapes' (field.run action) before result after := by
  intro outer shown
  have outcome := gives (field.get outer) (down outer shown)
  cases run : action (field.get outer) with
  | ok value state' =>
      rw [Field.run_of_ok run]
      rw [run] at outcome
      rcases outcome with ⟨same, shown'⟩ | ⟨error, failed, _⟩ | gone
      · exact .inl ⟨same, up outer state' shown shown'⟩
      · cases failed
      · exact .inr (.inr (goneUp outer state' gone))
  | error error state' =>
      rw [Field.run_of_error run]
      rw [run] at outcome
      rcases outcome with ⟨same, shown'⟩ | ⟨error', failed, isStuck⟩ | gone
      · exact .inl ⟨same, up outer state' shown shown'⟩
      · exact .inr (.inl ⟨error', failed, stuckUp error' outer state' isStuck⟩)
      · exact .inr (.inr (goneUp outer state' gone))

/-- Without escapes the result is the result. -/
theorem of_none
    {action : Action ε S α}
    (gives : Gives shows Escapes.none action before result after)
    {state : S}
    (shown : shows state before) :
    returned (action state) = result ∧ shows (finalState (action state)) after := by
  rcases gives state shown with given | ⟨_, _, isStuck⟩ | gone
  · exact given
  · exact isStuck.elim
  · exact gone.elim

end Gives

/-! ## Simulation of one program by another -/

/-- The action does what an abstract program does, unless it escapes. -/
def Follows (shows : S → T → Prop) (escapes : Escapes ε S) (action : Action ε S α)
    (ideal : Action ε T α) : Prop :=
  ∀ before, Gives shows escapes action before (returned (ideal before))
    (finalState (ideal before))

namespace Follows

variable {shows : S → T → Prop} {escapes : Escapes ε S}

theorem pure (value : α) :
    Follows shows escapes (Pure.pure value) (Pure.pure value) :=
  fun _ => .pure value

theorem throw (error : ε) :
    Follows shows escapes (MonadExcept.throw error : Action ε S α)
      (MonadExcept.throw error) :=
  fun _ => .throw error

theorem ofResult (result : Except ε α) :
    Follows shows escapes (Rust.ofResult result) (Rust.ofResult result) := by
  intro before
  cases result with
  | ok value => exact .ofResult (.ok value)
  | error error => exact .ofResult (.error error)

theorem bind
    {action : Action ε S α}
    {ideal : Action ε T α}
    {next : α → Action ε S β}
    {idealNext : α → Action ε T β}
    (first : Follows shows escapes action ideal)
    (rest : ∀ value, Follows shows escapes (next value) (idealNext value))
    (keeps : ∀ value, Preserves escapes.gone (next value)) :
    Follows shows escapes (action >>= next) (ideal >>= idealNext) := by
  intro before
  have firstGives := first before
  cases run : ideal before with
  | ok value middle =>
      rw [bind_of_ok run]
      rw [run] at firstGives
      exact firstGives.bind (rest value middle) keeps
  | error error middle =>
      rw [bind_of_error run]
      rw [run] at firstGives
      exact firstGives.bind_error keeps

/-- Without escapes, one action behind the other. -/
theorem andThen
    {action : Action ε S α}
    {ideal : Action ε T α}
    {next : α → Action ε S β}
    {idealNext : α → Action ε T β}
    (first : Follows shows Escapes.none action ideal)
    (rest : ∀ value, Follows shows Escapes.none (next value) (idealNext value)) :
    Follows shows Escapes.none (action >>= next) (ideal >>= idealNext) :=
  first.bind rest fun _ _ gone => gone.elim

/-- Reading the state changes nothing the abstraction shows. -/
theorem gets_bind
    {read : S → α}
    {next : α → Action ε S β}
    {ideal : Action ε T β}
    (rest : ∀ value, Follows shows escapes (next value) ideal) :
    Follows shows escapes (Rust.gets read >>= next) ideal :=
  fun before state shown => rest (read state) before state shown

/-- What both states show alike may be used. -/
theorem gets_bind_same
    {read : S → α}
    {idealRead : T → α}
    {next : α → Action ε S β}
    {ideal : α → Action ε T β}
    (same : ∀ state before, shows state before → read state = idealRead before)
    (rest : ∀ value, Follows shows escapes (next value) (ideal value)) :
    Follows shows escapes (Rust.gets read >>= next) (Rust.gets idealRead >>= ideal) := by
  intro before state shown
  rw [gets_bind_apply, gets_bind_apply, same state before shown]
  exact rest _ before state shown

theorem modify
    {change : S → S}
    {idealChange : T → T}
    (keeps : ∀ state before, shows state before → shows (change state) (idealChange before)) :
    Follows shows escapes (modify change) (modify idealChange) :=
  fun before state shown => .inl ⟨rfl, keeps state before shown⟩

theorem mapError
    {convert : ε → ε}
    {action : Action ε S α}
    {ideal : Action ε T α}
    (follows : Follows shows escapes action ideal)
    (neverStuck : ∀ error state, ¬escapes.stuck error state) :
    Follows shows escapes (Rust.mapError convert action) (Rust.mapError convert ideal) := by
  intro before state shown
  rw [finalState_mapError, finalState_mapError, returned_mapError, returned_mapError]
  rcases follows before state shown with ⟨same, shown'⟩ | ⟨error, _, isStuck⟩ | gone
  · exact .inl ⟨congrArg _ same, shown'⟩
  · exact absurd isStuck (neverStuck error _)
  · exact .inr (.inr gone)

/-- What never escapes may be given errors of another type. -/
theorem convert
    {convert : ε → ε'}
    {action : Action ε S α}
    {ideal : Action ε T α}
    (follows : Follows shows Escapes.none action ideal) :
    Follows shows Escapes.none (Rust.mapError convert action) (Rust.mapError convert ideal) := by
  intro before state shown
  obtain ⟨same, shown'⟩ := (follows before).of_none shown
  rw [finalState_mapError, finalState_mapError, returned_mapError, returned_mapError]
  exact .inl ⟨congrArg _ same, shown'⟩

/-- What is followed when its value has been wrapped is followed itself. -/
theorem of_wrapped
    {wrap : α → β}
    (injective : Function.Injective wrap)
    {action : Action ε S α}
    {ideal : Action ε T α}
    (follows : Follows shows escapes (do return wrap (← action)) (do return wrap (← ideal))) :
    Follows shows escapes action ideal := by
  intro before state shown
  have wrapped := follows before state shown
  rw [returned_bind_pure, returned_bind_pure, finalState_bind_pure, finalState_bind_pure]
    at wrapped
  rcases wrapped with ⟨same, shown'⟩ | ⟨error, failed, stuck⟩ | gone
  · refine .inl ⟨?_, shown'⟩
    generalize returned (action state) = result at same
    generalize returned (ideal before) = expected at same
    cases result with
    | ok value =>
        cases expected with
        | ok value' => exact congrArg Except.ok (injective (Except.ok.inj same))
        | error error => cases same
    | error error =>
        cases expected with
        | ok value => cases same
        | error error' => exact congrArg Except.error (Except.error.inj same)
  · refine .inr (.inl ⟨error, ?_, stuck⟩)
    generalize returned (action state) = result at failed
    cases result with
    | ok value => cases failed
    | error error' => exact congrArg Except.error (Except.error.inj failed)
  · exact .inr (.inr gone)

theorem attempt
    {action : Action ε S α}
    {ideal : Action ε T α}
    (follows : Follows shows escapes action ideal)
    (neverStuck : ∀ error state, ¬escapes.stuck error state) :
    Follows shows escapes (Rust.attempt action : Action ε S (Except ε α))
      (Rust.attempt ideal) := by
  intro before
  have gives : Gives shows escapes (Rust.attempt action : Action ε S (Except ε α))
      before (.ok (returned (ideal before))) (finalState (ideal before)) :=
    (follows before).attempt neverStuck fun _ => id
  cases run : ideal before with
  | ok value after =>
      rw [attempt_of_ok run]
      rwa [run] at gives
  | error error after =>
      rw [attempt_of_error run]
      rwa [run] at gives

end Follows

end Rust
