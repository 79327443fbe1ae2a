import Pop3.Rust.Simulation

/-!
# Two runs of one program

A program cannot tell related states apart if from all of them it returns the
same and ends in related states again.  Relations are kept by composition, and
whatever follows the same abstract program through one abstraction cannot tell
apart the states that show the same.
-/

namespace Rust

/-- From related states the action returns the same, and ends in related states. -/
def Respects (related : S → S → Prop) (action : Action ε S α) : Prop :=
  ∀ first second, related first second →
    returned (action first) = returned (action second) ∧
      related (finalState (action first)) (finalState (action second))

namespace Respects

variable {related : S → S → Prop}

theorem pure (value : α) : Respects related (Pure.pure value : Action ε S α) :=
  fun _ _ both => ⟨rfl, both⟩

theorem throw (error : ε) : Respects related (MonadExcept.throw error : Action ε S α) :=
  fun _ _ both => ⟨rfl, both⟩

theorem ofResult (result : Except ε α) :
    Respects related (Rust.ofResult result : Action ε S α) := by
  cases result with
  | ok value => exact .pure value
  | error error => exact .throw error

theorem modify
    {change : S → S}
    (keeps : ∀ first second, related first second → related (change first) (change second)) :
    Respects related (modify change : Action ε S Unit) :=
  fun first second both => ⟨rfl, keeps first second both⟩

theorem bind
    {action : Action ε S α}
    {next : α → Action ε S β}
    (respects : Respects related action)
    (rest : ∀ value, Respects related (next value)) :
    Respects related (action >>= next) := by
  intro first second both
  obtain ⟨same, after⟩ := respects first second both
  cases run : action first with
  | ok value first' =>
      rw [run] at same after
      rw [bind_of_ok run, bind_of_ok (eq_ok_of_returned same.symm)]
      exact rest value first' _ after
  | error error first' =>
      rw [run] at same after
      rw [bind_of_error run, bind_of_error (eq_error_of_returned same.symm)]
      exact ⟨rfl, after⟩

/-- What is read off related states may be used where it is the same. -/
theorem gets_bind
    {read : S → α}
    {next : α → Action ε S β}
    (same : ∀ first second, related first second → read first = read second)
    (rest : ∀ value, Respects related (next value)) :
    Respects related (Rust.gets read >>= next) := by
  intro first second both
  rw [gets_bind_apply, gets_bind_apply, same first second both]
  exact rest _ first second both

theorem attempt
    {action : Action ε S α}
    (respects : Respects related action) :
    Respects related (Rust.attempt action : Action ε' S (Except ε α)) := by
  intro first second both
  obtain ⟨same, after⟩ := respects first second both
  rw [attempt_apply, attempt_apply]
  exact ⟨congrArg Except.ok same, after⟩

theorem mapError
    {convert : ε → ε'}
    {action : Action ε S α}
    (respects : Respects related action) :
    Respects related (Rust.mapError convert action) := by
  intro first second both
  obtain ⟨same, after⟩ := respects first second both
  rw [returned_mapError, returned_mapError, finalState_mapError, finalState_mapError]
  exact ⟨congrArg _ same, after⟩

/-- States that show the same are not told apart by what follows an abstract program. -/
theorem of_gives
    {shows : S → T → Prop}
    {action : Action ε S α}
    {ideal : Action ε T α}
    (gives : ∀ before, Gives shows Escapes.none action before (returned (ideal before))
      (finalState (ideal before))) :
    Respects (fun first second => ∃ shown, shows first shown ∧ shows second shown) action := by
  rintro first second ⟨shown, showsFirst, showsSecond⟩
  obtain ⟨same, after⟩ := (gives shown).of_none showsFirst
  obtain ⟨same', after'⟩ := (gives shown).of_none showsSecond
  exact ⟨same.trans same'.symm, _, after, after'⟩

/-- On a component. -/
theorem field
    {field : Field S' S}
    {related' : S' → S' → Prop}
    {action : Action ε S α}
    (respects : Respects related action)
    (down : ∀ first second, related' first second →
      related (field.get first) (field.get second))
    (up : ∀ first second inner inner', related' first second → related inner inner' →
      related' (field.set inner first) (field.set inner' second)) :
    Respects related' (field.run action) := by
  intro first second both
  obtain ⟨same, after⟩ := respects _ _ (down first second both)
  rw [Field.returned_run, Field.returned_run, Field.finalState_run, Field.finalState_run]
  exact ⟨same, up first second _ _ both after⟩

end Respects

end Rust
