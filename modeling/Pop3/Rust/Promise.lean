import Pop3.Rust.Action

/-!
# Promises

What an action returns meets a condition, whatever state it starts from.
-/

namespace Rust

/-- Whatever the action returns meets the condition. -/
def Promises (promise : α → Prop) (action : Action ε S α) : Prop :=
  ∀ state value, returned (action state) = .ok value → promise value

namespace Promises

variable {promise : α → Prop}

theorem pure {value : α} (meets : promise value) :
    Promises promise (Pure.pure value : Action ε S α) := by
  rintro state _ ⟨⟩
  exact meets

theorem throw (error : ε) :
    Promises promise (MonadExcept.throw error : Action ε S α) := by
  rintro state value ⟨⟩

theorem ofResult
    {result : Except ε α}
    (meets : ∀ value, result = .ok value → promise value) :
    Promises promise (Rust.ofResult result : Action ε S α) := by
  intro state value succeeded
  rw [returned_ofResult] at succeeded
  exact meets value succeeded

/-- Nothing is promised. -/
theorem nothing (action : Action ε S α) : Promises (fun _ => True) action :=
  fun _ _ _ => True.intro

theorem mono
    {weaker : α → Prop}
    {action : Action ε S α}
    (promises : Promises promise action)
    (implies : ∀ value, promise value → weaker value) :
    Promises weaker action :=
  fun state value succeeded => implies value (promises state value succeeded)

/-- What the first action promises, the rest may use. -/
theorem bind
    {promised : β → Prop}
    {action : Action ε S α}
    {next : α → Action ε S β}
    (first : Promises promise action)
    (rest : ∀ value, promise value → Promises promised (next value)) :
    Promises promised (action >>= next) := by
  intro state value succeeded
  cases run : action state with
  | error error middle =>
      rw [bind_of_error run] at succeeded
      cases succeeded
  | ok value' middle =>
      rw [bind_of_ok run] at succeeded
      exact rest value' (first state value' (congrArg returned run)) middle value succeeded

/-- The first action promises nothing that the rest needs. -/
theorem behind
    {promised : β → Prop}
    {action : Action ε S α}
    {next : α → Action ε S β}
    (rest : ∀ value, Promises promised (next value)) :
    Promises promised (action >>= next) :=
  (nothing action).bind fun value _ => rest value

/-- What is made of a result that has been checked. -/
theorem ofResult_bind
    {promised : β → Prop}
    {result : Except ε α}
    {next : α → Action ε S β}
    (rest : ∀ value, result = .ok value → Promises promised (next value)) :
    Promises promised (Rust.ofResult result >>= next) :=
  (ofResult fun _ same => same).bind rest

theorem attempt
    {action : Action ε S α}
    (promises : Promises promise action) :
    Promises (fun result => ∀ value, result = .ok value → promise value)
      (Rust.attempt action : Action ε' S _) := by
  rintro state result succeeded value rfl
  rw [attempt_apply] at succeeded
  exact promises state value (Except.ok.inj succeeded)

theorem field
    (field : Field S T)
    {action : Action ε T α}
    (promises : Promises promise action) :
    Promises promise (field.run action) := by
  intro outer value succeeded
  rw [Field.returned_run] at succeeded
  exact promises _ value succeeded

end Promises

end Rust
