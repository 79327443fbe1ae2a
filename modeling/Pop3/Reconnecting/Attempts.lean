import Pop3.Programs
import Pop3.Reconnect

/-!
# Attempts

Every operation of a reconnecting client is a first attempt on the client it has
and, if that ends in a transient error, a second attempt on a new one.
-/

namespace Pop3

open Rust Pop3Client

/-- The outcome with something made of its value. -/
def Outcome.map (wrap : α → β) : Outcome α → Outcome β
  | fresh value => fresh (wrap value)
  | reconnected value => reconnected (wrap value)

/-- The result is a transient error. -/
def failsTransiently : Except Pop3Error α → Bool
  | .ok _ => false
  | .error error => isRetryable error

/-- The result of a batch is a transient error, or has one among its items. -/
def someFailTransiently : Except Pop3Error (Items α) → Bool
  | .ok items => ReconnectingClient.anyRetryable items
  | .error error => isRetryable error

/-- Some item of a batch has a transient error. -/
def Value.anyRetryable : Value → Bool
  | messages items => ReconnectingClient.anyRetryable items
  | deletions items => ReconnectingClient.anyRetryable items
  | _ => false

/-- What a call has returned warrants a reconnect. -/
def warrantsReconnect : Except Pop3Error Value → Bool
  | .ok value => value.anyRetryable
  | .error error => isRetryable error

namespace ReconnectingClient

section Operations

variable [Server σ] [Md5]

/-- Perform an operation.  There are none that authenticate or change the stream. -/
def perform : Call → ReconnectingM σ (Outcome Value)
  | .capa => do return (← capa).map .capabilities
  | .stat => do return (← stat).map .stat
  | .list messageId => do return (← list messageId).map .listing
  | .uidl messageId => do return (← uidl messageId).map .uids
  | .retr messageId => do return (← retr messageId).map .message
  | .top messageId lines => do return (← top messageId lines).map .message
  | .dele messageId => do return (← dele messageId).map fun _ => .done
  | .rset => do return (← rset).map fun _ => .done
  | .noop => do return (← noop).map fun _ => .done
  | .retrMany ids => do return (← retrMany ids).map .messages
  | .deleMany ids => do return (← deleMany ids).map .deletions
  | .unseenUids seen => do return (← unseenUids seen).map .uids
  | .fetchUnseen seen => do return (← fetchUnseen seen).map .fetched
  | .pruneSeen seen => do return (← pruneSeen seen).map fun pruned => .pruned pruned.1 pruned.2
  | .stls _ | .login _ _ | .apop _ _ => throw .notAuthenticated

/-- The client after a sequence of operations, whatever they returned. -/
def performAll (calls : List Call) (reconnecting : ReconnectingClient σ) :
    ReconnectingClient σ :=
  calls.foldl (fun reconnecting call => finalState (perform call reconnecting)) reconnecting

/-- The client after the first attempt at a call. -/
def attempted (call : Call) (reconnecting : ReconnectingClient σ) : ReconnectingClient σ :=
  { reconnecting with client := finalState (call.run reconnecting.client) }

/-- What the first attempt at a call returns. -/
def firstResult (call : Call) (reconnecting : ReconnectingClient σ) : Except Pop3Error Value :=
  returned (call.run reconnecting.client)

/-- The second attempt wraps what it returns. -/
theorem again_bind_pure
    (operation : ClientM σ α)
    (wrap : α → β) :
    (do return (← again operation).map wrap : ReconnectingM σ (Outcome β)) =
      again (do return wrap (← operation)) := by
  simp only [again, bind_assoc, Field.run_bind, Field.run_pure, pure_bind]
  rfl

/-- Attempt an operation, and repeat it on a new connection if what it has returned
warrants that. -/
def attempting (warrants : Except Pop3Error α → Bool) (operation : ClientM σ α) :
    ReconnectingM σ (Outcome α) := fun reconnecting =>
  let first := operation reconnecting.client
  let after := { reconnecting with client := finalState first }
  if warrants (returned first) then again operation after
  else ofResult ((returned first).map .fresh) after

section Attempting

variable {warrants : Except Pop3Error α → Bool} {operation : ClientM σ α}
  {reconnecting : ReconnectingClient σ}

theorem attempting_of_warranted
    (warranted : warrants (returned (operation reconnecting.client)) = true) :
    attempting warrants operation reconnecting =
      again operation
        { reconnecting with client := finalState (operation reconnecting.client) } :=
  if_pos warranted

theorem attempting_of_not_warranted
    (unwarranted : warrants (returned (operation reconnecting.client)) = false) :
    attempting warrants operation reconnecting =
      ofResult ((returned (operation reconnecting.client)).map .fresh)
        { reconnecting with client := finalState (operation reconnecting.client) } :=
  if_neg (Bool.eq_false_iff.mp unwarranted)

end Attempting

/-- Some errors warrant a reconnect. -/
theorem withReconnect_eq (operation : ClientM σ α) :
    withReconnect operation = attempting failsTransiently operation := by
  funext reconnecting
  rw [withReconnect, bind_of_ok (attempt_apply _ _), Field.returned_run, Field.finalState_run]
  dsimp only [clientField]
  cases result : returned (operation reconnecting.client) with
  | ok value =>
      rw [attempting_of_not_warranted (by rw [result, failsTransiently]), result]
      rfl
  | error error =>
      dsimp only
      by_cases retryable : isRetryable error = true
      · rw [attempting_of_warranted (by rw [result, failsTransiently, retryable]),
          if_pos retryable]
      · rw [attempting_of_not_warranted (by simpa [result, failsTransiently] using retryable),
          if_neg retryable, result]
        rfl

/-- For a batch, so do the errors of its items. -/
theorem withReconnectMany_eq (operation : ClientM σ (Items α)) :
    withReconnectMany operation = attempting someFailTransiently operation := by
  funext reconnecting
  rw [withReconnectMany, bind_of_ok (attempt_apply _ _), Field.returned_run,
    Field.finalState_run]
  dsimp only [clientField]
  cases result : returned (operation reconnecting.client) with
  | ok items =>
      dsimp only
      by_cases retryable : anyRetryable items = true
      · rw [attempting_of_warranted (by rw [result, someFailTransiently, retryable]),
          if_pos retryable]
      · rw [attempting_of_not_warranted (by simpa [result, someFailTransiently] using retryable),
          if_neg retryable, result]
        rfl
  | error error =>
      dsimp only
      by_cases retryable : isRetryable error = true
      · rw [attempting_of_warranted (by rw [result, someFailTransiently, retryable]),
          if_pos retryable]
      · rw [attempting_of_not_warranted (by simpa [result, someFailTransiently] using retryable),
          if_neg retryable, result]
        rfl

/-- Both attempts wrap what they return. -/
theorem attempting_bind_pure
    {warrants : Except Pop3Error α → Bool}
    {warrantsWrapped : Except Pop3Error β → Bool}
    {wrap : α → β}
    (same : ∀ result, warrantsWrapped (result.map wrap) = warrants result)
    (operation : ClientM σ α) :
    (do return (← attempting warrants operation).map wrap : ReconnectingM σ (Outcome β)) =
      attempting warrantsWrapped (do return wrap (← operation)) := by
  funext reconnecting
  have wrapped := (same (returned (operation reconnecting.client))).symm
  rw [← returned_bind_pure] at wrapped
  cases warranted : warrants (returned (operation reconnecting.client)) with
  | true =>
      have first := attempting_of_warranted warranted
      rw [warranted] at wrapped
      rw [attempting_of_warranted wrapped.symm, finalState_bind_pure, ← again_bind_pure]
      cases run : again operation
          { reconnecting with client := finalState (operation reconnecting.client) } with
      | ok outcome last => rw [bind_of_ok (first.trans run), bind_of_ok run]
      | error error last => rw [bind_of_error (first.trans run), bind_of_error run]
  | false =>
      have first := attempting_of_not_warranted warranted
      rw [warranted] at wrapped
      rw [attempting_of_not_warranted wrapped.symm, finalState_bind_pure, returned_bind_pure]
      cases result : returned (operation reconnecting.client) with
      | ok value =>
          rw [result] at first
          rw [bind_of_ok first]
          rfl
      | error error =>
          rw [result] at first
          rw [bind_of_error first]
          rfl

/-- An operation without a batch. -/
theorem withReconnect_bind_pure
    {wrap : α → Value}
    (single : ∀ value, (wrap value).anyRetryable = false)
    (operation : ClientM σ α) :
    (do return (← withReconnect operation).map wrap : ReconnectingM σ (Outcome Value)) =
      attempting warrantsReconnect (do return wrap (← operation)) := by
  rw [withReconnect_eq]
  refine attempting_bind_pure (fun result => ?_) operation
  cases result with
  | ok value => exact single value
  | error error => rfl

/-- A batch. -/
theorem withReconnectMany_bind_pure
    {wrap : Items α → Value}
    (batch : ∀ items, (wrap items).anyRetryable = anyRetryable items)
    (operation : ClientM σ (Items α)) :
    (do return (← withReconnectMany operation).map wrap : ReconnectingM σ (Outcome Value)) =
      attempting warrantsReconnect (do return wrap (← operation)) := by
  rw [withReconnectMany_eq]
  refine attempting_bind_pure (fun result => ?_) operation
  cases result with
  | ok items => exact batch items
  | error error => rfl

/-- What an operation does: its call is attempted, and repeated on a new connection
exactly if what it has returned warrants that. -/
theorem perform_eq
    {call : Call}
    (command : call.isCommand = true) :
    (perform call : ReconnectingM σ (Outcome Value)) =
      attempting warrantsReconnect call.run := by
  cases call with
  | retrMany ids => exact withReconnectMany_bind_pure (fun _ => rfl) _
  | deleMany ids => exact withReconnectMany_bind_pure (fun _ => rfl) _
  | stls _ => cases command
  | login _ _ => cases command
  | apop _ _ => cases command
  | capa => exact withReconnect_bind_pure (fun _ => rfl) _
  | stat => exact withReconnect_bind_pure (fun _ => rfl) _
  | list messageId => exact withReconnect_bind_pure (fun _ => rfl) _
  | uidl messageId => exact withReconnect_bind_pure (fun _ => rfl) _
  | retr messageId => exact withReconnect_bind_pure (fun _ => rfl) _
  | top messageId lines => exact withReconnect_bind_pure (fun _ => rfl) _
  | dele messageId => exact withReconnect_bind_pure (fun _ => rfl) _
  | rset => exact withReconnect_bind_pure (fun _ => rfl) _
  | noop => exact withReconnect_bind_pure (fun _ => rfl) _
  | unseenUids seen => exact withReconnect_bind_pure (fun _ => rfl) _
  | fetchUnseen seen => exact withReconnect_bind_pure (fun _ => rfl) _
  | pruneSeen seen => exact withReconnect_bind_pure (fun _ => rfl) _

end Operations

/-! ## Reconnecting -/

section Reconnects

variable [Server σ] [Md5]

/-- More connections have been dialed, and the settings are as they were. -/
structure Redialed (before after : ReconnectingClientBuilder σ) : Prop where
  builder : after.builder = before.builder
  maxRetries : after.maxRetries = before.maxRetries
  dials : after.dials = before.dials
  dialed : before.dialed < after.dialed

/-- However often connecting is repeated, that is all that changes. -/
theorem redialed_retry
    (username password : Str)
    (retries attempts : Nat)
    (settings : ReconnectingClientBuilder σ) :
    Redialed settings (finalState
      (ReconnectingClientBuilder.retry username password retries attempts settings)) := by
  have once : ∀ onReconnect, Redialed settings
      { settings with dialed := settings.dialed + 1, onReconnect } :=
    fun _ => ⟨rfl, rfl, rfl, Nat.lt_succ_self _⟩
  induction retries generalizing attempts settings with
  | zero =>
      unfold ReconnectingClientBuilder.retry
      dsimp only
      split <;> exact once _
  | succ retries inductionHypothesis =>
      unfold ReconnectingClientBuilder.retry
      dsimp only
      split
      · exact once _
      · split
        · rename_i error _ _
          have more := inductionHypothesis (attempts + 1)
            { settings with
              dialed := settings.dialed + 1
              onReconnect := settings.onReconnect ++ [(attempts + 1, error)] }
            fun _ => ⟨rfl, rfl, rfl, Nat.lt_succ_self _⟩
          exact
            { builder := more.builder
              maxRetries := more.maxRetries
              dials := more.dials
              dialed := Nat.lt_of_succ_lt more.dialed }
        · exact once _

/-- The client that repeated connecting comes to has connected and authenticated on one
of the connections it has dialed. -/
theorem exists_dial_of_retry
    {username password : Str}
    {retries attempts : Nat}
    {settings after : ReconnectingClientBuilder σ}
    {client : Pop3Client σ}
    (connected : ReconnectingClientBuilder.retry username password retries attempts settings =
      .ok client after) :
    ∃ number, settings.dialed ≤ number ∧ number < after.dialed ∧
      connectAndAuth settings.builder username password (settings.dials number) = .ok client := by
  induction retries generalizing attempts settings with
  | zero =>
      unfold ReconnectingClientBuilder.retry at connected
      dsimp only at connected
      split at connected
      · rename_i found
        cases connected
        exact ⟨settings.dialed, Nat.le_refl _, Nat.lt_succ_self _, found⟩
      · cases connected
  | succ retries inductionHypothesis =>
      unfold ReconnectingClientBuilder.retry at connected
      dsimp only at connected
      split at connected
      · rename_i found
        cases connected
        exact ⟨settings.dialed, Nat.le_refl _, Nat.lt_succ_self _, found⟩
      · split at connected
        · obtain ⟨number, later, bound, found⟩ := inductionHypothesis connected
          exact ⟨number, Nat.le_of_succ_le later, bound, found⟩
        · cases connected

/-- The attempts to connect anew. -/
def dialing (reconnecting : ReconnectingClient σ) :
    EStateM.Result Pop3Error (ReconnectingClientBuilder σ) (Pop3Client σ) :=
  ReconnectingClientBuilder.retry reconnecting.username reconnecting.password
    reconnecting.maxRetries 0 reconnecting.toReconnectingClientBuilder

/-- Without a new connection, the client that is there stays. -/
theorem doReconnect_of_error
    {reconnecting : ReconnectingClient σ}
    {error : Pop3Error}
    {settings : ReconnectingClientBuilder σ}
    (refused : reconnecting.dialing = .error error settings) :
    doReconnect reconnecting =
      .error error { reconnecting with toReconnectingClientBuilder := settings } := by
  have retried : builderField.run (ReconnectingClientBuilder.retry reconnecting.username
      reconnecting.password reconnecting.maxRetries 0) reconnecting = .error error _ :=
    Field.run_of_error refused
  rw [doReconnect, gets_bind_apply, gets_bind_apply, gets_bind_apply, bind_of_error retried]
  rfl

/-- A new connection takes the place of the one that is there. -/
theorem doReconnect_of_ok
    {reconnecting : ReconnectingClient σ}
    {client : Pop3Client σ}
    {settings : ReconnectingClientBuilder σ}
    (connected : reconnecting.dialing = .ok client settings) :
    doReconnect reconnecting =
      .ok () { reconnecting with toReconnectingClientBuilder := settings, client } := by
  have retried : builderField.run (ReconnectingClientBuilder.retry reconnecting.username
      reconnecting.password reconnecting.maxRetries 0) reconnecting = .ok client _ :=
    Field.run_of_ok connected
  rw [doReconnect, gets_bind_apply, gets_bind_apply, gets_bind_apply, bind_of_ok retried]
  rfl

/-- Without a new connection, nothing is repeated. -/
theorem again_of_error
    {reconnecting : ReconnectingClient σ}
    {error : Pop3Error}
    {settings : ReconnectingClientBuilder σ}
    (refused : reconnecting.dialing = .error error settings)
    (operation : ClientM σ α) :
    again operation reconnecting =
      .error error { reconnecting with toReconnectingClientBuilder := settings } := by
  rw [again, bind_of_error (doReconnect_of_error refused)]

/-- On a new connection, the operation is repeated. -/
theorem again_of_ok
    {reconnecting : ReconnectingClient σ}
    {client : Pop3Client σ}
    {settings : ReconnectingClientBuilder σ}
    (connected : reconnecting.dialing = .ok client settings)
    (operation : ClientM σ α) :
    again operation reconnecting =
      ofResult ((returned (operation client)).map .reconnected)
        { reconnecting with
          toReconnectingClientBuilder := settings
          client := finalState (operation client) } := by
  rw [again, bind_of_ok (doReconnect_of_ok connected)]
  cases run : operation client with
  | ok value last =>
      have repeated : clientField.run operation
          { reconnecting with toReconnectingClientBuilder := settings, client } =
            .ok value { reconnecting with
              toReconnectingClientBuilder := settings, client := last } :=
        Field.run_of_ok run
      rw [bind_of_ok repeated]
      rfl
  | error error last =>
      have repeated : clientField.run operation
          { reconnecting with toReconnectingClientBuilder := settings, client } =
            .error error { reconnecting with
              toReconnectingClientBuilder := settings, client := last } :=
        Field.run_of_error run
      rw [bind_of_error repeated]
      rfl

/-- The three ways an operation goes. -/
inductive Performs (call : Call) (reconnecting : ReconnectingClient σ) :
    EStateM.Result Pop3Error (ReconnectingClient σ) (Outcome Value) → Prop
  /-- The first attempt decides. -/
  | stays :
      warrantsReconnect (firstResult call reconnecting) = false →
      Performs call reconnecting
        (ofResult ((firstResult call reconnecting).map .fresh) (attempted call reconnecting))
  /-- There is no new connection. -/
  | refused {error : Pop3Error} {settings : ReconnectingClientBuilder σ} :
      warrantsReconnect (firstResult call reconnecting) = true →
      (attempted call reconnecting).dialing = .error error settings →
      Performs call reconnecting
        (.error error
          { attempted call reconnecting with toReconnectingClientBuilder := settings })
  /-- The second attempt decides. -/
  | renewed {client : Pop3Client σ} {settings : ReconnectingClientBuilder σ} :
      warrantsReconnect (firstResult call reconnecting) = true →
      (attempted call reconnecting).dialing = .ok client settings →
      Performs call reconnecting
        (ofResult ((returned (call.run client)).map .reconnected)
          { attempted call reconnecting with
            toReconnectingClientBuilder := settings
            client := finalState (call.run client) })

/-- Every operation goes one of the three ways. -/
theorem performs
    {call : Call}
    (command : call.isCommand = true)
    (reconnecting : ReconnectingClient σ) :
    Performs call reconnecting (perform call reconnecting) := by
  rw [perform_eq command]
  cases warranted : warrantsReconnect (firstResult call reconnecting) with
  | false =>
      rw [attempting_of_not_warranted warranted]
      exact .stays warranted
  | true =>
      rw [attempting_of_warranted warranted]
      change Performs call reconnecting (again call.run (attempted call reconnecting))
      cases dialed : (attempted call reconnecting).dialing with
      | ok client settings =>
          rw [again_of_ok dialed]
          exact .renewed warranted dialed
      | error error settings =>
          rw [again_of_error dialed]
          exact .refused warranted dialed

section Performing

variable {call : Call} {reconnecting : ReconnectingClient σ}

/-- Without cause, the first attempt is all there is. -/
theorem perform_of_not_warranted
    (command : call.isCommand = true)
    (unwarranted : warrantsReconnect (firstResult call reconnecting) = false) :
    perform call reconnecting =
      ofResult ((firstResult call reconnecting).map .fresh) (attempted call reconnecting) := by
  rw [perform_eq command]
  exact attempting_of_not_warranted unwarranted

/-- With cause, another connection is dialed. -/
theorem dialed_lt_of_warranted
    (command : call.isCommand = true)
    (warranted : warrantsReconnect (firstResult call reconnecting) = true) :
    reconnecting.dialed < (finalState (perform call reconnecting)).dialed := by
  have redialed : Redialed reconnecting.toReconnectingClientBuilder
      (finalState (attempted call reconnecting).dialing) :=
    redialed_retry _ _ _ _ _
  have way := performs command reconnecting
  generalize perform call reconnecting = result at way
  cases way with
  | stays unwarranted =>
      rw [warranted] at unwarranted
      cases unwarranted
  | refused _ refused =>
      rw [refused] at redialed
      exact redialed.dialed
  | renewed _ connected =>
      rw [connected] at redialed
      rw [finalState_ofResult]
      exact redialed.dialed

end Performing

end Reconnects

end ReconnectingClient

end Pop3
