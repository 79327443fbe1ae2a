import Pop3.Reconnecting.Callback

/-!
# What reconnecting costs

A reconnecting client is its inner client until the first transient error.  From then on it
dials as often as its settings allow, and no dial goes unaccounted for.
-/

namespace Pop3

open Rust Pop3Client

/-- Extract the inner value, discarding whether a reconnect occurred. -/
def Outcome.intoInner : Outcome α → α
  | fresh value => value
  | reconnected value => value

/-- The outcome represents a reconnect. -/
def Outcome.isReconnected : Outcome α → Bool
  | fresh _ => false
  | reconnected _ => true

/-- The operation has returned from a new connection. -/
def returnsReconnected (result : Except Pop3Error (Outcome α)) : Bool :=
  result.toOption.any Outcome.isReconnected

namespace ReconnectingClient

section Economy

variable [Server σ] [Md5]

/-- What each of a sequence of operations returns, and the client after it. -/
def runs : List Call → ReconnectingClient σ →
    List (Except Pop3Error (Outcome Value) × ReconnectingClient σ)
  | [], _ => []
  | call :: calls, reconnecting =>
      let result := perform call reconnecting
      (returned result, finalState result) :: runs calls (finalState result)

/-- The operations of a run whose first attempt warrants a reconnect. -/
def transients : List Call → ReconnectingClient σ → Nat
  | [], _ => 0
  | call :: calls, reconnecting =>
      (if warrantsReconnect (firstResult call reconnecting) then 1 else 0) +
        transients calls (finalState (perform call reconnecting))

variable {call : Call} {reconnecting : ReconnectingClient σ}

/-! ## Before the first transient error -/

/-- Without cause to reconnect, an operation is that of the inner client. -/
theorem finalState_perform_of_not_warranted
    (command : call.isCommand = true)
    (unwarranted : warrantsReconnect (firstResult call reconnecting) = false) :
    returned (perform call reconnecting) =
        (returned (call.run reconnecting.client)).map .fresh ∧
      finalState (perform call reconnecting) =
        { reconnecting with client := finalState (call.run reconnecting.client) } := by
  rw [perform_of_not_warranted command unwarranted, returned_ofResult, finalState_ofResult]
  exact ⟨rfl, rfl⟩

/-- With cause to reconnect, no outcome is fresh. -/
theorem isReconnected_of_warranted
    (command : call.isCommand = true)
    (warranted : warrantsReconnect (firstResult call reconnecting) = true)
    {outcome : Outcome Value}
    (succeeds : returned (perform call reconnecting) = .ok outcome) :
    outcome.isReconnected = true := by
  have way := performs command reconnecting
  generalize perform call reconnecting = result at way succeeds
  cases way with
  | stays unwarranted =>
      rw [warranted] at unwarranted
      cases unwarranted
  | refused => cases succeeds
  | @renewed client =>
      rw [returned_ofResult] at succeeds
      cases run : returned (call.run client) with
      | error error =>
          rw [run] at succeeds
          cases succeeds
      | ok value =>
          rw [run] at succeeds
          cases succeeds
          rfl

theorem runs_of_not_warranted
    {calls : List Call}
    (commands : ∀ call ∈ calls, call.isCommand = true)
    (unwarranted : ∀ outcome ∈ Call.runs calls reconnecting.client,
      warrantsReconnect outcome.1 = false) :
    runs calls reconnecting = (Call.runs calls reconnecting.client).map (fun outcome =>
        (outcome.1.map .fresh, { reconnecting with client := outcome.2 })) ∧
      performAll calls reconnecting =
        { reconnecting with client := Call.runAll calls reconnecting.client } := by
  induction calls generalizing reconnecting with
  | nil => exact ⟨rfl, rfl⟩
  | cons call calls inductionHypothesis =>
      obtain ⟨command, rest⟩ := List.forall_mem_cons.mp commands
      obtain ⟨first, others⟩ := List.forall_mem_cons.mp unwarranted
      obtain ⟨same, after⟩ := finalState_perform_of_not_warranted command first
      obtain ⟨sameRest, afterRest⟩ := @inductionHypothesis
        { reconnecting with client := finalState (call.run reconnecting.client) } rest others
      constructor
      · simp only [runs, Call.runs, List.map_cons, same, after, sameRest]
      · change performAll calls (finalState (perform call reconnecting)) = _
        rw [after, afterRest]
        rfl

/-- Until an operation of the inner client fails transiently, a reconnecting client returns
what its inner client returns, as fresh, and changes as its inner client changes.  The first
operation that fails transiently is also the first that may return from another connection,
and it does not return a fresh outcome. -/
theorem isPlain_until_transient
    {calls before after : List Call}
    (commands : ∀ call ∈ calls, call.isCommand = true)
    (split : calls = before ++ call :: after)
    (unwarranted : ∀ outcome ∈ Call.runs before reconnecting.client,
      warrantsReconnect outcome.1 = false) :
    runs before reconnecting = (Call.runs before reconnecting.client).map (fun outcome =>
        (outcome.1.map .fresh, { reconnecting with client := outcome.2 })) ∧
      (let next := call.run (Call.runAll before reconnecting.client)
      let performed := perform call (performAll before reconnecting)
      if warrantsReconnect (returned next) then
        ∀ outcome, returned performed = .ok outcome → outcome.isReconnected = true
      else
        returned performed = (returned next).map .fresh ∧
          finalState performed = { reconnecting with client := finalState next }) := by
  subst split
  have commandsBefore : ∀ other ∈ before, other.isCommand = true := fun other member =>
    commands other (List.mem_append_left _ member)
  have command : call.isCommand = true := commands call (by simp)
  obtain ⟨same, reached⟩ := runs_of_not_warranted commandsBefore unwarranted
  refine ⟨same, ?_⟩
  dsimp only
  rw [reached]
  split
  case isTrue warranted =>
    intro outcome succeeds
    refine isReconnected_of_warranted command ?_ succeeds
    exact warranted
  case isFalse not =>
    exact finalState_perform_of_not_warranted command (Bool.eq_false_iff.mpr not)

/-! ## After it -/

/-- From one state of the settings to another, so many reconnects have been begun, and the
callback has been told so much: each connection that is dialed for a reconnect is its last, or
the callback is told of it. -/
structure Spends (before after : ReconnectingClientBuilder σ) (transients : Nat)
    (notices : List (Nat × Pop3Error)) : Prop where
  builder : after.builder = before.builder
  maxRetries : after.maxRetries = before.maxRetries
  onReconnect : after.onReconnect = before.onReconnect ++ notices
  dialed : after.dialed = before.dialed + transients + notices.length
  bounded : notices.length ≤ transients * before.maxRetries

omit [Server σ] [Md5] in
theorem Spends.refl (settings : ReconnectingClientBuilder σ) : Spends settings settings 0 [] where
  builder := rfl
  maxRetries := rfl
  onReconnect := (List.append_nil _).symm
  dialed := rfl
  bounded := Nat.zero_le _

omit [Server σ] [Md5] in
theorem Spends.trans
    {before middle after : ReconnectingClientBuilder σ}
    {first second : Nat}
    {notices others : List (Nat × Pop3Error)}
    (spends : Spends before middle first notices)
    (goesOn : Spends middle after second others) :
    Spends before after (first + second) (notices ++ others) where
  builder := goesOn.builder.trans spends.builder
  maxRetries := goesOn.maxRetries.trans spends.maxRetries
  onReconnect := by
    rw [goesOn.onReconnect, spends.onReconnect, List.append_assoc]
  dialed := by
    rw [goesOn.dialed, spends.dialed, List.length_append]
    omega
  bounded := by
    have left := spends.bounded
    have right := goesOn.bounded
    rw [spends.maxRetries] at right
    rw [List.length_append, Nat.add_mul]
    omega

/-- One operation. -/
theorem spends_perform (command : call.isCommand = true) :
    ∃ notices, Spends reconnecting.toReconnectingClientBuilder
      (finalState (perform call reconnecting)).toReconnectingClientBuilder
      (if warrantsReconnect (firstResult call reconnecting) then 1 else 0) notices := by
  cases warranted : warrantsReconnect (firstResult call reconnecting) with
  | false =>
      rw [settings_of_not_warranted command warranted]
      exact ⟨[], .refl _⟩
  | true =>
      have numbered := ReconnectingClientBuilder.numbers_notices reconnecting.builder
        reconnecting.username reconnecting.password reconnecting.dials reconnecting.maxRetries
        reconnecting.dialed 0
      have counted := congrArg List.length numbered
      rw [List.length_map, List.length_range'] at counted
      have positive := List.length_pos_iff.mpr (ReconnectingClientBuilder.tries_ne_nil
        reconnecting.builder reconnecting.username reconnecting.password reconnecting.dials
        reconnecting.maxRetries reconnecting.dialed)
      have atMost := ReconnectingClientBuilder.length_tries_le reconnecting.builder
        reconnecting.username reconnecting.password reconnecting.dials reconnecting.maxRetries
        reconnecting.dialed
      refine ⟨ReconnectingClientBuilder.notices 0 reconnecting.tries, ?_⟩
      rw [settings_of_warranted command warranted]
      refine ⟨rfl, rfl, rfl, ?_, ?_⟩
      · dsimp only
        unfold tries
        rw [counted, if_pos rfl]
        omega
      · unfold tries
        rw [counted, if_pos rfl, Nat.one_mul]
        exact Nat.sub_le_of_le_add atMost

/-- An operation returns from a new connection only after its first attempt has failed
transiently. -/
theorem warranted_of_returnsReconnected
    (command : call.isCommand = true)
    (renewed : returnsReconnected (returned (perform call reconnecting)) = true) :
    warrantsReconnect (firstResult call reconnecting) = true := by
  rw [← Bool.not_eq_false]
  intro unwarranted
  rw [(finalState_perform_of_not_warranted command unwarranted).1] at renewed
  cases run : returned (call.run reconnecting.client) <;> rw [run] at renewed <;> cases renewed

/-- In every run, each connection that is dialed is accounted for: it is the last one of an
operation whose first attempt has failed transiently, or the callback has been told of it; of
the latter there are at most `maxRetries` for each of the former.  No more operations than
these return from a new connection. -/
theorem accounts_for_dials
    {calls : List Call}
    (commands : ∀ call ∈ calls, call.isCommand = true) :
    (∃ notices, Spends reconnecting.toReconnectingClientBuilder
      (performAll calls reconnecting).toReconnectingClientBuilder
      (transients calls reconnecting) notices) ∧
    (runs calls reconnecting).countP (fun outcome => returnsReconnected outcome.1) ≤
      transients calls reconnecting := by
  induction calls generalizing reconnecting with
  | nil => exact ⟨⟨[], .refl _⟩, Nat.le_refl _⟩
  | cons call calls inductionHypothesis =>
      obtain ⟨command, rest⟩ := List.forall_mem_cons.mp commands
      obtain ⟨notices, spends⟩ := @spends_perform _ _ _ call reconnecting command
      obtain ⟨⟨others, goesOn⟩, atMost⟩ :=
        @inductionHypothesis (finalState (perform call reconnecting)) rest
      refine ⟨⟨notices ++ others, spends.trans goesOn⟩, ?_⟩
      rw [runs, List.countP_cons, transients]
      have first : (if returnsReconnected (returned (perform call reconnecting)) then 1 else 0) ≤
          if warrantsReconnect (firstResult call reconnecting) then 1 else 0 := by
        cases renewed : returnsReconnected (returned (perform call reconnecting)) with
        | false => exact Nat.zero_le _
        | true => rw [warranted_of_returnsReconnected command renewed]
      dsimp only at first ⊢
      omega

end Economy

end ReconnectingClient

/-- A client whose connection falls silent after one reply. -/
def Obliging.fallingSilent (server : Obliging) : ReconnectingClient Obliging :=
  { server.reconnecting with client := .idle server [.arrive 99, .deadline] false }

/-- One operation of the inner client, and one that reconnects. -/
theorem isPlain_until_transient_fallingSilent :
    let _ := emptyDigest
    let reconnecting := Obliging.fallingSilent ⟨[]⟩
    reconnecting.runs [.noop] = (Call.runs [.noop] reconnecting.client).map (fun outcome =>
        (outcome.1.map .fresh, { reconnecting with client := outcome.2 })) ∧
      (let next := Call.run .rset (Call.runAll [.noop] reconnecting.client)
      let performed := ReconnectingClient.perform .rset (reconnecting.performAll [.noop])
      if warrantsReconnect (returned next) then
        ∀ outcome, returned performed = .ok outcome → outcome.isReconnected = true
      else
        returned performed = (returned next).map .fresh ∧
          finalState performed = { reconnecting with client := finalState next }) := by
  let _ := emptyDigest
  have split : [Call.noop, .rset] = [.noop] ++ .rset :: [] := rfl
  exact ReconnectingClient.isPlain_until_transient (by simp [Call.isCommand]) split
    (by decide +kernel)

/-- A run with one reconnect. -/
theorem accounts_for_dials_fallingSilent :
    let _ := emptyDigest
    let reconnecting := Obliging.fallingSilent ⟨[]⟩
    (∃ notices, ReconnectingClient.Spends reconnecting.toReconnectingClientBuilder
      (reconnecting.performAll [.noop, .rset]).toReconnectingClientBuilder
      (reconnecting.transients [.noop, .rset]) notices) ∧
    (reconnecting.runs [.noop, .rset]).countP (fun outcome =>
      returnsReconnected outcome.1) ≤ reconnecting.transients [.noop, .rset] :=
  @ReconnectingClient.accounts_for_dials _ _ emptyDigest _ _ (by simp [Call.isCommand])

end Pop3
