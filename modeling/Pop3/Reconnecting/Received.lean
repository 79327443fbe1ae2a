import Pop3.Reconnecting.Transience

/-!
# Messages that a batch has received

A batch that meets a transient error is run again as a whole.  What its first run
has received is lost unless the second run receives it too.
-/

namespace Pop3

open Rust Pop3Client

/-- What an operation returns, on whichever connection. -/
def Outcome.value : Outcome α → α
  | fresh value | reconnected value => value

/-- The result of a batch has this item. -/
def Received (result : Except Pop3Error (Items α)) (index : Nat) : Prop :=
  ∃ items item, result = .ok items ∧ items[index]? = some (.ok item)

theorem not_received_error (error : Pop3Error) (index : Nat) :
    ¬Received (.error error : Except Pop3Error (Items α)) index := by
  rintro ⟨_, _, same, _⟩
  cases same

/-- Both connections hand out the result as it is. -/
theorem value_map
    {wrap : α → Outcome α}
    (same : ∀ value, (wrap value).value = value)
    (result : Except Pop3Error α) :
    (result.map wrap).map Outcome.value = result := by
  cases result with
  | ok value => exact congrArg Except.ok (same value)
  | error error => rfl

section Dialing

variable [Server σ] [Md5]

/-- Without a connection nobody logs in. -/
theorem connectAndAuth_of_refused
    {builder : Pop3ClientBuilder}
    {username password : Str}
    {dial : Dial σ}
    {error : IoError}
    (refused : dial.connects = fun _ _ => .error error)
    (client : Pop3Client σ) :
    connectAndAuth builder username password dial ≠ .ok client := by
  unfold connectAndAuth Pop3ClientBuilder.connect
  rw [refused]
  cases builder.tlsMode with
  | plain | startTls => nofun
  | tls =>
      dsimp only [connectTls, Transport.connectTls]
      cases dial.prepares builder.hostname <;> nofun

/-- Without any connection, reconnecting fails. -/
theorem ReconnectingClient.dialing_of_refused
    {reconnecting : ReconnectingClient σ}
    {error : IoError}
    (refused : ∀ number, (reconnecting.dials number).connects = fun _ _ => .error error) :
    ∃ other settings, reconnecting.dialing = .error other settings := by
  cases dialed : reconnecting.dialing with
  | error other settings => exact ⟨other, settings, rfl⟩
  | ok client settings =>
      obtain ⟨number, _, _, connected⟩ := exists_dial_of_retry dialed
      exact absurd connected (connectAndAuth_of_refused (refused number) client)

end Dialing

namespace ReconnectingClient

section Batches

variable [Server σ] [Md5]

omit [Md5] in
/-- What the first run of the batch returns. -/
def firstRun (ids : List UInt32) (reconnecting : ReconnectingClient σ) :
    Except Pop3Error (Items Message) :=
  returned (Pop3Client.retrMany ids reconnecting.client)

/-- Each message that the first run has received is returned to the caller. -/
def KeepsReceived (ids : List UInt32) (reconnecting : ReconnectingClient σ) : Prop :=
  ∀ index, Received (firstRun ids reconnecting) index →
    Received ((returned (retrMany ids reconnecting)).map Outcome.value) index

/-- The first run is all there is, or it has received nothing. -/
def Settles (ids : List UInt32) (reconnecting : ReconnectingClient σ) : Prop :=
  someFailTransiently (firstRun ids reconnecting) = false ∨
    ∀ index, ¬Received (firstRun ids reconnecting) index

/-- There is a new connection, on which each message that the first run has received is
received again. -/
def ReceivesAgain (ids : List UInt32) (reconnecting : ReconnectingClient σ) : Prop :=
  ∃ client settings, reconnecting.dialing = .ok client settings ∧
    ∀ index, Received (firstRun ids reconnecting) index →
      Received (returned (Pop3Client.retrMany ids client)) index

/-- What a batch returns: the result of its first run, or the error of reconnecting, or the
result of its second run. -/
theorem returned_retrMany
    (ids : List UInt32)
    (reconnecting : ReconnectingClient σ) :
    (returned (retrMany ids reconnecting)).map Outcome.value =
      if someFailTransiently (firstRun ids reconnecting) then
        match reconnecting.dialing with
        | .error error _ => .error error
        | .ok client _ => returned (Pop3Client.retrMany ids client)
      else firstRun ids reconnecting := by
  rw [retrMany, withReconnectMany_eq]
  let after := { reconnecting with
    client := finalState (Pop3Client.retrMany ids reconnecting.client) }
  have sameDialing : after.dialing = reconnecting.dialing := rfl
  cases warranted : someFailTransiently (firstRun ids reconnecting) with
  | false =>
      rw [attempting_of_not_warranted warranted, returned_ofResult]
      exact value_map (fun _ => rfl) _
  | true =>
      rw [attempting_of_warranted warranted, if_pos rfl]
      change (returned (again (Pop3Client.retrMany ids) after)).map Outcome.value = _
      rw [← sameDialing]
      cases dialed : after.dialing with
      | error error settings =>
          rw [again_of_error dialed]
          rfl
      | ok client settings =>
          rw [again_of_ok dialed, returned_ofResult]
          exact value_map (fun _ => rfl) _

/-- Whatever becomes of reconnecting, no received message is lost if and only if the first run
is all there is, or has received nothing.  With the reconnect given, none is lost if and only
if this is so, or everything is received again. -/
theorem keepsReceived_iff
    (ids : List UInt32)
    (reconnecting : ReconnectingClient σ) :
    ((∀ dials, KeepsReceived ids { reconnecting with dials }) ↔ Settles ids reconnecting) ∧
    (KeepsReceived ids reconnecting ↔
      Settles ids reconnecting ∨ ReceivesAgain ids reconnecting) := by
  have settled : ∀ reconnecting : ReconnectingClient σ, Settles ids reconnecting →
      KeepsReceived ids reconnecting := by
    rintro reconnecting (final | nothing) index received
    · rw [returned_retrMany, final]
      exact received
    · exact absurd received (nothing index)
  constructor
  · constructor
    · intro keeps
      by_cases warranted : someFailTransiently (firstRun ids reconnecting) = true
      swap
      · exact .inl (by simpa using warranted)
      refine .inr fun index received => ?_
      let refusing := { reconnecting with
        dials := fun _ => { connects _ _ := .error invalidUtf8 } }
      have kept : Received ((returned (retrMany ids refusing)).map Outcome.value) index :=
        keeps _ index received
      have warranted' : someFailTransiently (firstRun ids refusing) = true := warranted
      obtain ⟨error, settings, refused⟩ : ∃ error settings, refusing.dialing =
        .error error settings := dialing_of_refused fun _ => rfl
      rw [returned_retrMany, refused, if_pos warranted'] at kept
      exact not_received_error error index kept
    · exact fun settles dials => settled { reconnecting with dials } settles
  · constructor
    · intro keeps
      by_contra neither
      obtain ⟨unsettled, notAgain⟩ := not_or.mp neither
      have warranted : someFailTransiently (firstRun ids reconnecting) = true := by
        by_contra final
        exact unsettled (.inl (by simpa using final))
      unfold KeepsReceived at keeps
      rw [returned_retrMany, if_pos warranted] at keeps
      cases dialed : reconnecting.dialing with
      | error error settings =>
          rw [dialed] at keeps
          exact unsettled (.inr fun index received =>
            not_received_error error index (keeps index received))
      | ok client settings =>
          rw [dialed] at keeps
          exact notAgain ⟨client, settings, dialed, keeps⟩
    · rintro (settles | ⟨client, settings, dialed, again⟩)
      · exact settled reconnecting settles
      · intro index received
        rw [returned_retrMany, dialed]
        split
        · exact again index received
        · exact received

end Batches

end ReconnectingClient

/-- A client that receives one message before the server falls silent, and cannot connect
again. -/
def fallenSilent : ReconnectingClient Script where
  builder := { hostname := [] }
  dials _ := { connects _ _ := .error invalidUtf8 }
  username := []
  password := []
  client := .idle ⟨[{ bytes := utf8 "+OK\r\na\r\n.\r\n".toList }]⟩ [.arrive 20, .deadline] false

/-- The first message is received, and lost. -/
theorem exists_message_lost :
    ¬∀ (reconnecting : ReconnectingClient Script) (ids : List UInt32),
      (∀ messageId ∈ ids, messageId ≠ 0) →
        @ReconnectingClient.KeepsReceived _ _ emptyDigest ids reconnecting := by
  intro always
  have first : ReconnectingClient.firstRun [1, 2] fallenSilent =
      .ok [.ok { data := "a\n".toList }, .error .timeout] := by
    decide +kernel
  have kept := always fallenSilent [1, 2] (by simp) 0 ⟨_, _, first, rfl⟩
  have fails : returned (@ReconnectingClient.retrMany _ _ emptyDigest [1, 2] fallenSilent) =
      .error (.io invalidUtf8) := by
    decide +kernel
  rw [fails] at kept
  exact not_received_error _ _ kept

end Pop3
