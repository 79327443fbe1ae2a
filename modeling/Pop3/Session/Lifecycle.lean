import Pop3.Authentication
import Pop3.Mailbox.Model

/-!
# The life of a session

What a caller can ask a client about its session, and how calls change that,
whatever the server sends and whatever the connection does.  A session begins
without authentication, is authenticated by one login at most, and stays so.
-/

namespace Pop3

open Rust Pop3Client

namespace Pop3Client

/-! ## Accessors -/

/-- The connection is currently encrypted. -/
def isEncrypted (client : Pop3Client σ) : Bool := client.transport.encrypted

/-- The connection is known to be closed. -/
def isClosed (client : Pop3Client σ) : Bool := client.transport.isClosed

/-- The server advertised the `PIPELINING` capability. -/
def supportsPipelining (client : Pop3Client σ) : Bool := client.isPipelining

end Pop3Client

/-- The call upgrades the connection. -/
def Call.upgrades : Call → Bool
  | .stls _ => true
  | _ => false

/-! ## Going on with a session -/

/-- The same session: no more has happened to it than that the connection has
been found closed. -/
structure Continues (before after : Pop3Client σ) : Prop where
  greeting : after.greeting = before.greeting
  state : after.state = before.state
  supportsPipelining : after.supportsPipelining = before.supportsPipelining
  isEncrypted : after.isEncrypted = before.isEncrypted
  isClosed : before.isClosed = true → after.isClosed = true

theorem Continues.refl (client : Pop3Client σ) : Continues client client :=
  ⟨rfl, rfl, rfl, rfl, id⟩

theorem Continues.trans
    {first second third : Pop3Client σ}
    (continues : Continues first second)
    (goesOn : Continues second third) :
    Continues first third where
  greeting := goesOn.greeting.trans continues.greeting
  state := goesOn.state.trans continues.state
  supportsPipelining := goesOn.supportsPipelining.trans continues.supportsPipelining
  isEncrypted := goesOn.isEncrypted.trans continues.isEncrypted
  isClosed closed := goesOn.isClosed (continues.isClosed closed)

/-- The session has become authenticated. -/
structure BecomesAuthenticated (before after : Pop3Client σ) : Prop where
  greeting : after.greeting = before.greeting
  was : before.state = .connected
  state : after.state = .authenticated
  isEncrypted : after.isEncrypted = before.isEncrypted
  isClosed : before.isClosed = true → after.isClosed = true

/-- The session goes on over TLS. -/
structure Encrypts (before after : Pop3Client σ) : Prop where
  greeting : after.greeting = before.greeting
  unauthenticated : before.state ≠ .authenticated
  state : after.state = before.state
  supportsPipelining : after.supportsPipelining = before.supportsPipelining
  was : before.isEncrypted = false
  isEncrypted : after.isEncrypted = true
  isClosed : before.isClosed = true → after.isClosed = true

/-- On the transport: the encryption is as it was, and what is known to be closed
stays closed. -/
structure Stands (encrypted closed : Bool) (transport : Transport σ) : Prop where
  encrypted : transport.encrypted = encrypted
  isClosed : closed = true → transport.isClosed = true

theorem survivesSteps_stands [Server σ] (encrypted closed : Bool) :
    SurvivesSteps (Stands encrypted closed : Transport σ → Prop) := by
  refine SurvivesWrites.steps ?_ ?_
  · exact .of_emit (fun _ _ stands => ⟨stands.encrypted, stands.isClosed⟩)
      (fun _ _ stands => ⟨stands.encrypted, stands.isClosed⟩)
      fun _ stands => ⟨stands.encrypted, stands.isClosed⟩
  · intro transport stands
    refine Transport.finalState_afterWait (motive := Stands encrypted closed)
      (fun _ _ waited => ⟨waited.encrypted, waited.isClosed⟩)
      (fun _ _ waited => ⟨waited.encrypted, waited.isClosed⟩)
      (fun _ waited => ⟨waited.encrypted, fun _ => rfl⟩) ?_
    unfold Transport.readUntil
    split
    · exact ⟨stands.encrypted, stands.isClosed⟩
    · split <;> exact ⟨stands.encrypted, stands.isClosed⟩

section Calls

variable [Server σ]

/-- Whatever a program does, the session continues. -/
theorem Program.continues
    {action : ClientM σ α}
    (program : Program True action)
    (client : Pop3Client σ) :
    Continues client (finalState (action client)) := by
  have keeps : Preserves (Continues client) action := by
    refine Built.preserves program fun step primitive => ?_
    have field : ∀ {ε β : Type} (inner : Action ε (Transport σ) β),
        (∀ encrypted closed, Preserves (Stands encrypted closed) inner) →
          Preserves (Continues client) (transportField.run inner) := by
      intro _ _ inner stands middle continues
      rw [Field.finalState_run]
      have after := stands client.isEncrypted client.isClosed middle.transport
        ⟨continues.isEncrypted, continues.isClosed⟩
      exact ⟨continues.greeting, continues.state, continues.supportsPipelining, after.encrypted,
        after.isClosed⟩
    cases primitive with
    | send command => exact field _ fun _ _ => (survivesSteps_stands _ _).send command
    | read => exact field _ fun _ _ => (survivesSteps_stands _ _).read
    | window verb ids =>
        exact .attempt (field _ fun _ _ => (survivesSteps_stands _ _).window verb ids)
    | look read => exact .gets read
  exact keeps client (.refl client)

/-- The client fails and its session continues, or it has authenticated. -/
def LogsIn (client : Pop3Client σ) (result : EStateM.Result Pop3Error (Pop3Client σ) Unit) :
    Prop :=
  (Continues client (finalState result) ∧ ∃ error, returned result = .error error) ∨
    BecomesAuthenticated client (finalState result) ∧ returned result = .ok ()

omit [Server σ] in
theorem logsIn_throw (client : Pop3Client σ) (error : Pop3Error) :
    LogsIn client (.error error client) :=
  .inl ⟨.refl client, error, rfl⟩

omit [Server σ] in
/-- What comes before a login may continue the session. -/
theorem LogsIn.behind
    {client middle : Pop3Client σ}
    {result : EStateM.Result Pop3Error (Pop3Client σ) Unit}
    (continues : Continues client middle)
    (logsIn : LogsIn middle result) :
    LogsIn client result := by
  rcases logsIn with ⟨goesOn, failed⟩ | ⟨authenticates, succeeded⟩
  · exact .inl ⟨continues.trans goesOn, failed⟩
  · exact .inr
      ⟨{ greeting := authenticates.greeting.trans continues.greeting
         was := continues.state ▸ authenticates.was
         state := authenticates.state
         isEncrypted := authenticates.isEncrypted.trans continues.isEncrypted
         isClosed := fun closed => authenticates.isClosed (continues.isClosed closed) },
        succeeded⟩

/-- A command that is sent on the way. -/
theorem LogsIn.send
    {client : Pop3Client σ}
    {command : Str}
    {next : Str → ClientM σ Unit}
    (rest : ∀ text middle, middle.state = client.state → LogsIn middle (next text middle)) :
    LogsIn client ((mapError authError (sendAndCheck command) >>= next) client) := by
  have continues := (@program_sendAndCheck σ _ True command).continues client
  cases run : sendAndCheck command client with
  | ok text middle =>
      rw [run] at continues
      rw [bind_of_ok (mapError_of_ok run)]
      exact .behind continues (rest text middle continues.state)
  | error error middle =>
      rw [run] at continues
      rw [bind_of_error (mapError_of_error run)]
      exact .inl ⟨continues, _, rfl⟩

/-- The probe of the capabilities fails nobody. -/
theorem logsIn_authenticated
    {client : Pop3Client σ}
    (connected : client.state = .connected) :
    LogsIn client (authenticated client) := by
  unfold authenticated
  rw [modify_bind_apply, bind_of_ok (attempt_apply _ _)]
  have continues := (@program_capa σ _ True).continues
    { client with state := .authenticated }
  exact .inr
    ⟨{ greeting := continues.greeting
       was := connected
       state := continues.state
       isEncrypted := continues.isEncrypted
       isClosed := continues.isClosed }, rfl⟩

omit [Server σ] in
/-- The checks before any credentials are sent. -/
theorem logsIn_of_checks
    {username password : Str}
    {next : ClientM σ Unit}
    {client : Pop3Client σ}
    (rest : client.state = .connected → LogsIn client (next client)) :
    LogsIn client ((do
        let state ← gets Pop3Client.state
        ofResult (if state ≠ .connected then .error .notAuthenticated else .ok ())
        ofResult (checkNoCrlf username)
        ofResult (checkNoCrlf password)
        next : ClientM σ Unit) client) := by
  rw [gets_bind_apply]
  by_cases connected : client.state = .connected
  · rw [if_neg (not_not.mpr connected), ofResult_ok_bind]
    cases checkNoCrlf username with
    | error error => exact logsIn_throw client error
    | ok _ =>
        rw [ofResult_ok_bind]
        cases checkNoCrlf password with
        | error error => exact logsIn_throw client error
        | ok _ => exact rest connected
  · rw [if_pos connected]
    exact logsIn_throw client _

theorem logsIn_login (username password : Str) (client : Pop3Client σ) :
    LogsIn client (login username password client) := by
  refine logsIn_of_checks fun connected => ?_
  refine LogsIn.send fun _ middle sameState => ?_
  refine LogsIn.send fun _ last lastState => ?_
  exact logsIn_authenticated (lastState.trans (sameState.trans connected))

theorem logsIn_apop [Md5] (username password : Str) (client : Pop3Client σ) :
    LogsIn client (apop username password client) := by
  refine logsIn_of_checks fun connected => ?_
  rw [gets_bind_apply]
  cases extractApopTimestamp client.greeting with
  | none => exact logsIn_throw client _
  | some timestamp =>
      rw [okOr, ofResult_ok_bind]
      exact LogsIn.send fun _ middle sameState =>
        logsIn_authenticated (sameState.trans connected)

/-- `stls` fails and the session continues, or it goes on over TLS. -/
theorem stls_encrypts (hostname : Str) (client : Pop3Client σ) :
    (Continues client (finalState (stls hostname client)) ∧
        ∃ error, returned (stls hostname client) = .error error) ∨
      Encrypts client (finalState (stls hostname client)) ∧
        returned (stls hostname client) = .ok () := by
  unfold stls
  rw [gets_bind_apply]
  by_cases authenticated : client.state = .authenticated
  · rw [if_pos authenticated]
    exact .inl ⟨.refl client, _, rfl⟩
  rw [if_neg authenticated, ofResult_ok_bind, gets_bind_apply]
  by_cases encrypted : client.transport.encrypted = true
  · rw [if_pos encrypted]
    exact .inl ⟨.refl client, _, rfl⟩
  rw [if_neg encrypted, ofResult_ok_bind]
  have unencrypted := Bool.eq_false_iff.mpr encrypted
  have continues := (@program_sendAndCheck σ _ True "STLS".toList).continues client
  cases run : sendAndCheck "STLS".toList client with
  | error error middle =>
      rw [run] at continues
      rw [bind_of_error run]
      exact .inl ⟨continues, error, rfl⟩
  | ok text middle =>
      rw [run] at continues
      rw [bind_of_ok run, Field.finalState_run, Field.returned_run]
      rcases Transport.upgradeInPlace_cases hostname middle.transport with
        ⟨error, upgrade, _⟩ | ⟨error, upgrade, _⟩ | ⟨upgrade, _, _⟩
      · refine .inl ⟨?_, error, congrArg returned upgrade⟩
        exact congrArg (fun ended => transportField.set (finalState ended) middle) upgrade ▸
          continues
      · refine .inl ⟨?_, error, congrArg returned upgrade⟩
        exact congrArg (fun ended => transportField.set (finalState ended) middle) upgrade ▸
          ⟨continues.greeting, continues.state, continues.supportsPipelining,
            continues.isEncrypted, continues.isClosed⟩
      · refine .inr ⟨?_, congrArg returned upgrade⟩
        exact congrArg (fun ended => transportField.set (finalState ended) middle) upgrade ▸
          { greeting := continues.greeting
            unauthenticated := authenticated
            state := continues.state
            supportsPipelining := continues.supportsPipelining
            was := unencrypted
            isEncrypted := rfl
            isClosed := continues.isClosed }

variable [Md5]

/-- How a call may change the session: not at all, by a login that succeeds, or by an
upgrade that succeeds. -/
inductive Moves (call : Call) (before after : Pop3Client σ) (result : Except Pop3Error Value) :
    Prop
  | continues :
      Continues before after → (call.isCommand = false → ∃ error, result = .error error) →
      Moves call before after result
  | authenticates :
      call.logsIn = true → BecomesAuthenticated before after → result = .ok .done →
      Moves call before after result
  | encrypts :
      call.isCommand = false → call.logsIn = false → Encrypts before after → result = .ok .done →
      Moves call before after result

omit [Server σ] [Md5] in
theorem LogsIn.moves
    {call : Call}
    (logsIn : call.logsIn = true)
    {client : Pop3Client σ}
    {action : ClientM σ Unit}
    (goes : LogsIn client (action client)) :
    Moves call client (finalState ((do action; return Value.done : ClientM σ Value) client))
      (returned ((do action; return Value.done : ClientM σ Value) client)) := by
  rw [finalState_bind_pure action fun _ => Value.done,
    returned_bind_pure action fun _ => Value.done]
  rcases goes with ⟨continues, error, failed⟩ | ⟨authenticates, succeeded⟩
  · exact .continues continues fun _ => ⟨error, by rw [failed]; rfl⟩
  · exact .authenticates logsIn authenticates (by rw [succeeded]; rfl)

/-- Every call moves the session in one of these ways, or not at all. -/
theorem Call.moves (call : Call) (client : Pop3Client σ) :
    Moves call client (finalState (call.run client)) (returned (call.run client)) := by
  by_cases command : call.isCommand = true
  · refine .continues ((call.program_run command).continues client) fun other => ?_
    rw [command] at other
    cases other
  · cases call with
    | login username password => exact (logsIn_login username password client).moves rfl
    | apop username password => exact (logsIn_apop username password client).moves rfl
    | stls hostname =>
        rw [Call.run, finalState_bind_pure (Pop3Client.stls hostname) fun _ => Value.done,
          returned_bind_pure (Pop3Client.stls hostname) fun _ => Value.done]
        rcases stls_encrypts hostname client with
          ⟨continues, error, failed⟩ | ⟨encrypts, succeeded⟩
        · exact .continues continues fun _ => ⟨error, by rw [failed]; rfl⟩
        · exact .encrypts rfl rfl encrypts (by rw [succeeded]; rfl)
    | _ => exact absurd rfl command

/-! ## Refusals -/

omit [Server σ] [Md5] in
/-- The check of the session's state fails before authentication. -/
theorem requireAuth_bind_of_ne
    {client : Pop3Client σ}
    (unauthenticated : client.state ≠ .authenticated)
    (next : Unit → ClientM σ α) :
    (requireAuth >>= next) client = .error .notAuthenticated client := by
  have refused : requireAuth client = .error .notAuthenticated client := by
    rw [requireAuth, gets_bind_apply, if_pos unauthenticated]
    rfl
  exact bind_of_error refused

/-- Before authentication no command for the mailbox gets as far as the connection. -/
theorem Call.run_of_ne_authenticated
    {call : Call}
    (mailbox : call.isMailbox = true)
    {client : Pop3Client σ}
    (unauthenticated : client.state ≠ .authenticated) :
    call.run client = .error .notAuthenticated client := by
  have refused : ∀ {α : Type} (next : Unit → ClientM σ α),
      (requireAuth >>= next) client = .error .notAuthenticated client :=
    requireAuth_bind_of_ne unauthenticated
  cases call with
  | capa | stls | login | apop => cases mailbox
  | unseenUids seen | pruneSeen seen =>
      exact bind_of_error (bind_of_error (refused _))
  | fetchUnseen seen =>
      exact bind_of_error (bind_of_error (bind_of_error (refused _)))
  | _ => exact bind_of_error (refused _)

/-- After authentication neither a login nor an upgrade gets there. -/
theorem Call.run_of_authenticated
    {call : Call}
    (establishes : call.isCommand = false)
    {client : Pop3Client σ}
    (isAuthenticated : client.state = .authenticated) :
    ∃ error, call.run client = .error error client := by
  cases call with
  | stls hostname =>
      refine ⟨.serverError "STLS not allowed after authentication (RFC 2595)".toList,
        bind_of_error ?_⟩
      rw [Pop3Client.stls, gets_bind_apply, if_pos isAuthenticated]
      rfl
  | login username password =>
      refine ⟨.notAuthenticated, bind_of_error ?_⟩
      rw [Pop3Client.login, gets_bind_apply, isAuthenticated]
      rfl
  | apop username password =>
      refine ⟨.notAuthenticated, bind_of_error ?_⟩
      rw [Pop3Client.apop, gets_bind_apply, isAuthenticated]
      rfl
  | _ => cases establishes

/-! ## Runs -/

/-- A session that is authenticated goes on with the same session. -/
theorem Call.continues_of_authenticated
    {client : Pop3Client σ}
    (isAuthenticated : client.state = .authenticated)
    (call : Call) :
    Continues client (finalState (call.run client)) := by
  rcases call.moves client with
    ⟨continues, _⟩ | ⟨_, authenticates, _⟩ | ⟨_, _, encrypts, _⟩
  · exact continues
  · exact absurd (authenticates.was.symm.trans isAuthenticated) SessionState.noConfusion
  · exact absurd isAuthenticated encrypts.unauthenticated

theorem Call.continues_runAll
    {client : Pop3Client σ}
    (isAuthenticated : client.state = .authenticated)
    (calls : List Call) :
    Continues client (runAll calls client) := by
  induction calls generalizing client with
  | nil => exact .refl client
  | cons call calls inductionHypothesis =>
      have continues := call.continues_of_authenticated isAuthenticated
      exact continues.trans (inductionHypothesis (continues.state.trans isAuthenticated))

/-- No call of the run on the mailbox gets as far as the connection. -/
def LockedOut (calls : List Call) (client : Pop3Client σ) : Prop :=
  ∀ before call after, calls = before ++ call :: after → call.isMailbox = true →
    call.run (Call.runAll before client) =
      .error .notAuthenticated (Call.runAll before client)

/-- Throughout the run the session is the same, and no login and no upgrade gets as far as
the connection. -/
def KeepsSession (calls : List Call) (client : Pop3Client σ) : Prop :=
  client.state = .authenticated ∧
    ∀ before call after, calls = before ++ call :: after →
      Continues client (Call.runAll before client) ∧
        (call.isCommand = false →
          ∃ error, call.run (Call.runAll before client) =
            .error error (Call.runAll before client))

theorem keepsSession_of_authenticated
    {client : Pop3Client σ}
    (isAuthenticated : client.state = .authenticated)
    (calls : List Call) :
    KeepsSession calls client := by
  refine ⟨isAuthenticated, fun before call after _ => ?_⟩
  have continues := Call.continues_runAll isAuthenticated before
  exact ⟨continues, fun establishes =>
    Call.run_of_authenticated establishes (continues.state.trans isAuthenticated)⟩

/-- A run that does not end authenticated has been locked out. -/
theorem lockedOut_of_ne_authenticated
    {calls : List Call}
    {client : Pop3Client σ}
    (unauthenticated : (Call.runAll calls client).state ≠ .authenticated) :
    LockedOut calls client := by
  rintro before call after rfl mailbox
  refine Call.run_of_ne_authenticated mailbox fun authenticated => unauthenticated ?_
  rw [Call.runAll_append]
  exact (Call.continues_runAll authenticated _).state.trans authenticated

/-- What a call leaves as it is as long as nobody is authenticated. -/
theorem Call.unauthenticated_run
    {call : Call}
    {client : Pop3Client σ}
    (connected : client.state = .connected)
    (still : (finalState (call.run client)).state ≠ .authenticated) :
    (finalState (call.run client)).state = .connected ∧
      (finalState (call.run client)).supportsPipelining = client.supportsPipelining ∧
      (finalState (call.run client)).greeting = client.greeting := by
  rcases call.moves client with
    ⟨continues, _⟩ | ⟨_, authenticates, _⟩ | ⟨_, _, encrypts, _⟩
  · exact ⟨continues.state.trans connected, continues.supportsPipelining, continues.greeting⟩
  · exact absurd authenticates.state still
  · exact ⟨encrypts.state.trans connected, encrypts.supportsPipelining, encrypts.greeting⟩

theorem Call.unauthenticated_runAll
    {calls : List Call}
    {client : Pop3Client σ}
    (connected : client.state = .connected)
    (still : (runAll calls client).state ≠ .authenticated) :
    (runAll calls client).state = .connected ∧
      (runAll calls client).supportsPipelining = client.supportsPipelining ∧
      (runAll calls client).greeting = client.greeting := by
  induction calls generalizing client with
  | nil => exact ⟨connected, rfl, rfl⟩
  | cons call calls inductionHypothesis =>
      have first : (finalState (call.run client)).state ≠ .authenticated := fun early =>
        still ((continues_runAll early calls).state.trans early)
      obtain ⟨state, pipelining, greeting⟩ := call.unauthenticated_run connected first
      obtain ⟨state', pipelining', greeting'⟩ := inductionHypothesis state still
      exact ⟨state', pipelining'.trans pipelining, greeting'.trans greeting⟩

/-- What a caller can ask about the session goes one way only: the greeting stays, what is
closed or encrypted stays so, only an upgrade that succeeds begins encryption, and
the server's support of pipelining is learned by authentication only. -/
structure GoesOneWay (call : Call) (client : Pop3Client σ) : Prop where
  greeting : (finalState (call.run client)).greeting = client.greeting
  isClosed : client.isClosed = true → (finalState (call.run client)).isClosed = true
  isEncrypted : client.isEncrypted = true → (finalState (call.run client)).isEncrypted = true
  encrypts : client.isEncrypted = false → (finalState (call.run client)).isEncrypted = true →
    call.upgrades = true ∧ returned (call.run client) = .ok .done
  supportsPipelining : (finalState (call.run client)).state ≠ .authenticated →
    (finalState (call.run client)).supportsPipelining = client.supportsPipelining

theorem Call.goesOneWay (call : Call) (client : Pop3Client σ) : GoesOneWay call client := by
  rcases call.moves client with
    ⟨continues, _⟩ | ⟨_, authenticates, _⟩ | ⟨noCommand, noLogin, encrypts, succeeded⟩
  · exact
      { greeting := continues.greeting
        isClosed := continues.isClosed
        isEncrypted := continues.isEncrypted.trans
        encrypts := fun was is => by
          rw [continues.isEncrypted, was] at is
          cases is
        supportsPipelining := fun _ => continues.supportsPipelining }
  · exact
      { greeting := authenticates.greeting
        isClosed := authenticates.isClosed
        isEncrypted := authenticates.isEncrypted.trans
        encrypts := fun was is => by
          rw [authenticates.isEncrypted, was] at is
          cases is
        supportsPipelining := fun still => absurd authenticates.state still }
  · have upgrades : call.upgrades = true := by
      cases call with
      | stls hostname => rfl
      | login username password | apop username password => cases noLogin
      | _ => cases noCommand
    exact
      { greeting := encrypts.greeting
        isClosed := encrypts.isClosed
        isEncrypted := fun _ => encrypts.isEncrypted
        encrypts := fun _ _ => ⟨upgrades, succeeded⟩
        supportsPipelining := fun _ => encrypts.supportsPipelining }

omit [Server σ] [Md5] in
/-- A new client is not authenticated, and knows nothing of pipelining. -/
theorem fresh_of_connects
    {net : Net σ}
    {client : Pop3Client σ}
    (connects : Connects net client) :
    client.state = .connected ∧ client.supportsPipelining = false := by
  obtain ⟨stream, encrypted, _, greets⟩ := connects.greets
  unfold greet at greets
  split at greets
  · cases greets
  · split at greets
    · cases greets
    · cases greets
      exact ⟨rfl, rfl⟩

/-- The life of a session from the connection on, whatever the server sends and whatever
the connection does.  Each call changes what can be asked about it in one direction only.
Either nobody has been authenticated, and no call on the mailbox has got as far as the
connection; or one login has succeeded, before it that was so, and after it no login and no
upgrade has got there, and what the client says about its session has stayed the same. -/
theorem session_lifecycle
    {net : Net σ}
    {client : Pop3Client σ}
    (connects : Connects net client)
    (calls : List Call) :
    (Call.runAll calls client).greeting = client.greeting ∧
      (∀ before call after, calls = before ++ call :: after →
        GoesOneWay call (Call.runAll before client)) ∧
      (((Call.runAll calls client).state = .connected ∧
          (Call.runAll calls client).supportsPipelining = false ∧
          LockedOut calls client) ∨
        ∃ before call after, calls = before ++ call :: after ∧
          (Call.runAll before client).state = .connected ∧
          (Call.runAll before client).supportsPipelining = false ∧
          LockedOut before client ∧
          call.logsIn = true ∧ returned (call.run (Call.runAll before client)) = .ok .done ∧
          KeepsSession after (finalState (call.run (Call.runAll before client)))) := by
  obtain ⟨connected, unknown⟩ := fresh_of_connects connects
  have oneWay : ∀ before call after, calls = before ++ call :: after →
      GoesOneWay call (Call.runAll before client) := fun _ call _ _ => call.goesOneWay _
  by_cases authenticated : (Call.runAll calls client).state = .authenticated
  swap
  · obtain ⟨state, pipelining, greeting⟩ :=
      Call.unauthenticated_runAll connected authenticated
    exact ⟨greeting, oneWay, .inl ⟨state, pipelining.trans unknown,
      lockedOut_of_ne_authenticated authenticated⟩⟩
  obtain ⟨before, call, after, rfl, notYet, found⟩ :=
    Call.exists_call_of_runAll (fun client => client.state = .authenticated)
      (by rw [connected]; exact SessionState.noConfusion) authenticated
  obtain ⟨state, pipelining, greeting⟩ := Call.unauthenticated_runAll connected notYet
  rcases call.moves (Call.runAll before client) with
    ⟨continues, _⟩ | ⟨logsIn, authenticates, succeeded⟩ | ⟨_, _, encrypts, _⟩
  · exact absurd (continues.state.symm.trans found) notYet
  · refine ⟨?_, oneWay, .inr ⟨before, call, after, rfl, state, pipelining.trans unknown,
      lockedOut_of_ne_authenticated notYet, logsIn, succeeded,
      keepsSession_of_authenticated found after⟩⟩
    rw [Call.runAll_append]
    exact (Call.continues_runAll found after).greeting.trans
      (authenticates.greeting.trans greeting)
  · exact absurd (encrypts.state.symm.trans found) notYet

end Calls

/-- A login between two commands for the mailbox. -/
theorem session_lifecycle_greeted :
    let _ := emptyDigest
    let client := greeted (List.replicate 4 "+OK\r\n".toList) []
    let calls := [Call.noop, .login "user".toList "secret".toList, .noop]
    (Call.runAll calls client).greeting = client.greeting ∧
      (∀ before call after, calls = before ++ call :: after →
        GoesOneWay call (Call.runAll before client)) ∧
      (((Call.runAll calls client).state = .connected ∧
          (Call.runAll calls client).supportsPipelining = false ∧
          LockedOut calls client) ∨
        ∃ before call after, calls = before ++ call :: after ∧
          (Call.runAll before client).state = .connected ∧
          (Call.runAll before client).supportsPipelining = false ∧
          LockedOut before client ∧
          call.logsIn = true ∧ returned (call.run (Call.runAll before client)) = .ok .done ∧
          KeepsSession after (finalState (call.run (Call.runAll before client)))) :=
  @session_lifecycle _ _ emptyDigest _ _ (connects_greeted _ []) _

end Pop3
