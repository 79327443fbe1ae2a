import Pop3.Mailbox.Visiting
import Pop3.Reconnecting.Callback
import Pop3.Session.Closing

/-!
# Reconnecting to an account

Every connection that a reconnecting client dials is a new session with the account.
Connections may be lost at any point.  What the caller gets is what the account says in
the session that the client is in, and the outcome tells which session that is.
-/

namespace Pop3

open Rust Framing Pop3Client

/-! ## Sessions that are begun -/

/-- The account, just opened over a stream. -/
def Account.opened (account : Account) (mails : MailServer) (stream : InnerStream) : Visit where
  mails
  isOpen := true
  supportsPipelining := account.offersPipelining
  stream

/-- What a client goes over that is connected in this mode. -/
def TlsMode.stream : TlsMode → InnerStream
  | .plain => .plain
  | .tls | .startTls => .tls

/-- Whoever is dialed, if anybody, is the server of the account. -/
def Account.Hosts (account : Account) (weather : Weather) (mails : MailServer)
    (dial : Dial AccountServer) : Prop :=
  ∀ host port net, dial host port = .ok net → account.Greets mails net ∧ net.Within weather

section Beginning

variable [Md5] {account : Account} {weather : Weather} {mails : MailServer}

/-- What becomes of a visit when an upgrade succeeds. -/
theorem tls_of_stls
    {hostname : Str}
    {visit : Visit}
    {value : Value}
    (succeeded : returned (account.perform (.stls hostname) visit) = .ok value) :
    finalState (account.perform (.stls hostname) visit) = { visit with stream := .tls } := by
  have asks : Preserves (fun after => after = visit) Account.mayUpgrade :=
    .bind (.gets _) fun _ => .bind (.ofResult _) fun _ => .bind (.gets _) fun _ => .ofResult _
  have reaches : Preserves (fun after => after = visit) Account.reach :=
    .bind (.gets _) fun _ => .ofResult _
  have succeeded' := eq_ok_of_returned succeeded
  obtain ⟨_, middle, allowed, goesOn⟩ := exists_of_bind_ok succeeded'
  obtain rfl : middle = visit := by simpa only [allowed, finalState_ok] using asks visit rfl
  obtain ⟨_, last, reached, agrees⟩ := exists_of_bind_ok goesOn
  obtain rfl : last = middle := by simpa only [reached, finalState_ok] using reaches middle rfl
  cases offers : account.offersUpgrade with
  | false =>
      rw [offers] at agrees
      cases agrees
  | true =>
      rw [offers, if_pos rfl, Account.shake] at agrees
      cases shaken : account.handshake hostname with
      | completes =>
          rw [shaken] at agrees
          exact (EStateM.Result.ok.inj agrees).2.symm
      | invalidDnsName message | fails message =>
          rw [shaken] at agrees
          cases agrees

/-- A login that succeeds opens an account that was not open. -/
theorem opened_of_login
    {call : Call}
    (logsIn : call.logsIn = true)
    {visit : Visit}
    {value : Value}
    (succeeded : returned (account.perform call visit) = .ok value) :
    visit.isOpen = false ∧
      finalState (account.perform call visit) = account.opened visit.mails visit.stream := by
  have enter : ∀ {entitled}, returned (account.enter entitled visit) = .ok value →
      finalState (account.enter entitled visit) = account.opened visit.mails visit.stream := by
    intro entitled entered
    by_cases gone : visit.stream = .upgrading
    · rw [Account.enter, bind_of_error (Account.reach_of_eq gone)] at entered
      cases entered
    · rw [Account.enter, bind_of_ok (Account.reach_of_ne gone)] at entered ⊢
      cases entitled with
      | false => cases entered
      | true => rfl
  have checks : ∀ {username password : Str} {next : Action Pop3Error Visit Value},
      returned ((do
        Account.mustBe false
        ofResult (checkNoCrlf username)
        ofResult (checkNoCrlf password)
        next : Action Pop3Error Visit Value) visit) = .ok value →
      visit.isOpen = false ∧ returned (next visit) = .ok value ∧
        finalState ((do
          Account.mustBe false
          ofResult (checkNoCrlf username)
          ofResult (checkNoCrlf password)
          next : Action Pop3Error Visit Value) visit) = finalState (next visit) := by
    intro username password next succeeded
    cases isOpen : visit.isOpen with
    | true =>
        have refused := Account.mustBe_of_ne
          (isOpen.trans_ne Bool.noConfusion : visit.isOpen ≠ false)
        rw [bind_of_error refused] at succeeded
        cases succeeded
    | false =>
        rw [bind_of_ok (Account.mustBe_of_eq isOpen)] at succeeded ⊢
        cases checked : checkNoCrlf username with
        | error error =>
            rw [checked] at succeeded
            cases succeeded
        | ok _ =>
            rw [checked, ofResult_ok_bind] at succeeded
            rw [ofResult_ok_bind]
            cases checked' : checkNoCrlf password with
            | error error =>
                rw [checked'] at succeeded
                cases succeeded
            | ok _ =>
                rw [checked', ofResult_ok_bind] at succeeded
                rw [ofResult_ok_bind]
                exact ⟨rfl, succeeded, rfl⟩
  cases call with
  | login username password =>
      obtain ⟨closed, entered, same⟩ := checks succeeded
      exact ⟨closed, same.trans (enter entered)⟩
  | apop username password =>
      obtain ⟨closed, entered, same⟩ := checks succeeded
      refine ⟨closed, same.trans ?_⟩
      cases stamped : account.timestamp with
      | none =>
          rw [stamped] at entered
          cases entered
      | some timestamp =>
          rw [stamped] at entered
          exact enter entered
  | _ => cases logsIn

variable (punctual : weather.late = false)

include punctual

/-- An upgrade that succeeds, in a session or on a lost connection. -/
theorem meets_upgraded
    {client last : Pop3Client AccountServer}
    {visit : Visit}
    (meets : account.Meets weather client visit)
    {hostname : Str}
    (upgraded : stls hostname client = .ok () last) :
    account.Meets weather last { visit with stream := .tls } ∨
      (clientMishaps weather).gone last := by
  have run : (Call.stls hostname).run client = .ok .done last := bind_of_ok upgraded
  have attends := attends_stls punctual meets hostname
  rw [run] at attends
  rcases attends with ⟨same, meets' | severs⟩ | gone
  · exact .inl (tls_of_stls same.symm ▸ meets')
  · rw [tls_of_stls same.symm] at severs
    cases severs.stream
  · exact .inr gone

omit [Md5] in
theorem meets_greeted
    {net : Net AccountServer}
    (greets : account.Greets mails net)
    (within : net.Within weather)
    {stream : InnerStream}
    (notGone : stream ≠ .upgrading)
    {client : Pop3Client AccountServer}
    (greeted : greet { stream, encrypted := decide (stream = .tls), net } = .ok client) :
    account.Meets weather client { mails, stream } ∨ (clientMishaps weather).gone client := by
  rcases meets_greet punctual greets within notGone rfl with ⟨client', greeted', meets⟩ | gone
  · obtain rfl : client' = client := Except.ok.inj (greeted'.symm.trans greeted)
    exact .inl meets
  · refine .inr ⟨gone.1, ?_⟩
    rw [(eq_of_greet greeted).2]
    exact gone.2

/-- A connection in the TLS mode asked for begins a session, or is lost. -/
theorem meets_established
    {builder : Pop3ClientBuilder}
    {dial : Dial AccountServer}
    (hosts : account.Hosts weather mails dial)
    {client : Pop3Client AccountServer}
    (established : returned (builder.established dial none) = .ok client) :
    account.Meets weather client { mails, stream := builder.tlsMode.stream } ∨
      (clientMishaps weather).gone client := by
  rw [builder.returned_established] at established
  have answers := hosts builder.hostname builder.effectivePort
  generalize dial builder.hostname builder.effectivePort = dialed at answers established
  cases dialed with
  | error error =>
      cases tlsMode : builder.tlsMode with
      | tls =>
          rw [tlsMode] at established
          obtain ⟨_, opened, _⟩ := bind_eq_ok_iff.mp established
          obtain ⟨_, _, found, _⟩ := Transport.connectTls_eq_ok.mp opened
          cases found
      | plain | startTls =>
          rw [tlsMode] at established
          cases established
  | ok net =>
      obtain ⟨greets, within⟩ := answers net rfl
      cases tlsMode : builder.tlsMode with
      | plain =>
          rw [tlsMode] at established
          exact meets_greeted punctual greets within InnerStream.noConfusion established
      | tls =>
          rw [tlsMode] at established
          obtain ⟨transport, opened, greeted⟩ := bind_eq_ok_iff.mp established
          obtain ⟨_, _, found, _, rfl⟩ := Transport.connectTls_eq_ok.mp opened
          cases found
          exact meets_greeted punctual greets within InnerStream.noConfusion greeted
      | startTls =>
          rw [tlsMode] at established
          obtain ⟨greeted, connected, upgraded⟩ := bind_eq_ok_iff.mp established
          have run := run_of_after upgraded
          rcases meets_greeted punctual greets within InnerStream.noConfusion connected with
            meets | gone
          · exact meets_upgraded punctual meets run
          · have dead := preserves_stls survivesSteps_dead preserves_dead_upgradeInPlace
              builder.hostname greeted gone.2
            rw [run] at dead
            exact .inr ⟨gone.1, dead⟩

omit punctual in
/-- What is gone stays gone. -/
theorem gone_run
    (call : Call)
    {client : Pop3Client AccountServer}
    (gone : (clientMishaps weather).gone client) :
    (clientMishaps weather).gone (finalState (call.run client)) :=
  ⟨gone.1, call.preserves survivesSteps_dead preserves_dead_upgradeInPlace client gone.2⟩

/-- A login that succeeds opens the account, or has lost the connection. -/
theorem meets_login
    {call : Call}
    (logsIn : call.logsIn = true)
    {client last : Pop3Client AccountServer}
    (accepted : call.run client = .ok .done last)
    {visit : Visit}
    (meets : account.Meets weather client visit) :
    visit.isOpen = false ∧ account.Meets weather last (account.opened visit.mails visit.stream) ∨
      (clientMishaps weather).gone last := by
  have noUpgrade : call.upgrades = false := by
    cases call with
    | stls => cases logsIn
    | _ => rfl
  rcases call.meets_run punctual noUpgrade visit client meets with ⟨same, meets'⟩ | stuck | gone
  · rw [accepted] at same meets'
    obtain ⟨closed, opened⟩ := opened_of_login logsIn same.symm
    exact .inl ⟨closed, opened ▸ meets'⟩
  · obtain ⟨error, _, stuck⟩ := stuck
    exact absurd stuck (neverStuck_of_punctual punctual error _)
  · rw [accepted] at gone
    exact .inr gone

/-- Whoever logs in finds the account open, or has lost the connection. -/
theorem meets_connectAndAuth
    {builder : Pop3ClientBuilder}
    {username password : Str}
    {dial : Dial AccountServer}
    (hosts : account.Hosts weather mails dial)
    {client : Pop3Client AccountServer}
    (connected : connectAndAuth builder username password dial = .ok client) :
    account.Meets weather client (account.opened mails builder.tlsMode.stream) ∨
      (clientMishaps weather).gone client := by
  obtain ⟨greeted, began, authenticated⟩ := bind_eq_ok_iff.mp connected
  have accepted : (Call.login username password).run greeted = .ok .done client :=
    bind_of_ok (run_of_after authenticated)
  rw [← builder.returned_connecting dial none] at began
  obtain ⟨first, state, established, authenticates⟩ := exists_of_bind_ok
    (eq_ok_of_returned began)
  have stays : (clientMishaps weather).gone greeted → (clientMishaps weather).gone client := by
    intro gone
    have gone' := gone_run (.login username password) gone
    rwa [accepted] at gone'
  -- Credentials of the builder's own leave nothing for the second login to open.
  have twice : ∀ call : Call, call.logsIn = true → call.run first = .ok .done greeted →
      account.Meets weather first { mails, stream := builder.tlsMode.stream } ∨
        (clientMishaps weather).gone first →
      (clientMishaps weather).gone client := by
    rintro call logsIn run (meets | gone)
    · rcases meets_login punctual logsIn run meets with ⟨_, meets'⟩ | gone
      · rcases meets_login punctual rfl accepted meets' with ⟨closed, _⟩ | gone
        · cases closed
        · exact gone
      · exact stays gone
    · have gone' := gone_run call gone
      rw [run] at gone'
      exact stays gone'
  have reached := meets_established punctual hosts (congrArg returned established)
  unfold Pop3ClientBuilder.authenticating at authenticates
  cases auth : builder.auth with
  | none =>
      rw [auth] at authenticates
      cases authenticates
      rcases reached with meets | gone
      · exact (meets_login punctual rfl accepted meets).imp_left And.right
      · exact .inr (stays gone)
  | login name secret =>
      rw [auth] at authenticates
      have run := run_of_after ((ConnectM.returned_keeping first _ state).symm.trans
        (congrArg returned authenticates))
      exact .inr (twice (.login name secret) rfl (bind_of_ok run) reached)
  | apop name secret =>
      rw [auth] at authenticates
      have run := run_of_after ((ConnectM.returned_keeping first _ state).symm.trans
        (congrArg returned authenticates))
      exact .inr (twice (.apop name secret) rfl (bind_of_ok run) reached)

end Beginning

/-! ## Runs over connections that may be lost -/

section Running

variable [Md5] {account : Account}

/-- The client is in a session in which the account is open, or has lost its connection. -/
def Account.Holds (account : Account) (client : Pop3Client AccountServer) : Prop :=
  (∃ visit, visit.isOpen = true ∧ account.Meets lossy client visit) ∨
    (clientMishaps lossy).gone client

omit [Md5] in
/-- What is lost is not open. -/
theorem not_gone
    {client : Pop3Client AccountServer}
    (alive : client.transport.net.isOpen = true) :
    ¬(clientMishaps lossy).gone client :=
  fun gone => Bool.false_ne_true (gone.2.isOpen.symm.trans alive)

/-- A connection that is not lost by a call has been in a session before. -/
theorem Account.Holds.meets
    {call : Call}
    {client : Pop3Client AccountServer}
    (holds : account.Holds client)
    (alive : (finalState (call.run client)).transport.net.isOpen = true) :
    ∃ visit, visit.isOpen = true ∧ account.Meets lossy client visit :=
  holds.resolve_right fun gone => not_gone alive (gone_run call gone)

omit [Md5] in
theorem Account.Holds.opened_or_gone
    {client : Pop3Client AccountServer}
    {mails : MailServer}
    {stream : InnerStream}
    (reached : account.Meets lossy client (account.opened mails stream) ∨
      (clientMishaps lossy).gone client) :
    account.Holds client :=
  reached.imp_left fun meets => ⟨_, rfl, meets⟩

/-- One call in a session in which the account is open. -/
theorem meets_or_gone
    {call : Call}
    (command : call.isCommand = true)
    {client : Pop3Client AccountServer}
    {visit : Visit}
    (meets : account.Meets lossy client visit) :
    returned (call.run client) = returned (account.perform call visit) ∧
      account.Meets lossy (finalState (call.run client))
        (finalState (account.perform call visit)) ∨
    (clientMishaps lossy).gone (finalState (call.run client)) := by
  have noUpgrade : call.upgrades = false := by
    cases call with
    | stls => cases command
    | _ => rfl
  rcases call.meets_run rfl noUpgrade visit client meets with given | stuck | gone
  · exact .inl given
  · obtain ⟨error, _, stuck⟩ := stuck
    exact absurd stuck (neverStuck_of_punctual rfl error _)
  · exact .inr gone

theorem holds_run
    {call : Call}
    (command : call.isCommand = true)
    {client : Pop3Client AccountServer}
    (holds : account.Holds client) :
    account.Holds (finalState (call.run client)) := by
  rcases holds with ⟨visit, isOpen, meets⟩ | gone
  · exact (meets_or_gone command meets).imp
      (fun ⟨_, meets'⟩ => ⟨_, Account.isOpen_perform isOpen call, meets'⟩) id
  · exact .inr (gone_run call gone)

namespace ReconnectingClient

variable {mails : Nat → MailServer} {call : Call} {reconnecting : ReconnectingClient AccountServer}

/-- What an operation comes to that leaves its client in a session. -/
inductive Explains (account : Account) (mails : Nat → MailServer) (call : Call)
    (before after : ReconnectingClient AccountServer) (result : Except Pop3Error (Outcome Value)) :
    Prop
  /-- The session goes on, and this is what the account says in it. -/
  | fresh {visit : Visit} :
      visit.isOpen = true → account.Meets lossy before.client visit →
      result = (returned (account.perform call visit)).map .fresh →
      account.Meets lossy after.client (finalState (account.perform call visit)) →
      after.dialed = before.dialed →
      Explains account mails call before after result
  /-- What the account says is a transient error, and no other session can be had. -/
  | refused {visit : Visit} {error : Pop3Error} :
      visit.isOpen = true → account.Meets lossy before.client visit →
      warrantsReconnect (returned (account.perform call visit)) = true →
      result = .error error →
      account.Meets lossy after.client (finalState (account.perform call visit)) →
      before.dialed < after.dialed →
      Explains account mails call before after result
  /-- A new session has begun, over TLS if the builder says so, and this is what the account
  says in it. -/
  | reconnected {number : Nat} {visit : Visit} :
      before.dialed ≤ number → number < after.dialed →
      visit = account.opened (mails number) before.builder.tlsMode.stream →
      result = (returned (account.perform call visit)).map .reconnected →
      account.Meets lossy after.client (finalState (account.perform call visit)) →
      Explains account mails call before after result

/-- Whoever is dialed is the server of the account. -/
theorem opened_of_dialing
    (hosts : ∀ number, account.Hosts lossy (mails number) (reconnecting.dials number))
    {client : Pop3Client AccountServer}
    {settings : ReconnectingClientBuilder AccountServer}
    (connected : reconnecting.dialing = .ok client settings) :
    ∃ number, reconnecting.dialed ≤ number ∧ number < settings.dialed ∧
      (account.Meets lossy client
          (account.opened (mails number) reconnecting.builder.tlsMode.stream) ∨
        (clientMishaps lossy).gone client) := by
  obtain ⟨number, fromHere, upTo, authenticated⟩ := exists_dial_of_retry connected
  exact ⟨number, fromHere, upTo, meets_connectAndAuth rfl (hosts number) authenticated⟩

/-- One operation. -/
theorem explains_perform
    (hosts : ∀ number, account.Hosts lossy (mails number) (reconnecting.dials number))
    (command : call.isCommand = true)
    (holds : account.Holds reconnecting.client) :
    account.Holds (finalState (perform call reconnecting)).client ∧
      ((finalState (perform call reconnecting)).client.transport.net.isOpen = true →
        Explains account mails call reconnecting (finalState (perform call reconnecting))
          (returned (perform call reconnecting))) := by
  have way := performs command reconnecting
  have redialed : Redialed reconnecting.toReconnectingClientBuilder
      (finalState (attempted call reconnecting).dialing) :=
    redialed_retry _ _ _ _ _
  have held := holds_run command holds
  generalize perform call reconnecting = result at way
  cases way with
  | stays unwarranted =>
      rw [finalState_ofResult, returned_ofResult]
      refine ⟨held, fun alive => ?_⟩
      obtain ⟨visit, isOpen, meets⟩ := holds.meets alive
      obtain ⟨same, meets'⟩ := (meets_or_gone command meets).resolve_right (not_gone alive)
      exact .fresh isOpen meets (congrArg _ same) meets' rfl
  | refused warranted refused =>
      refine ⟨held, fun alive => ?_⟩
      obtain ⟨visit, isOpen, meets⟩ := holds.meets alive
      obtain ⟨same, meets'⟩ := (meets_or_gone command meets).resolve_right (not_gone alive)
      rw [refused] at redialed
      exact .refused isOpen meets (same ▸ warranted) rfl meets' redialed.dialed
  | renewed warranted connected =>
      rw [finalState_ofResult, returned_ofResult]
      obtain ⟨number, fromHere, upTo, reached⟩ := opened_of_dialing hosts connected
      have begun : account.Holds _ := .opened_or_gone reached
      refine ⟨holds_run command begun, fun alive => ?_⟩
      have meets := reached.resolve_right fun gone => not_gone alive (gone_run call gone)
      obtain ⟨same, meets'⟩ := (meets_or_gone command meets).resolve_right (not_gone alive)
      exact .reconnected fromHere upTo rfl (congrArg _ same) meets'

theorem holds_performAll
    {calls : List Call}
    (hosts : ∀ number, account.Hosts lossy (mails number) (reconnecting.dials number))
    (commands : ∀ call ∈ calls, call.isCommand = true)
    (holds : account.Holds reconnecting.client) :
    account.Holds (performAll calls reconnecting).client := by
  induction calls generalizing reconnecting with
  | nil => exact holds
  | cons call calls inductionHypothesis =>
      obtain ⟨command, rest⟩ := List.forall_mem_cons.mp commands
      refine inductionHypothesis ?_ rest (explains_perform hosts command holds).1
      rw [dials_perform command]
      exact hosts

/-- In a run of a reconnecting client whose connections may be lost at any point, every
operation that leaves its client in a session has returned what the account says: in the
session that goes on, if the outcome is fresh, and in a new one, if it is reconnected. -/
theorem explains_runs
    {settings : ReconnectingClientBuilder AccountServer}
    {username password : Str}
    (hosts : ∀ number, account.Hosts lossy (mails number) (settings.dials number))
    (connected : settings.connect username password = .ok reconnecting)
    {calls : List Call}
    (commands : ∀ call ∈ calls, call.isCommand = true)
    {before after : List Call}
    (split : calls = before ++ call :: after)
    (alive : (performAll (before ++ [call]) reconnecting).client.transport.net.isOpen = true) :
    Explains account mails call (performAll before reconnecting)
      (performAll (before ++ [call]) reconnecting)
      (returned (perform call (performAll before reconnecting))) := by
  obtain ⟨dials, number, authenticated⟩ := exists_dial_of_connect connected
  have begun : account.Holds reconnecting.client :=
    .opened_or_gone (meets_connectAndAuth rfl (hosts number) authenticated)
  rw [← dials] at hosts
  subst split
  have commandsBefore : ∀ other ∈ before, other.isCommand = true := fun other member =>
    commands other (List.mem_append_left _ member)
  have holds := holds_performAll hosts commandsBefore begun
  rw [← dials_performAll commandsBefore] at hosts
  have last : performAll (before ++ [call]) reconnecting =
      finalState (perform call (performAll before reconnecting)) := List.foldl_append
  rw [last] at alive ⊢
  exact (explains_perform hosts (commands call (by simp)) holds).2 alive

end ReconnectingClient

end Running

/-! ## Recovery -/

section Recovering

variable [Md5] {account : Account}

theorem perform_login_opened
    (sendable : checkNoCrlf account.username = .ok () ∧ checkNoCrlf account.password = .ok ())
    {visit : Visit}
    (closed : visit.isOpen = false)
    (usable : visit.stream ≠ .upgrading) :
    account.perform (.login account.username account.password) visit =
      .ok .done (account.opened visit.mails visit.stream) := by
  rw [Account.perform, bind_of_ok (Account.mustBe_of_eq closed), sendable.1, sendable.2,
    ofResult_ok_bind, ofResult_ok_bind, Account.enter, bind_of_ok (Account.reach_of_ne usable),
    beq_self_eq_true, beq_self_eq_true, Bool.and_self]
  rfl

theorem perform_stls_completes
    (offers : account.offersUpgrade = true)
    {hostname : Str}
    (shakes : account.handshake hostname = .completes)
    {visit : Visit}
    (closed : visit.isOpen = false)
    (plain : visit.stream = .plain) :
    account.perform (.stls hostname) visit = .ok .done { visit with stream := .tls } := by
  have notTls : visit.stream ≠ .tls := plain ▸ InnerStream.noConfusion
  have usable : visit.stream ≠ .upgrading := plain ▸ InnerStream.noConfusion
  rw [Account.perform, bind_of_ok (mayUpgrade_of_plain closed notTls),
    bind_of_ok (Account.reach_of_ne usable), offers, if_pos rfl, Account.shake, shakes]
  rfl

/-- The account can be reached: it is dialed without credentials of the builder's own, answers,
lets its connections be secured as the builder says, and nothing is late or lost. -/
structure Account.Answers (account : Account) (mails : MailServer)
    (builder : Pop3ClientBuilder) (dial : Dial AccountServer) : Prop where
  sendable : checkNoCrlf account.username = .ok () ∧ checkNoCrlf account.password = .ok ()
  auth : builder.auth = .none
  offersUpgrade : builder.tlsMode = .startTls → account.offersUpgrade = true
  prepares : builder.tlsMode = .tls → dial.prepares builder.hostname = .completes
  handshake : builder.tlsMode ≠ .plain → account.handshake builder.hostname = .completes
  net : ∃ net, dial builder.hostname builder.effectivePort = .ok net ∧
    account.Greets mails net ∧ net.Within calm

/-- A client of an account that can be reached goes over the stream asked for. -/
theorem Account.Answers.established
    {mails : MailServer}
    {builder : Pop3ClientBuilder}
    {dial : Dial AccountServer}
    (answers : account.Answers mails builder dial) :
    ∃ client, returned (builder.established dial none) = .ok client ∧
      account.Meets calm client { mails, stream := builder.tlsMode.stream } := by
  obtain ⟨net, answered, greets, isCalm⟩ := answers.net
  have opens : ∀ stream : InnerStream, stream ≠ .upgrading →
      ∃ client, greet { stream, encrypted := decide (stream = .tls), net } = .ok client ∧
        account.Meets calm client { mails, stream } := fun stream notGone =>
    (meets_greet rfl greets isCalm notGone rfl).resolve_right fun gone => by cases gone.1
  rw [builder.returned_established, answered]
  cases tlsMode : builder.tlsMode with
  | plain => exact opens .plain InnerStream.noConfusion
  | tls =>
      have shakes : net.handshake builder.hostname = .completes := by
        rw [greets.handshake]
        exact answers.handshake (tlsMode ▸ TlsMode.noConfusion)
      obtain ⟨client, greeted, meets⟩ := opens .tls InnerStream.noConfusion
      refine ⟨client, ?_, meets⟩
      have opened := Transport.connectTls_eq_ok.mpr
        ⟨answers.prepares tlsMode, net, rfl, shakes, rfl⟩
      change (Transport.connectTls _ _ _ >>= greet) = _
      rw [opened]
      exact greeted
  | startTls =>
      obtain ⟨client, greeted, meets⟩ := opens .plain InnerStream.noConfusion
      have completes := @perform_stls_completes _ account (answers.offersUpgrade tlsMode) _
        (answers.handshake (tlsMode ▸ TlsMode.noConfusion)) { mails } rfl rfl
      rcases attends_stls rfl meets builder.hostname with ⟨same, attends⟩ | gone
      · rw [completes] at same attends
        obtain ⟨_, last, upgraded, done⟩ := exists_of_bind_ok (eq_ok_of_returned same)
        have run : (Call.stls builder.hostname).run client = .ok .done last := bind_of_ok upgraded
        rw [run] at attends
        refine ⟨last, ?_, attends.resolve_right fun severs => by cases severs.stream⟩
        have greeted' : Pop3Client.connect (.ok net) = .ok client := greeted
        rw [greeted']
        change Pop3ClientBuilder.after client _ = _
        rw [Pop3ClientBuilder.after, upgraded]
      · cases gone.1

/-- Whoever has the credentials gets into an account that can be reached. -/
theorem Account.Answers.connectAndAuth
    {mails : MailServer}
    {builder : Pop3ClientBuilder}
    {dial : Dial AccountServer}
    (answers : account.Answers mails builder dial) :
    ∃ client, connectAndAuth builder account.username account.password dial = .ok client ∧
      account.Meets calm client (account.opened mails builder.tlsMode.stream) := by
  obtain ⟨client, established, meets⟩ := answers.established
  have connected : builder.connect dial = .ok client := by
    rw [← builder.returned_connecting dial none, Pop3ClientBuilder.connecting,
      bind_of_ok (eq_ok_of_returned established), Pop3ClientBuilder.authenticating, answers.auth]
    rfl
  have usable : builder.tlsMode.stream ≠ .upgrading := by
    cases builder.tlsMode <;> exact InnerStream.noConfusion
  have follows : Follows (account.Meets calm) (clientMishaps calm)
      (Call.login account.username account.password).run _ :=
    Call.meets_run rfl rfl
  rw [clientMishaps_calm] at follows
  obtain ⟨accepted, opened⟩ := (follows _).of_none meets
  rw [@perform_login_opened _ _ answers.sendable { mails, stream := builder.tlsMode.stream } rfl
    usable] at accepted opened
  obtain ⟨_, last, run, done⟩ := exists_of_bind_ok (eq_ok_of_returned accepted)
  obtain ⟨_, same⟩ := EStateM.Result.ok.inj done
  refine ⟨last, ?_, same ▸ opened⟩
  rw [Pop3.connectAndAuth, connected]
  change Pop3ClientBuilder.after client _ = _
  rw [Pop3ClientBuilder.after, run]

namespace ReconnectingClientBuilder

/-- Attempts that fail transiently are repeated until one succeeds. -/
theorem tries_of_failures
    {σ : Type} [Server σ]
    {builder : Pop3ClientBuilder}
    {username password : Str}
    {dials : Nat → Dial σ}
    {retries failures number : Nat}
    (enough : failures ≤ retries)
    (fails : ∀ failed, number ≤ failed → failed < number + failures → ∃ error,
      connectAndAuth builder username password (dials failed) = .error error ∧
        isRetryable error = true)
    {client : Pop3Client σ}
    (succeeds : connectAndAuth builder username password (dials (number + failures)) =
      .ok client) :
    ∃ errors : List Pop3Error, errors.length = failures ∧
      tries builder username password dials retries number =
        errors.map .error ++ [.ok client] := by
  induction failures generalizing retries number with
  | zero =>
      refine ⟨[], rfl, ?_⟩
      rw [Nat.add_zero] at succeeds
      cases retries <;> rw [tries, succeeds] <;> rfl
  | succ failures inductionHypothesis =>
      cases retries with
      | zero => omega
      | succ retries =>
          obtain ⟨error, failed, retryable⟩ := fails number le_rfl (by omega)
          have next : number + 1 + failures = number + (failures + 1) := by omega
          obtain ⟨errors, length, rest⟩ := inductionHypothesis (Nat.le_of_succ_le_succ enough)
            (fun later fromHere upTo => fails later (by omega) (by omega)) (next ▸ succeeds)
          refine ⟨error :: errors, congrArg Nat.succ length, ?_⟩
          rw [tries, failed]
          dsimp only
          rw [if_pos retryable, rest]
          rfl

end ReconnectingClientBuilder

namespace ReconnectingClient

variable {mails : MailServer} {call : Call} {reconnecting : ReconnectingClient AccountServer}
  {failures : Nat}

/-- An operation that has to reconnect, and whose attempts to connect fail transiently no more
often than there are retries before the account answers, comes to what the account says in
the new session.  One connection is dialed for each attempt, and the callback is told of each
failed one by its number. -/
theorem recovers
    (command : call.isCommand = true)
    (warranted : warrantsReconnect (firstResult call reconnecting) = true)
    (username : reconnecting.username = account.username)
    (password : reconnecting.password = account.password)
    (enough : failures ≤ reconnecting.maxRetries)
    (fails : ∀ failed, reconnecting.dialed ≤ failed → failed < reconnecting.dialed + failures →
      ∃ error, connectAndAuth reconnecting.builder reconnecting.username reconnecting.password
        (reconnecting.dials failed) = .error error ∧ isRetryable error = true)
    (answers : account.Answers mails reconnecting.builder
      (reconnecting.dials (reconnecting.dialed + failures))) :
    let performed := perform call reconnecting
    let expected := account.perform call
      (account.opened mails reconnecting.builder.tlsMode.stream)
    returned performed = (returned expected).map .reconnected ∧
      account.Meets calm (finalState performed).client (finalState expected) ∧
      (finalState performed).dialed = reconnecting.dialed + failures + 1 ∧
      ∃ notices, (finalState performed).onReconnect = reconnecting.onReconnect ++ notices ∧
        notices.map Prod.fst = List.range' 1 failures := by
  obtain ⟨client, connected, meets⟩ := answers.connectAndAuth
  rw [← username, ← password] at connected
  obtain ⟨errors, length, tried⟩ :=
    ReconnectingClientBuilder.tries_of_failures enough fails connected
  have reached : reconnecting.tries = errors.map .error ++ [.ok client] := tried
  have attempts : reconnecting.tries.length = failures + 1 := by
    rw [reached, List.length_append, List.length_map, length]
    rfl
  have settings := settings_of_warranted command warranted
  rw [attempts] at settings
  have dialing : returned (attempted call reconnecting).dialing = .ok client := by
    have last := (ReconnectingClientBuilder.retry_eq reconnecting.username reconnecting.password
      reconnecting.maxRetries 0 reconnecting.toReconnectingClientBuilder).2
    rw [tried, List.getLast?_concat] at last
    exact Option.some.inj last
  have follows : Follows (account.Meets calm) (clientMishaps calm) call.run
      (account.perform call) := by
    refine call.meets_run rfl ?_
    cases call with
    | stls => cases command
    | _ => rfl
  rw [clientMishaps_calm] at follows
  obtain ⟨same, meets'⟩ := (follows _).of_none meets
  let visit := account.opened mails reconnecting.builder.tlsMode.stream
  have outcome : returned (perform call reconnecting) =
        (returned (account.perform call visit)).map .reconnected ∧
      account.Meets calm (finalState (perform call reconnecting)).client
        (finalState (account.perform call visit)) := by
    have way := performs command reconnecting
    generalize perform call reconnecting = performed at way
    cases way with
    | stays unwarranted =>
        rw [warranted] at unwarranted
        cases unwarranted
    | refused _ refused =>
        rw [refused] at dialing
        cases dialing
    | renewed _ renewed =>
        rw [renewed] at dialing
        obtain rfl := Except.ok.inj dialing
        rw [returned_ofResult, finalState_ofResult, ← same]
        exact ⟨rfl, meets'⟩
  refine ⟨outcome.1, outcome.2, congrArg ReconnectingClientBuilder.dialed settings, _,
    congrArg ReconnectingClientBuilder.onReconnect settings, ?_⟩
  have numbered := ReconnectingClientBuilder.numbers_notices reconnecting.builder
    reconnecting.username reconnecting.password reconnecting.dials reconnecting.maxRetries
    reconnecting.dialed 0
  rw [tried, ← reached, attempts, Nat.add_sub_cancel] at numbered
  exact numbered

end ReconnectingClient

end Recovering

/-- Connections to the small account, which are upgraded.  The first is lost before the first
command after the login, and the attempt after it finds nobody. -/
def smallAccount.settings : ReconnectingClientBuilder AccountServer where
  builder := { hostname := "here".toList, tlsMode := .startTls }
  dials number := {
    connects _ _ :=
      if number = 1 then .error ⟨.brokenPipe, none⟩
      else .ok {
        server := { account := smallAccount, mails := smallServer }
        wire := smallAccount.opening
        reads := if number = 0 then List.replicate 5 (.arrive 99) ++ [.drop .endOfFile] else []
        handshake := smallAccount.handshake } }

theorem hosts_smallAccount (number : Nat) :
    smallAccount.Hosts lossy smallServer (smallAccount.settings.dials number) := by
  intro host port net dialed
  change (if number = 1 then _ else _) = _ at dialed
  split at dialed
  · cases dialed
  · obtain rfl := Except.ok.inj dialed
    refine ⟨⟨rfl, rfl, rfl, rfl⟩, rfl, fun tick member => ?_, by simp⟩
    cases tick with
    | arrive => exact True.intro
    | deadline =>
        dsimp only at member
        split at member <;> simp at member
    | drop => rfl

/-- A message is deleted in the session that is begun when the first one is lost. -/
theorem explains_runs_smallAccount :
    let _ := emptyDigest
    ∃ reconnecting, smallAccount.settings.connect "me".toList "secret".toList =
        .ok reconnecting ∧
      ReconnectingClient.Explains smallAccount (fun _ => smallServer) (.dele 1)
        (reconnecting.performAll [.stat]) (reconnecting.performAll [.stat, .dele 1])
        (returned (ReconnectingClient.perform (.dele 1) (reconnecting.performAll [.stat]))) := by
  let _ := emptyDigest
  have computes : (smallAccount.settings.connect "me".toList "secret".toList).toOption.map
      (fun reconnecting =>
        (reconnecting.performAll [.stat, .dele 1]).client.transport.net.isOpen) = some true := by
    decide +kernel
  obtain ⟨reconnecting, connected, alive⟩ := exists_ok_of_toOption_map computes
  have split : [Call.stat, .dele 1] = [.stat] ++ .dele 1 :: [] := rfl
  exact ⟨reconnecting, connected, ReconnectingClient.explains_runs hosts_smallAccount connected
    (by simp [Call.isCommand]) split alive⟩

/-- A client of the small account, whose connection is lost. -/
def smallAccount.reconnecting : ReconnectingClient AccountServer where
  toReconnectingClientBuilder := { smallAccount.settings with dialed := 1 }
  username := "me".toList
  password := "secret".toList
  client := .idle { account := smallAccount, mails := smallServer } [.drop .endOfFile] false

theorem answers_smallAccount :
    smallAccount.Answers smallServer smallAccount.reconnecting.builder
      (smallAccount.reconnecting.dials 2) where
  sendable := ⟨rfl, rfl⟩
  auth := rfl
  offersUpgrade _ := rfl
  prepares _ := rfl
  handshake _ := rfl
  net := ⟨_, rfl, ⟨rfl, rfl, rfl, rfl⟩, ⟨rfl, by simp, by simp⟩⟩

/-- Of two attempts, the second finds the account. -/
theorem recovers_smallAccount :
    let _ := emptyDigest
    let performed := ReconnectingClient.perform (.dele 1) smallAccount.reconnecting
    let expected := smallAccount.perform (.dele 1) (smallAccount.opened smallServer .tls)
    returned performed = (returned expected).map .reconnected ∧
      smallAccount.Meets calm (finalState performed).client (finalState expected) ∧
      (finalState performed).dialed = 1 + 1 + 1 ∧
      ∃ notices, (finalState performed).onReconnect = [] ++ notices ∧
        notices.map Prod.fst = List.range' 1 1 := by
  intro _
  refine ReconnectingClient.recovers rfl (by decide +kernel) rfl rfl (by decide) ?_
    answers_smallAccount
  intro failed fromHere upTo
  obtain rfl : failed = 1 := Nat.le_antisymm (Nat.le_of_lt_succ upTo) fromHere
  exact ⟨_, rfl, rfl⟩

end Pop3
