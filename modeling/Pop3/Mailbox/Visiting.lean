import Pop3.Mailbox.Account
import Pop3.Segmentation
import Pop3.Session.Streams

/-!
# Visiting an account

A client of an account returns, for each call of a session, what its visitor may
expect, from the greeting to `QUIT`, and through upgrades that succeed or fail.
-/

namespace Pop3

open Rust Framing Pop3Client

/-- What a server sends when a connection opens. -/
def Account.opening (account : Account) : List UInt8 :=
  (Answer.granting account.greeting []).encode false

/-- A new connection, on which the server of the account has greeted. -/
structure Account.Greets (account : Account) (mails : MailServer) (net : Net AccountServer) :
    Prop where
  server : net.server = { account, mails }
  opening : net.wire = account.opening
  isOpen : net.isOpen = true
  handshake : net.handshake = account.handshake

/-- The client is in a session with the account, as its visitor sees it. -/
def Account.Meets (account : Account) (weather : Weather) (client : Pop3Client AccountServer)
    (visit : Visit) : Prop :=
  (∃ session, Tracks weather client session ∧ Visits account session visit) ∧
    GoesOver visit.stream account.handshake client.transport

/-- A handshake has failed before the account was open, and the client knows no more of it. -/
structure Account.Severs (account : Account) (client : Pop3Client AccountServer)
    (visit : Visit) : Prop where
  stream : visit.stream = .upgrading
  isOpen : visit.isOpen = false
  state : client.state = .connected
  greeting : client.greeting = trimStart account.greeting.text
  supportsPipelining : client.supportsPipelining = visit.supportsPipelining
  stranded : ∃ net, Stranded (Net.lose net) client.transport ∧ net.server.mails = visit.mails

/-- The client is in a session with the account, or has lost its stream. -/
def Account.Attends (account : Account) (weather : Weather) (client : Pop3Client AccountServer)
    (visit : Visit) : Prop :=
  account.Meets weather client visit ∨ account.Severs client visit

section Visiting

variable {account : Account} {weather : Weather}

/-- The greeting begins a session, unless the connection is lost. -/
theorem meets_greet
    (punctual : weather.late = false)
    {mails : MailServer}
    {net : Net AccountServer}
    (greets : account.Greets mails net)
    (within : net.Within weather)
    {stream : InnerStream}
    (notGone : stream ≠ .upgrading)
    {encrypted : Bool}
    (secured : encrypted = decide (stream = .tls)) :
    (∃ client, greet { stream, encrypted, net } = .ok client ∧
      account.Meets weather client { mails, stream }) ∨
    weather.lossy ∧ Dead (finalState (Transport.readLine { stream, encrypted, net })) := by
  have shown := shows_of_within within notGone encrypted
  have goes : GoesOver stream account.handshake
      { stream, encrypted, net : Transport AccountServer } :=
    ⟨rfl, secured, greets.handshake⟩
  have pending : net.wire =
      utf8 ((Answer.granting account.greeting []).status ++ crlf) ++ [] := greets.opening
  have given := readLine_follows weather _ _ shown
  rw [View.readLine_of_status pending, returned_ok, finalState_ok, greets.isOpen] at given
  rcases given with ⟨read, shown'⟩ | ⟨_, _, isLate, _⟩ | gone
  · have run := eq_ok_of_returned read
    have greeting : parseStatusLine ((Answer.granting account.greeting []).status ++ crlf) =
        .ok (trimStart account.greeting.text) :=
      Answer.parseStatusLine_status _
    let session : ClientSession AccountServer :=
      { dialogue := { server := net.server, log := net.trace.filter Event.isNoted }
        greeting := trimStart account.greeting.text }
    let client : Pop3Client AccountServer :=
      { transport := finalState (Transport.readLine { stream, encrypted, net })
        greeting := trimStart account.greeting.text
        state := .connected
        isPipelining := false }
    have server : session.dialogue.server = { account, mails } := greets.server
    refine .inl ⟨client, ?_, ⟨session, ⟨shown', rfl, rfl, rfl⟩,
      congrArg AccountServer.account server, congrArg AccountServer.mails server,
      congrArg AccountServer.isOpen server, rfl, rfl, rfl, notGone⟩,
      preserves_goesOver_readLine _ goes⟩
    unfold greet
    rw [run]
    dsimp only
    rw [greeting]
  · rw [punctual] at isLate
    cases isLate
  · exact .inr gone

variable [Md5]

/-- In a session every call but an upgrade does what its visitor may expect. -/
theorem Call.meets_run
    (punctual : weather.late = false)
    {call : Call}
    (noUpgrade : call.upgrades = false) :
    Follows (account.Meets weather) (clientMishaps weather) call.run (account.perform call) := by
  rintro visit client ⟨⟨session, tracks, visits⟩, goes⟩
  obtain ⟨expected, visits'⟩ := (perform_visits noUpgrade visit).of_none visits
  rcases call.tracks_run punctual AccountServer.isClear noUpgrade session client tracks with
    ⟨same, tracks'⟩ | escaped
  · refine .inl ⟨same.trans expected, ⟨_, tracks', visits'⟩, ?_⟩
    rw [Account.stream_perform noUpgrade]
    exact call.preserves_of_not_upgrades survivesSteps_goesOver noUpgrade client goes
  · exact .inr escaped

/-! ## Upgrades -/

/-- What is neither authenticated nor encrypted asks the server, and then the handshake
decides. -/
theorem run_stls_of_plain [Server σ]
    {client : Pop3Client σ}
    (unauthenticated : client.state ≠ .authenticated)
    (unencrypted : client.transport.encrypted = false)
    (hostname : Str) :
    (Call.stls hostname).run client = (do
      let _ ← sendAndCheck "STLS".toList
      transportField.run (Transport.upgradeInPlace hostname)
      return Value.done : ClientM σ Value) client := by
  have isPlain : ¬client.transport.encrypted = true := by
    rw [unencrypted]
    exact Bool.false_ne_true
  simp only [Call.run, stls, bind_assoc]
  rw [gets_bind_apply, if_neg unauthenticated, ofResult_ok_bind, gets_bind_apply, if_neg isPlain,
    ofResult_ok_bind]

omit [Md5] in
/-- A visitor whose account is not open and whose stream is plain may upgrade it. -/
theorem mayUpgrade_of_plain
    {visit : Visit}
    (closed : visit.isOpen = false)
    (notTls : visit.stream ≠ .tls) :
    Account.mayUpgrade visit = .ok () visit := by
  rw [Account.mayUpgrade, gets_bind_apply, closed, if_neg Bool.false_ne_true, ofResult_ok_bind,
    gets_bind_apply, if_neg notTls]
  rfl

/-- The server is asked to agree to an upgrade. -/
theorem status_stls
    {session : ClientSession AccountServer}
    {visit : Visit}
    (visits : Visits account session visit)
    (closed : visit.isOpen = false) :
    ∃ session', Visits account session' visit ∧
      ClientSession.partner.status "STLS".toList session =
        if account.offersUpgrade then .ok (trimStart account.positive.text) session'
        else .error (mappedError (trimStart account.negative.text)) session' := by
  have answered := AccountServer.answer_stls (visits.isOpen.trans closed)
  rw [AccountServer.agree, visits.belongs] at answered
  cases offers : account.offersUpgrade with
  | true =>
      rw [offers, if_pos rfl] at answered
      obtain ⟨log, run⟩ := status_of_granting answered
      refine ⟨{ session with dialogue := ⟨{ session.dialogue.server with
          account, named := none }, log⟩ }, ?_, run.trans (if_pos rfl).symm⟩
      exact ⟨rfl, visits.mails, visits.isOpen, visits.greeting, visits.state,
        visits.supportsPipelining, visits.usable⟩
  | false =>
      rw [offers, if_neg Bool.false_ne_true] at answered
      obtain ⟨log, run⟩ := status_of_refusing answered
      refine ⟨{ session with dialogue := ⟨session.dialogue.server, log⟩ }, ?_,
        run.trans (if_neg Bool.false_ne_true).symm⟩
      exact ⟨visits.belongs, visits.mails, visits.isOpen, visits.greeting, visits.state,
        visits.supportsPipelining, visits.usable⟩

omit [Md5] in
/-- With the server's agreement, the handshake decides. -/
theorem attends_shaken
    {client : Pop3Client AccountServer}
    {session : ClientSession AccountServer}
    {visit : Visit}
    (tracks : Tracks weather client session)
    (visits : Visits account session visit)
    (goes : GoesOver .plain account.handshake client.transport)
    (closed : visit.isOpen = false)
    (hostname : Str) :
    let upgraded := (do
      transportField.run (Transport.upgradeInPlace hostname)
      return Value.done : ClientM AccountServer Value) client
    returned upgraded = returned (account.shake hostname visit) ∧
      account.Attends weather (finalState upgraded)
        (finalState (account.shake hostname visit)) := by
  have empty : client.transport.buffer = [] :=
    (List.append_eq_nil_iff.mp tracks.shows.pending).1
  have upgrade : Transport.upgradeInPlace hostname (transportField.get client) = _ :=
    goes.upgrade empty hostname
  have severs : account.Severs { client with transport := client.transport.abandon }
      { visit with stream := .upgrading } :=
    { stream := rfl
      isOpen := closed
      state := tracks.state.trans (visits.state.trans (by rw [closed]; rfl))
      greeting := tracks.greeting.trans visits.greeting
      supportsPipelining := tracks.supportsPipelining.trans visits.supportsPipelining
      stranded := ⟨_, stranded_abandon (by rw [goes.encrypted, goes.stream]; rfl),
        (congrArg AccountServer.mails tracks.shows.server).trans visits.mails⟩ }
  dsimp only
  unfold Account.shake
  cases shaken : account.handshake hostname with
  | completes =>
      rw [shaken] at upgrade
      rw [bind_of_ok (Field.run_of_ok upgrade)]
      refine ⟨rfl, .inl ⟨⟨session, ⟨tracks.shows.encrypt rfl, tracks.greeting, tracks.state,
        tracks.supportsPipelining⟩, ?_⟩, goes.encrypt⟩⟩
      exact ⟨visits.belongs, visits.mails, visits.isOpen, visits.greeting, visits.state,
        visits.supportsPipelining, InnerStream.noConfusion⟩
  | invalidDnsName message | fails message =>
      rw [shaken] at upgrade
      rw [bind_of_error (Field.run_of_error upgrade)]
      exact ⟨rfl, .inr severs⟩

/-- A session that is open or encrypted is not upgraded. -/
theorem refuses_stls
    {client : Pop3Client AccountServer}
    {visit : Visit}
    (meets : account.Meets weather client visit)
    (unfit : visit.isOpen = true ∨ visit.stream = .tls)
    (hostname : Str) :
    ∃ error, (Call.stls hostname).run client = .error error client ∧
      account.perform (.stls hostname) visit = .error error visit := by
  obtain ⟨⟨session, tracks, visits⟩, goes⟩ := meets
  have state := tracks.state.trans visits.state
  cases isOpen : visit.isOpen with
  | true =>
      rw [isOpen, if_pos rfl] at state
      let error : Pop3Error :=
        .serverError "STLS not allowed after authentication (RFC 2595)".toList
      have refused : stls hostname client = .error error client := by
        rw [stls, gets_bind_apply, if_pos state]
        rfl
      have refused' : Account.mayUpgrade visit = .error error visit := by
        rw [Account.mayUpgrade, gets_bind_apply, if_pos isOpen]
        rfl
      exact ⟨error, bind_of_error refused, bind_of_error refused'⟩
  | false =>
      have tls : visit.stream = .tls := unfit.resolve_left (isOpen ▸ Bool.false_ne_true)
      have unauthenticated : client.state ≠ .authenticated := by
        rw [state, isOpen, if_neg Bool.false_ne_true]
        exact SessionState.noConfusion
      have encrypted : client.transport.encrypted = true := by
        rw [goes.encrypted, goes.stream, tls]
        rfl
      let error : Pop3Error := .serverError "connection is already encrypted".toList
      have refused : stls hostname client = .error error client := by
        rw [stls, gets_bind_apply, if_neg unauthenticated, ofResult_ok_bind, gets_bind_apply,
          if_pos encrypted]
        rfl
      have refused' : Account.mayUpgrade visit = .error error visit := by
        rw [Account.mayUpgrade, gets_bind_apply, isOpen, if_neg Bool.false_ne_true,
          ofResult_ok_bind, gets_bind_apply, if_pos tls]
        rfl
      exact ⟨error, bind_of_error refused, bind_of_error refused'⟩

/-- An upgrade in a session. -/
theorem attends_stls
    (punctual : weather.late = false)
    {client : Pop3Client AccountServer}
    {visit : Visit}
    (meets : account.Meets weather client visit)
    (hostname : Str) :
    (returned ((Call.stls hostname).run client) =
          returned (account.perform (.stls hostname) visit) ∧
        account.Attends weather (finalState ((Call.stls hostname).run client))
          (finalState (account.perform (.stls hostname) visit))) ∨
      (clientMishaps weather).gone (finalState ((Call.stls hostname).run client)) := by
  by_cases unfit : visit.isOpen = true ∨ visit.stream = .tls
  · obtain ⟨error, refused, refused'⟩ := refuses_stls meets unfit hostname
    rw [refused, refused']
    exact .inl ⟨rfl, .inl meets⟩
  obtain ⟨notOpen, notTls⟩ := not_or.mp unfit
  have closed := Bool.eq_false_iff.mpr notOpen
  obtain ⟨⟨session, tracks, visits⟩, goes⟩ := meets
  have plain : visit.stream = .plain := by
    cases stream : visit.stream with
    | plain => rfl
    | tls => exact absurd stream notTls
    | upgrading => exact absurd stream visits.usable
  rw [plain] at goes
  have unauthenticated : client.state ≠ .authenticated := by
    rw [tracks.state.trans visits.state, closed, if_neg Bool.false_ne_true]
    exact SessionState.noConfusion
  have unencrypted : client.transport.encrypted = false := by
    rw [goes.encrypted, goes.stream]
    rfl
  rw [run_stls_of_plain unauthenticated unencrypted, Account.perform,
    bind_of_ok (mayUpgrade_of_plain closed notTls), bind_of_ok (Account.reach_of_ne visits.usable)]
  obtain ⟨session', visits', answered⟩ := status_stls visits closed
  have asked : GoesOver .plain account.handshake
      (finalState (sendAndCheck "STLS".toList client)).transport :=
    (program_sendAndCheck _).preserves survivesSteps_goesOver client goes
  rcases @tracks_status _ _ _ "STLS".toList (by decide) (by decide) session client tracks with
    ⟨same, tracks'⟩ | stuck | gone
  · rw [answered] at same tracks'
    cases offers : account.offersUpgrade with
    | true =>
        rw [offers, if_pos rfl] at same tracks'
        rw [bind_of_ok (eq_ok_of_returned same)]
        exact .inl (attends_shaken tracks' visits' asked closed hostname)
    | false =>
        rw [offers, if_neg Bool.false_ne_true] at same tracks'
        rw [bind_of_error (eq_error_of_returned same)]
        exact .inl ⟨rfl, .inl ⟨⟨session', tracks', visits'⟩, plain ▸ asked⟩⟩
  · obtain ⟨error, _, stuck⟩ := stuck
    exact absurd stuck (neverStuck_of_punctual punctual error _)
  · refine .inr ⟨gone.1, ?_⟩
    have keeps : Preserves (fun client : Pop3Client AccountServer => Dead client.transport)
        (do
          transportField.run (Transport.upgradeInPlace hostname)
          return Value.done) :=
      .bind (Preserves.onTransport (preserves_dead_upgradeInPlace hostname)) fun _ => .pure _
    cases ran : sendAndCheck "STLS".toList client with
    | ok text middle =>
        rw [ran] at gone
        rw [bind_of_ok ran]
        exact keeps middle gone.2
    | error error middle =>
        rw [ran] at gone
        rw [bind_of_error ran]
        exact gone.2

/-! ## Without a stream -/

section Severed

variable {client : Pop3Client AccountServer} {visit : Visit}

/-- The call and what it comes to fail alike, the account left as it is. -/
def FailsAlike (client : Pop3Client AccountServer) (visit : Visit)
    (action : ClientM AccountServer α) (ideal : Action Pop3Error Visit α) : Prop :=
  ∃ error, returned (action client) = .error error ∧ ideal visit = .error error visit

/-- What asks the server fails for want of a stream. -/
theorem Account.Severs.asks
    (severs : account.Severs client visit)
    (command : Str)
    (next : Str → ClientM AccountServer α)
    (goesOn : Unit → Action Pop3Error Visit α) :
    FailsAlike client visit (mapError authError (sendAndCheck command) >>= next)
      (Account.reach >>= goesOn) ∧
    FailsAlike client visit (sendAndCheck command >>= next) (Account.reach >>= goesOn) := by
  obtain ⟨net, stranded, _⟩ := severs.stranded
  have failed := eq_error_of_returned (returned_sendAndCheck_of_isGone stranded.isGone command)
  have failed' : (Account.reach >>= goesOn) visit = .error (.io upgradingError) visit :=
    bind_of_error (Account.reach_of_eq severs.stream)
  refine ⟨⟨_, ?_, failed'⟩, ⟨_, ?_, failed'⟩⟩
  · rw [bind_of_error (mapError_of_error failed)]
    rfl
  · rw [bind_of_error failed]
    rfl

omit [Md5] in
/-- The checks before any credentials are sent. -/
theorem Account.Severs.checks
    (severs : account.Severs client visit)
    {username password : Str}
    {next : ClientM AccountServer Value}
    {ideal : Action Pop3Error Visit Value}
    (fails : FailsAlike client visit next ideal) :
    FailsAlike client visit
      (do
        let state ← gets Pop3Client.state
        ofResult (if state ≠ .connected then .error .notAuthenticated else .ok ())
        ofResult (checkNoCrlf username)
        ofResult (checkNoCrlf password)
        next)
      (do
        Account.mustBe false
        ofResult (checkNoCrlf username)
        ofResult (checkNoCrlf password)
        ideal) := by
  unfold FailsAlike
  rw [gets_bind_apply, if_neg (not_not.mpr severs.state), ofResult_ok_bind,
    bind_of_ok (Account.mustBe_of_eq severs.isOpen)]
  cases checkNoCrlf username with
  | error error => exact ⟨error, rfl, rfl⟩
  | ok _ =>
      rw [ofResult_ok_bind, ofResult_ok_bind]
      cases checkNoCrlf password with
      | error error => exact ⟨error, rfl, rfl⟩
      | ok _ => exact fails

/-- Without a stream a client gets from every call the error that its visitor may expect. -/
theorem Account.Severs.run
    (severs : account.Severs client visit)
    (call : Call) :
    FailsAlike client visit call.run (account.perform call) := by
  have unauthenticated : client.state ≠ .authenticated := by
    rw [severs.state]
    exact SessionState.noConfusion
  cases mailbox : call.isMailbox with
  | true =>
      have closed : visit.isOpen ≠ true := severs.isOpen ▸ Bool.false_ne_true
      rw [Account.perform_of_isMailbox mailbox]
      exact ⟨.notAuthenticated,
        congrArg returned (Call.run_of_ne_authenticated mailbox unauthenticated),
        bind_of_error (Account.mustBe_of_ne closed)⟩
  | false =>
      cases call with
      | capa =>
          simp only [Call.run, capa, bind_assoc]
          exact (severs.asks _ _ _).2
      | login username password =>
          simp only [Call.run, login, bind_assoc]
          exact severs.checks (severs.asks _ _ _).1
      | apop username password =>
          simp only [Call.run, apop, bind_assoc]
          refine severs.checks ?_
          unfold FailsAlike
          rw [gets_bind_apply, severs.greeting, extractApopTimestamp_greeting]
          cases account.timestamp with
          | none => exact ⟨_, rfl, rfl⟩
          | some timestamp => exact (severs.asks _ _ _).1
      | stls hostname =>
          obtain ⟨net, stranded, _⟩ := severs.stranded
          have notTls : visit.stream ≠ .tls := severs.stream ▸ InnerStream.noConfusion
          unfold FailsAlike
          rw [run_stls_of_plain unauthenticated stranded.encrypted, Account.perform,
            bind_of_ok (mayUpgrade_of_plain severs.isOpen notTls)]
          exact (severs.asks _ _ _).2
      | _ => cases mailbox

/-- Whatever is called, the stream stays lost. -/
theorem Account.Severs.after
    (severs : account.Severs client visit)
    (call : Call) :
    account.Severs (finalState (call.run client)) visit := by
  obtain ⟨error, failed, _⟩ := severs.run call
  obtain ⟨net, stranded, mails⟩ := severs.stranded
  have continues : Continues client (finalState (call.run client)) := by
    cases call.moves client with
    | continues continues _ => exact continues
    | authenticates _ _ isOk | encrypts _ _ _ isOk =>
        rw [failed] at isOk
        cases isOk
  exact
    { stream := severs.stream
      isOpen := severs.isOpen
      state := continues.state.trans severs.state
      greeting := continues.greeting.trans severs.greeting
      supportsPipelining := continues.supportsPipelining.trans severs.supportsPipelining
      stranded := ⟨net, call.preserves survivesSteps_stranded preserves_stranded_upgradeInPlace
        client stranded, mails⟩ }

end Severed

/-- Every call does what its visitor may expect. -/
theorem Call.attends_run
    (punctual : weather.late = false)
    (call : Call) :
    Follows (account.Attends weather) (clientMishaps weather) call.run
      (account.perform call) := by
  rintro visit client (meets | severs)
  · cases upgrades : call.upgrades with
    | false =>
        exact (call.meets_run punctual upgrades visit client meets).imp
          (fun given => ⟨given.1, .inl given.2⟩) id
    | true =>
        cases call with
        | stls hostname =>
            exact (attends_stls punctual meets hostname).imp id .inr
        | _ => cases upgrades
  · obtain ⟨error, failed, failed'⟩ := severs.run call
    rw [failed, failed']
    exact .inl ⟨rfl, .inr (severs.after call)⟩

/-! ## Whole sessions -/

/-- What is there for a client to see of its account. -/
structure Account.InTouch (client : Pop3Client AccountServer) (visit : Visit) : Prop where
  mails : client.transport.net.server.mails = visit.mails
  pending : client.transport.pending = []
  state : client.state = if visit.isOpen then .authenticated else .connected
  supportsPipelining : client.supportsPipelining = visit.supportsPipelining
  isEncrypted : client.isEncrypted = decide (visit.stream = .tls)

omit [Md5] in
theorem Account.Attends.inTouch
    {client : Pop3Client AccountServer}
    {visit : Visit}
    (attends : account.Attends weather client visit) :
    Account.InTouch client visit := by
  rcases attends with ⟨⟨session, tracks, visits⟩, goes⟩ | severs
  · exact
      { mails := (congrArg AccountServer.mails tracks.shows.server).trans visits.mails
        pending := tracks.shows.pending
        state := tracks.state.trans visits.state
        supportsPipelining := tracks.supportsPipelining.trans visits.supportsPipelining
        isEncrypted := goes.stream ▸ goes.encrypted }
  · obtain ⟨net, stranded, mails⟩ := severs.stranded
    exact
      { mails := stranded.net ▸ mails
        pending := by rw [Transport.pending, stranded.buffer, stranded.net]; rfl
        state := by rw [severs.isOpen]; exact severs.state
        supportsPipelining := severs.supportsPipelining
        isEncrypted := stranded.encrypted.trans (by rw [severs.stream]; rfl) }

/-- A sequence of calls of a session. -/
theorem attends_runs
    (calls : List Call)
    {client : Pop3Client AccountServer}
    {visit : Visit}
    (attends : account.Attends calm client visit) :
    List.Forall₂ (fun outcome expected =>
        outcome.1 = expected.1 ∧ Account.InTouch outcome.2 expected.2)
      (Call.runs calls client) (account.runs calls visit) ∧
      account.Attends calm (Call.runAll calls client) (account.runAll calls visit) := by
  induction calls generalizing client visit with
  | nil => exact ⟨.nil, attends⟩
  | cons call calls inductionHypothesis =>
      have follows : Follows (account.Attends calm) (clientMishaps calm) call.run _ :=
        call.attends_run rfl
      rw [clientMishaps_calm] at follows
      obtain ⟨same, attends'⟩ := (follows visit).of_none attends
      obtain ⟨rest, after⟩ := inductionHypothesis attends'
      exact ⟨.cons ⟨same, attends'.inTouch⟩ rest, after⟩

omit [Md5] in
theorem quit_eq [Server σ] :
    (quit : ClientM σ Unit) = (do
      let _ ← sendAndCheck "QUIT".toList
      modify fun client => { client with transport := client.transport.setClosed }) := by
  simp only [quit, sendAndCheck, bind_assoc]

/-- At the end of a session the marked messages are removed. -/
theorem quit_attends
    {client : Pop3Client AccountServer}
    {visit : Visit}
    (attends : account.Attends calm client visit) :
    returned (quit client) = returned (Account.leave visit) ∧
      (returned (quit client) = .ok () → (finalState (quit client)).isClosed = true) ∧
      (finalState (quit client)).transport.net.server.mails =
        (finalState (Account.leave visit)).mails := by
  rw [quit_eq, Account.leave]
  rcases attends with ⟨⟨session, tracks, visits⟩, _⟩ | severs
  · have follows : Follows (Tracks calm) (clientMishaps calm) (sendAndCheck "QUIT".toList)
        (ClientSession.partner.status "QUIT".toList :
          Action Pop3Error (ClientSession AccountServer) Str) :=
      tracks_status (by decide) (by decide)
    rw [clientMishaps_calm] at follows
    obtain ⟨log, answered⟩ :=
      status_of_granting (AccountServer.answer_quit session.dialogue.server)
    obtain ⟨same, tracks'⟩ := (follows session).of_none tracks
    rw [answered, returned_ok] at same
    rw [answered, finalState_ok] at tracks'
    rw [bind_of_ok (eq_ok_of_returned same), bind_of_ok (Account.reach_of_ne visits.usable)]
    refine ⟨rfl, fun _ => rfl, ?_⟩
    have server : (finalState (sendAndCheck "QUIT".toList client)).transport.net.server =
        session.dialogue.server.retire := tracks'.shows.server
    change (finalState (sendAndCheck "QUIT".toList client)).transport.net.server.mails =
      (if visit.isOpen then { visit with mails := visit.mails.commit } else visit).mails
    rw [server, AccountServer.retire, visits.isOpen]
    split
    · exact congrArg MailServer.commit visits.mails
    · exact visits.mails
  · obtain ⟨net, stranded, mails⟩ := severs.stranded
    have failed := eq_error_of_returned
      (returned_sendAndCheck_of_isGone stranded.isGone "QUIT".toList)
    have after : Stranded net.lose
        (finalState (sendAndCheck "QUIT".toList client)).transport :=
      (program_sendAndCheck _).preserves survivesSteps_stranded client stranded
    rw [bind_of_error failed, bind_of_error (Account.reach_of_eq severs.stream)]
    refine ⟨rfl, ?_, ?_⟩
    · intro succeeded
      cases succeeded
    · rw [finalState_error, after.net]
      exact mails

omit [Md5] in
/-- Whoever has connected is in a session. -/
theorem attends_connects
    {mails : MailServer}
    {net : Net AccountServer}
    (greets : account.Greets mails net)
    (isCalm : net.Within calm)
    {client : Pop3Client AccountServer}
    (connects : Connects net client) :
    account.Attends calm client { mails, stream := client.transport.stream } := by
  obtain ⟨stream, encrypted, notGone, secured, greeted⟩ := connects.greets_over
  rcases meets_greet rfl greets isCalm notGone secured with ⟨client', greeted', meets⟩ | gone
  · obtain rfl : client' = client := Except.ok.inj (greeted'.symm.trans greeted)
    have same : client'.transport.stream = stream := meets.2.stream
    exact .inl (same ▸ meets)
  · cases gone.1

/-- Whole sessions.  On a connection on which nothing is late and nothing is lost, over TLS or
not, with replies in any pieces: a client of an account returns for each call what its visitor
may expect, which is so for failed and repeated logins, for calls before and after them, for
batches with and without pipelining, and for upgrades, whether they are refused, succeed, or
fail and take the stream with them.  It keeps in touch with the account throughout, and `quit`
removes the messages that are marked then, unless there is no stream to ask over. -/
theorem session_refines_account
    {mails : MailServer}
    {net : Net AccountServer}
    (greets : account.Greets mails net)
    (isCalm : net.Within calm)
    (calls : List Call) :
    (∃ client, connect (.ok net) = .ok client) ∧
    ∀ client, Connects net client →
      let visit : Visit := { mails, stream := client.transport.stream }
      List.Forall₂ (fun outcome expected =>
          outcome.1 = expected.1 ∧ Account.InTouch outcome.2 expected.2)
        (Call.runs calls client) (account.runs calls visit) ∧
      let ended := quit (Call.runAll calls client)
      let left := Account.leave (account.runAll calls visit)
      returned ended = returned left ∧
        (returned ended = .ok () → (finalState ended).isClosed = true) ∧
        (finalState ended).transport.net.server.mails = (finalState left).mails := by
  constructor
  · have greeted := meets_greet rfl greets isCalm
      (InnerStream.noConfusion : InnerStream.plain ≠ .upgrading) (rfl : false = _)
    obtain ⟨client, connected, _⟩ := greeted.resolve_right fun gone => by cases gone.1
    exact ⟨client, connected⟩
  · intro client connects
    obtain ⟨expected, after⟩ := attends_runs calls (attends_connects greets isCalm connects)
    exact ⟨expected, quit_attends after⟩

end Visiting

/-- The account of the small mailbox. -/
def smallAccount : Account where
  username := "me".toList
  password := "secret".toList
  greeting := ⟨"ready <1@here>".toList, by decide, by decide⟩
  timestamp := some "<1@here>".toList
  isStamped stamp := by
    rw [← extractApopTimestamp_eq_some_iff]
    have found : extractApopTimestamp (trimStart "ready <1@here>".toList) =
        some "<1@here>".toList := by decide +kernel
    rw [found]
  listing := [⟨"PIPELINING".toList, by decide, by decide⟩]
  capabilities := [{ name := "PIPELINING".toList, arguments := [] }]
  lists := by
    refine .cons ⟨by decide, ?_⟩ .nil
    exact @Spells.field [] [] _ [] isBlank_nil (by decide) (by simp [IsApart])
      (.blank isBlank_nil)
  offersUpgrade := true
  handshake hostname :=
    if hostname = "here".toList then .completes else .fails "unknown issuer".toList
  positive := (smallServer.choices 0).positive
  negative := ⟨"who are you?".toList, by decide, by decide⟩

/-- An upgrade, a wrong password, the right one, and a message that is deleted. -/
theorem session_refines_smallAccount :
    let _ := emptyDigest
    let net : Net AccountServer :=
      { server := { account := smallAccount, mails := smallServer }
        wire := smallAccount.opening
        reads := List.replicate 40 (.arrive 1)
        handshake := smallAccount.handshake }
    let calls := [Call.stat, .stls "here".toList, .login "me".toList "guess".toList,
      .login "me".toList "secret".toList, .deleMany [1], .stat]
    (∃ client, connect (.ok net) = .ok client) ∧
    ∀ client, Connects net client →
      let visit : Visit := { mails := smallServer, stream := client.transport.stream }
      List.Forall₂ (fun outcome expected =>
          outcome.1 = expected.1 ∧ Account.InTouch outcome.2 expected.2)
        (Call.runs calls client) (smallAccount.runs calls visit) ∧
      let ended := quit (Call.runAll calls client)
      let left := Account.leave (smallAccount.runAll calls visit)
      returned ended = returned left ∧
        (returned ended = .ok () → (finalState ended).isClosed = true) ∧
        (finalState ended).transport.net.server.mails = (finalState left).mails :=
  @session_refines_account _ emptyDigest _ _ ⟨rfl, rfl, rfl, rfl⟩
    ⟨rfl, by simp [ReadTick.Within], by simp⟩ _

end Pop3
