import Pop3.Conversation
import Pop3.Connection.Readiness
import Pop3.Connection.Traces

/-!
# Authenticated means the server said so

A client enters the authenticated state only when the server has accepted its
credentials, if no earlier reply was unread when it sent them.
-/

namespace Pop3

open Rust Pop3Client

/-! ## Connections in use -/

/-- The transport can carry commands while replies may be late, or its stream is gone. -/
def Usable (transport : Transport σ) : Prop := Ready late transport ∨ IsGone transport

theorem survivesSteps_usable [Server σ] : SurvivesSteps (Usable : Transport σ → Prop) :=
  (survivesSteps_ready rfl).or lasting_true.steps

/-- An upgrade leaves a stream that can be used, or none. -/
theorem preserves_usable_upgradeInPlace (hostname : Str) :
    Preserves Usable (Transport.upgradeInPlace hostname : TransportM σ Unit) := by
  intro transport usable
  rcases Transport.upgradeInPlace_cases hostname transport with
    ⟨error, run, _⟩ | ⟨error, run, _⟩ | ⟨run, _, plain⟩
  · rw [run]
    exact usable
  · rw [run]
    exact .inr ⟨rfl, trivial⟩
  · rw [run]
    rcases usable with ready | ⟨upgrading, _⟩
    · exact .inl
        { stream := InnerStream.noConfusion
          unflushed := rfl
          inbound := rfl
          reads := ready.reads
          writes := ready.writes }
    · rw [plain] at upgrading
      cases upgrading

/-- A new connection, on which replies may be late. -/
structure Net.IsFresh (net : Net σ) : Prop where
  inbound : net.inbound = []
  reads : ∀ tick ∈ net.reads, tick.Within late
  writes : ∀ tick ∈ net.writes, tick.Within late

/-- The client that connecting gives. -/
inductive Connects (net : Net σ) (client : Pop3Client σ) : Prop
  | plain : connect (.ok net) = .ok client → Connects net client
  | tls {hostname : Str} {prepared : Handshake} :
      connectTls hostname prepared (.ok net) = .ok client → Connects net client

theorem eq_of_greet
    {transport : Transport σ}
    {client : Pop3Client σ}
    (greets : greet transport = .ok client) :
    client.state = .connected ∧
      client.transport = finalState (Transport.readLine transport) := by
  unfold greet at greets
  split at greets
  · cases greets
  · rename_i run
    split at greets
    · cases greets
    · cases greets
      rw [run]
      exact ⟨rfl, rfl⟩

/-- Connecting reads the greeting of a new transport. -/
theorem Connects.greets
    {net : Net σ}
    {client : Pop3Client σ}
    (connects : Connects net client) :
    ∃ stream encrypted, stream ≠ .upgrading ∧
      greet { stream, encrypted, net } = .ok client := by
  rcases connects with greets | greets
  · exact ⟨.plain, false, InnerStream.noConfusion, greets⟩
  · obtain ⟨transport, opened, greets⟩ := bind_eq_ok_iff.mp greets
    obtain ⟨_, _, found, _, rfl⟩ := Transport.connectTls_eq_ok.mp opened
    cases found
    exact ⟨.tls, true, InnerStream.noConfusion, greets⟩

theorem Connects.usable
    {net : Net σ}
    (fresh : net.IsFresh)
    {client : Pop3Client σ}
    (connects : Connects net client) :
    client.state = .connected ∧ Usable client.transport := by
  obtain ⟨stream, encrypted, notGone, greets⟩ := connects.greets
  obtain ⟨state, transport⟩ := eq_of_greet greets
  have ready : Ready late { stream, encrypted, net : Transport σ } :=
    { stream := notGone
      unflushed := rfl
      inbound := fresh.inbound
      reads := fresh.reads
      writes := fresh.writes }
  rw [transport]
  exact ⟨state, .inl (preserves_ready_readLine rfl _ ready)⟩

/-! ## States -/

section States

variable [Server σ]

/-- No program changes the state of the session. -/
theorem Program.state
    {action : ClientM σ α}
    (program : Program True action)
    (client : Pop3Client σ) :
    (finalState (action client)).state = client.state := by
  have keeps : Preserves (fun after : Pop3Client σ => after.state = client.state) action := by
    refine Built.preserves program fun step primitive => ?_
    have field : ∀ {ε β : Type} (inner : Action ε (Transport σ) β),
        Preserves (fun after : Pop3Client σ => after.state = client.state)
          (transportField.run inner) := by
      intro _ _ inner state same
      rw [Field.finalState_run]
      exact same
    cases primitive with
    | send command => exact field _
    | read => exact field _
    | window verb ids => exact .attempt (field _)
    | look read => exact .gets read
  exact keeps client rfl

end States

/-! ## Accepted commands -/

/-- The server said `+OK`. -/
def IsPositive (reply : List UInt8) : Prop := utf8 "+OK".toList <+: reply

instance (reply : List UInt8) : Decidable (IsPositive reply) :=
  inferInstanceAs (Decidable (_ <+: _))

/-- All that the server has replied to a command. -/
def Pop3Client.repliesTo (command : Str) (client : Pop3Client σ) : List (List UInt8) :=
  client.noted.filterMap fun event =>
    match event with
    | .answered heard reply => if heard = utf8 command then some reply else none
    | _ => none

/-- A positive status that was read after a command, with nothing unread before
it, is the beginning of the reply to that command. -/
theorem View.answered_of_status_ok [Server σ]
    {view after : View σ}
    {command text : Str}
    (nothing : view.pending = [])
    (run : View.partner.status command view = .ok text after) :
    ∃ reply, IsPositive reply ∧ after.log = view.log ++ [.answered (utf8 command) reply] := by
  change View.readStatus (view.hear command) = _ at run
  unfold View.readStatus at run
  cases read : View.readLine (view.hear command) with
  | error error middle =>
      rw [bind_of_error read] at run
      cases run
  | ok line middle =>
      rw [bind_of_ok read] at run
      obtain ⟨rest, next, nonempty, rfl⟩ := View.eq_of_readLine_ok read
      have pending := View.append_of_nextLine next
      cases positive : parseStatusLine line with
      | error error =>
          rw [positive] at run
          cases run
      | ok text' =>
          rw [positive] at run
          cases run
          unfold View.hear at pending ⊢
          split at pending
          · rename_i isOpen
            rw [if_pos isOpen]
            dsimp only at pending ⊢
            refine ⟨_, ?_, rfl⟩
            rw [nothing, List.nil_append] at pending
            rw [pending]
            obtain ⟨behind, rfl⟩ := prefix_of_parseStatusLine positive
            rw [IsPositive, utf8_append, List.append_assoc]
            exact List.prefix_append _ _
          · rw [nothing] at pending
            have empty := (List.append_eq_nil_iff.mp pending.symm).1
            exact absurd ((utf8_eq_nil_iff line).mp empty) nonempty

section Exchanges

variable [Server σ]

theorem sendAndCheck_answered
    {command text : Str}
    (noFeed : '\n' ∉ command)
    {client : Pop3Client σ}
    (usable : Usable client.transport)
    (nothing : client.transport.pending = [])
    (accepted : returned (sendAndCheck command client) = .ok text) :
    ∃ reply, IsPositive reply ∧ (finalState (sendAndCheck command client)).noted =
      client.noted ++ [.answered (utf8 command) reply] := by
  rw [sendAndCheck_eq, Field.returned_run] at accepted
  rw [sendAndCheck_eq, Field.finalState_run]
  rcases usable with ready | gone
  · have nothingLost : late.lossy → client.transport.view.pending = [] := by simp [late]
    rcases exchange_gives noFeed nothingLost _ ready.shows with
      ⟨same, shown⟩ | ⟨_, failed, _⟩ | ⟨lossy, _⟩
    · have run := eq_ok_of_returned (same.symm.trans accepted)
      obtain ⟨reply, positive, log⟩ := View.answered_of_status_ok
        (show client.transport.view.pending = [] from nothing) run
      exact ⟨reply, positive, shown.log.trans log⟩
    · cases failed.symm.trans accepted
    · cases lossy
  · obtain ⟨error, failed⟩ := failsWhenGone_sendCommand command client.transport gone
    have stops : returned ((do
        Transport.sendCommand command
        let line ← Transport.readLine
        ofResult (parseStatusLine line) : TransportM σ Str) client.transport) =
          .error error := by
      rw [bind_of_error (eq_error_of_returned failed)]
      rfl
    cases stops.symm.trans accepted

end Exchanges

/-! ## One call -/

/-- The server has said `+OK` to the credentials of this call, in the dialogue
between these two clients. -/
def Vouched [Md5] (call : Call) (before after : Pop3Client σ) : Prop :=
  match call with
  | .login username password => ∃ userReply passReply rest,
      after.noted = before.noted ++
        .answered (utf8 ("USER ".toList ++ username)) userReply ::
        .answered (utf8 ("PASS ".toList ++ password)) passReply :: rest ∧
      IsPositive userReply ∧ IsPositive passReply
  | .apop username password => ∃ timestamp reply rest,
      extractApopTimestamp before.greeting = some timestamp ∧
      after.noted = before.noted ++
        .answered (utf8 ("APOP ".toList ++ username ++ " ".toList ++
          computeApopDigest timestamp password)) reply :: rest ∧
      IsPositive reply
  | _ => False

section Calls

variable [Server σ]

/-- Nothing is unread when the call sends its credentials. -/
def SendsClean (call : Call) (client : Pop3Client σ) : Prop :=
  match call with
  | .login username password =>
      client.state = .connected → checkNoCrlf username = .ok () →
        checkNoCrlf password = .ok () →
          client.transport.pending = [] ∧
          ((returned (sendAndCheck ("USER ".toList ++ username) client)).isOk →
            (finalState (sendAndCheck ("USER ".toList ++ username) client)).transport.pending
              = [])
  | .apop username password =>
      client.state = .connected → checkNoCrlf username = .ok () →
        checkNoCrlf password = .ok () → client.transport.pending = []
  | _ => True

/-- What the probe of the capabilities adds to the dialogue comes last. -/
theorem noted_authenticated (client : Pop3Client σ) :
    ∃ rest, (finalState (authenticated client)).noted = client.noted ++ rest := by
  have grows : Lasting (fun _ _ => True) fun trace => client.transport.net.trace <+: trace :=
    lasting_begins _
  have grown := (preserves_authenticated grows.steps client ⟨trivial, List.prefix_rfl⟩).trace
  obtain ⟨rest, same⟩ := grown.filter Event.isNoted
  exact ⟨rest, same.symm⟩

/-- A text without CR and LF. -/
theorem noFeed_of_checkNoCrlf
    {text : Str}
    (checked : checkNoCrlf text = .ok ()) :
    '\n' ∉ text := by
  unfold checkNoCrlf at checked
  split at checked
  · cases checked
  · rename_i neither
    exact fun member => neither (.inr member)

/-- The client fails, as unauthenticated as it was. -/
def Stays (client : Pop3Client σ) (result : EStateM.Result Pop3Error (Pop3Client σ) Unit) :
    Prop :=
  (finalState result).state = client.state ∧ ∃ error, returned result = .error error

omit [Server σ] in
theorem stays_throw (client : Pop3Client σ) (error : Pop3Error) :
    Stays client (.error error client) :=
  ⟨rfl, error, rfl⟩

/-- After a program with its errors converted, the rest goes on or nothing has changed. -/
theorem goesOn_or_stays
    {action : ClientM σ α}
    (program : Program True action)
    (convert : Pop3Error → Pop3Error)
    (next : α → ClientM σ Unit)
    (client : Pop3Client σ) :
    (∃ value, returned (action client) = .ok value ∧
      (mapError convert action >>= next) client = next value (finalState (action client))) ∨
    Stays client ((mapError convert action >>= next) client) := by
  have state := program.state client
  cases run : action client with
  | ok value middle => exact .inl ⟨value, rfl, bind_of_ok (mapError_of_ok run)⟩
  | error error middle =>
      rw [run] at state
      rw [bind_of_error (mapError_of_error run)]
      exact .inr ⟨state, _, rfl⟩

omit [Server σ] in
/-- The checks before any credentials are sent. -/
theorem passes_or_stays
    (username password : Str)
    (next : ClientM σ Unit)
    (client : Pop3Client σ) :
    (client.state = .connected ∧ checkNoCrlf username = .ok () ∧ checkNoCrlf password = .ok () ∧
      (do
        let state ← gets Pop3Client.state
        ofResult (if state ≠ .connected then .error .notAuthenticated else .ok ())
        ofResult (checkNoCrlf username)
        ofResult (checkNoCrlf password)
        next : ClientM σ Unit) client = next client) ∨
    Stays client ((do
        let state ← gets Pop3Client.state
        ofResult (if state ≠ .connected then .error .notAuthenticated else .ok ())
        ofResult (checkNoCrlf username)
        ofResult (checkNoCrlf password)
        next : ClientM σ Unit) client) := by
  rw [gets_bind_apply]
  by_cases connected : client.state = .connected
  · rw [if_neg (not_not.mpr connected), ofResult_ok_bind]
    cases checkNoCrlf username with
    | error error => exact .inr (stays_throw client error)
    | ok _ =>
        rw [ofResult_ok_bind]
        cases checkNoCrlf password with
        | error error => exact .inr (stays_throw client error)
        | ok _ => exact .inl ⟨connected, rfl, rfl, rfl⟩
  · rw [if_pos connected]
    exact .inr (stays_throw client _)

/-- A login fails, or the server has accepted the user and then the password. -/
theorem login_vouched [Md5]
    {username password : Str}
    {client : Pop3Client σ}
    (usable : Usable client.transport)
    (clean : SendsClean (.login username password) client) :
    Stays client (login username password client) ∨
      Vouched (.login username password) client
        (finalState (login username password client)) := by
  unfold login
  rcases passes_or_stays username password _ client with ⟨connected, user, pass, passes⟩ | stays
  swap
  · exact .inl stays
  have noFeedUser := noFeed_of_checkNoCrlf user
  have noFeedPass := noFeed_of_checkNoCrlf pass
  obtain ⟨nothing, nothingLeft⟩ := clean connected user pass
  rw [passes]
  rcases goesOn_or_stays (program_sendAndCheck ("USER ".toList ++ username)) authError _
    client with ⟨text, accepted, goesOn⟩ | stays
  swap
  · exact .inl stays
  have nothing' := nothingLeft (by rw [accepted]; rfl)
  obtain ⟨userReply, userPositive, userNoted⟩ :=
    sendAndCheck_answered (by simp [noFeedUser]) usable nothing accepted
  have usable' : Usable (finalState
      (sendAndCheck ("USER ".toList ++ username) client)).transport :=
    (program_sendAndCheck _).preserves survivesSteps_usable client usable
  have state' := (program_sendAndCheck ("USER ".toList ++ username)).state client
  rw [goesOn]
  generalize finalState (sendAndCheck ("USER ".toList ++ username) client) = middle
    at nothing' userNoted usable' state' ⊢
  rcases goesOn_or_stays (program_sendAndCheck ("PASS ".toList ++ password)) authError _
    middle with ⟨text', accepted', goesOn'⟩ | ⟨state, failed⟩
  swap
  · exact .inl ⟨state.trans state', failed⟩
  obtain ⟨passReply, passPositive, passNoted⟩ :=
    sendAndCheck_answered (by simp [noFeedPass]) usable' nothing' accepted'
  rw [goesOn']
  obtain ⟨rest, noted⟩ := noted_authenticated
    (finalState (sendAndCheck ("PASS ".toList ++ password) middle))
  refine .inr ⟨userReply, passReply, rest, ?_, userPositive, passPositive⟩
  rw [noted, passNoted, userNoted, List.append_assoc, List.append_assoc]
  rfl

theorem noFeed_of_isHex
    {digest : Str}
    (isHex : ∀ digit ∈ digest, digit ∈ "0123456789abcdef".toList) :
    '\n' ∉ digest :=
  fun member => absurd (isHex _ member) (by decide)

/-- An APOP login fails, or the server has accepted it. -/
theorem apop_vouched [Md5]
    {username password : Str}
    {client : Pop3Client σ}
    (usable : Usable client.transport)
    (clean : SendsClean (.apop username password) client) :
    Stays client (apop username password client) ∨
      Vouched (.apop username password) client
        (finalState (apop username password client)) := by
  unfold apop
  rcases passes_or_stays username password _ client with ⟨connected, user, pass, passes⟩ | stays
  swap
  · exact .inl stays
  rw [passes, gets_bind_apply]
  cases stamp : extractApopTimestamp client.greeting with
  | none =>
      rw [okOr, ofResult_error_bind]
      exact .inl (stays_throw _ _)
  | some timestamp =>
    rw [okOr, ofResult_ok_bind]
    have noFeedUser := noFeed_of_checkNoCrlf user
    have noFeedDigest : '\n' ∉ computeApopDigest timestamp password :=
      noFeed_of_isHex (Md5.isHex _)
    have noFeed : '\n' ∉ "APOP ".toList ++ username ++ " ".toList ++
        computeApopDigest timestamp password := by
      simp [noFeedUser, noFeedDigest]
    rcases goesOn_or_stays (program_sendAndCheck _) authError _ client with
      ⟨text, accepted, goesOn⟩ | stays
    swap
    · exact .inl stays
    obtain ⟨reply, positive, noted⟩ :=
      sendAndCheck_answered noFeed usable (clean connected user pass) accepted
    rw [goesOn]
    obtain ⟨rest, noted'⟩ := noted_authenticated (finalState (sendAndCheck
      ("APOP ".toList ++ username ++ " ".toList ++
        computeApopDigest timestamp password) client))
    refine .inr ⟨timestamp, reply, rest, stamp, ?_, positive⟩
    rw [noted', noted, List.append_assoc]
    rfl

/-- STLS does not change the state of the session. -/
theorem stls_state (hostname : Str) (client : Pop3Client σ) :
    (finalState (stls hostname client)).state = client.state := by
  have keeps : Preserves (fun after : Pop3Client σ => after.state = client.state)
      (stls hostname) := by
    refine .bind (.gets _) fun _ => .bind (.ofResult _) fun _ => .bind (.gets _) fun _ =>
      .bind (.ofResult _) fun _ => .bind ?_ fun _ => ?_
    · exact fun before same => ((program_sendAndCheck _).state before).trans same
    · intro before same
      rw [Field.finalState_run]
      exact same
  exact keeps client rfl

end Calls

/-! ## Runs -/

/-- The calls that authenticate. -/
def Call.logsIn : Call → Bool
  | .login _ _ | .apop _ _ => true
  | _ => false

theorem Call.logsIn_of_isCommand {call : Call} (command : call.isCommand = true) :
    call.logsIn = false := by
  cases call with
  | stls | login | apop => cases command
  | _ => rfl

section Running

variable [Server σ] [Md5]

omit [Server σ] in
theorem vouched_of_wrapped
    {call : Call}
    {action : ClientM σ Unit}
    {client : Pop3Client σ}
    (either : Stays client (action client) ∨ Vouched call client (finalState (action client))) :
    (finalState ((do action; return Value.done) client)).state = client.state ∧
        (∃ error, returned ((do action; return Value.done) client) = .error error) ∨
      Vouched call client (finalState ((do action; return Value.done) client)) := by
  rw [finalState_bind_pure action fun _ => Value.done]
  rcases either with ⟨state, error, failed⟩ | vouched
  · refine .inl ⟨state, error, ?_⟩
    rw [returned_bind_pure action fun _ => Value.done, failed]
    rfl
  · exact .inr vouched

/-- A call leaves the state of the session as it was, and fails if it was to
change it, or the server has vouched for it. -/
theorem Call.vouched
    {call : Call}
    {client : Pop3Client σ}
    (usable : Usable client.transport)
    (clean : SendsClean call client) :
    (finalState (call.run client)).state = client.state ∧
        (call.logsIn = true → ∃ error, returned (call.run client) = .error error) ∨
      Vouched call client (finalState (call.run client)) := by
  by_cases command : call.isCommand = true
  · refine .inl ⟨(call.program_run command).state client, fun logsIn => ?_⟩
    rw [Call.logsIn_of_isCommand command] at logsIn
    cases logsIn
  · cases call with
    | stls hostname =>
        left
        refine ⟨?_, fun logsIn => by cases logsIn⟩
        rw [Call.run, finalState_bind_pure (Pop3Client.stls hostname) fun _ => Value.done]
        exact stls_state hostname client
    | login username password =>
        exact (vouched_of_wrapped (login_vouched usable clean)).imp_left
          fun ⟨state, failed⟩ => ⟨state, fun _ => failed⟩
    | apop username password =>
        exact (vouched_of_wrapped (apop_vouched usable clean)).imp_left
          fun ⟨state, failed⟩ => ⟨state, fun _ => failed⟩
    | _ => exact absurd rfl command

/-- If nothing is ever unread when credentials are sent, the server has said
`+OK` to the credentials of every login that succeeds, and whoever is
authenticated has become so by such a login. -/
theorem authenticated_vouched
    {net : Net σ}
    (fresh : net.IsFresh)
    {client : Pop3Client σ}
    (connects : Connects net client)
    {calls : List Call}
    (clean : ∀ before call after, calls = before ++ call :: after →
      SendsClean call (Call.runAll before client)) :
    (∀ before call after, calls = before ++ call :: after → call.logsIn = true →
      ∀ value, returned (call.run (Call.runAll before client)) = .ok value →
        Vouched call (Call.runAll before client)
          (finalState (call.run (Call.runAll before client)))) ∧
    ((Call.runAll calls client).state = .authenticated →
      ∃ before call after, calls = before ++ call :: after ∧
        (Call.runAll before client).state ≠ .authenticated ∧
        Vouched call (Call.runAll before client)
          (finalState (call.run (Call.runAll before client)))) := by
  obtain ⟨state, usable⟩ := connects.usable fresh
  have usableAfter : ∀ before, Usable (Call.runAll before client).transport := fun before =>
    Call.preserves_runAll survivesSteps_usable preserves_usable_upgradeInPlace before usable
  constructor
  · intro before call after split logsIn value succeeded
    rcases Call.vouched (usableAfter before) (clean before call after split) with
      ⟨_, fails⟩ | vouched
    · obtain ⟨error, failed⟩ := fails logsIn
      cases failed.symm.trans succeeded
    · exact vouched
  · intro authenticated
    have notYet : client.state ≠ .authenticated := by simp [state]
    obtain ⟨before, call, after, split, absent, now⟩ := Call.exists_call_of_runAll
      (fun client => client.state = .authenticated) notYet authenticated
    refine ⟨before, call, after, split, absent, ?_⟩
    rcases Call.vouched (usableAfter before) (clean before call after split) with
      ⟨same, _⟩ | vouched
    · exact absurd (same.symm.trans now) absent
    · exact vouched

end Running

/-- Where a login is vouched for, its password has been accepted. -/
theorem exists_accepted_of_vouched [Md5]
    {username password : Str}
    {before after : Pop3Client σ}
    (vouched : Vouched (.login username password) before after) :
    ∃ reply ∈ after.repliesTo ("PASS ".toList ++ password), IsPositive reply := by
  obtain ⟨userReply, passReply, rest, noted, _, positive⟩ := vouched
  refine ⟨passReply, ?_, positive⟩
  rw [repliesTo, noted, List.mem_filterMap]
  exact ⟨.answered (utf8 ("PASS ".toList ++ password)) passReply, by simp, by simp⟩

/-- A new connection, with a greeting on its way and these replies to come. -/
def greetingNet (replies : List Str) (reads : List ReadTick) : Net Script where
  server := { replies := replies.map fun reply => { bytes := utf8 reply } }
  wire := utf8 "+OK\r\n".toList
  reads

theorem isFresh_greetingNet
    {reads : List ReadTick}
    (within : ∀ tick ∈ reads, tick.Within late)
    (replies : List Str) :
    (greetingNet replies reads).IsFresh :=
  ⟨rfl, within, by simp [greetingNet]⟩

/-- The client that has read that greeting. -/
def greeted (replies : List Str) (reads : List ReadTick) : Pop3Client Script where
  transport :=
    { stream := .plain
      encrypted := false
      net := { greetingNet replies reads with
        wire := [], trace := [.consumed (utf8 "+OK\r\n".toList)] } }
  greeting := []
  state := .connected
  isPipelining := false

theorem readUntil_greetingNet (replies : List Str) (reads : List ReadTick) :
    Transport.readUntil
        { stream := .plain
          encrypted := false
          net := greetingNet replies (.arrive 4 :: reads) } =
      (.line (utf8 "+OK\r\n".toList),
        { stream := .plain
          encrypted := false
          net := { greetingNet replies reads with wire := [] } }) := rfl

theorem connects_greeted (replies : List Str) (reads : List ReadTick) :
    Connects (greetingNet replies (.arrive 4 :: reads)) (greeted replies reads) := by
  apply Connects.plain
  change greet _ = _
  rw [greet, Transport.readLine_eq, readUntil_greetingNet]
  rfl

/-- The reply to the first `USER` is late: the second login takes it for the reply
to its own, and that one for the reply to `PASS`. -/
theorem exists_authenticated_not_vouched :
    ¬∀ (net : Net Script) (client : Pop3Client Script), net.IsFresh → Connects net client →
      ∀ calls : List Call,
        (@Call.runAll _ _ emptyDigest calls client).state = .authenticated →
          ∃ before call after, calls = before ++ call :: after ∧
            @Vouched _ emptyDigest call (@Call.runAll _ _ emptyDigest before client)
              (finalState (@Call.run _ _ emptyDigest call
                (@Call.runAll _ _ emptyDigest before client))) := by
  intro always
  have within : ∀ tick ∈ [ReadTick.arrive 4, .deadline], tick.Within late := by
    simp [ReadTick.Within, late]
  obtain ⟨before, call, after, split, vouched⟩ := always _ _
    (isFresh_greetingNet within ["+OK\r\n".toList, "+OK\r\n".toList, "-ERR\r\n".toList])
    (connects_greeted _ _)
    [.login "user".toList "wrong".toList, .login "user".toList "wrong".toList]
    (by decide +kernel)
  match before, split with
  | [], split =>
      injection split with first _
      subst first
      obtain ⟨reply, member, positive⟩ := @exists_accepted_of_vouched _ emptyDigest _ _ _ _ vouched
      revert reply
      decide +kernel
  | [_], split =>
      injection split with first split
      injection split with second _
      subst first second
      obtain ⟨reply, member, positive⟩ := @exists_accepted_of_vouched _ emptyDigest _ _ _ _ vouched
      revert reply
      decide +kernel
  | _ :: _ :: before, split => simp at split

/-- A login of a new client, with every command accepted. -/
theorem authenticated_vouched_greeted :
    let client := greeted (List.replicate 3 "+OK\r\n".toList) []
    let calls := [Call.login "user".toList "secret".toList]
    (∀ before call after, calls = before ++ call :: after → call.logsIn = true →
      ∀ value, returned (@Call.run _ _ emptyDigest call
          (@Call.runAll _ _ emptyDigest before client)) = .ok value →
        @Vouched _ emptyDigest call (@Call.runAll _ _ emptyDigest before client)
          (finalState (@Call.run _ _ emptyDigest call
            (@Call.runAll _ _ emptyDigest before client)))) ∧
    ((@Call.runAll _ _ emptyDigest calls client).state = .authenticated →
      ∃ before call after, calls = before ++ call :: after ∧
        (@Call.runAll _ _ emptyDigest before client).state ≠ .authenticated ∧
        @Vouched _ emptyDigest call (@Call.runAll _ _ emptyDigest before client)
          (finalState (@Call.run _ _ emptyDigest call
            (@Call.runAll _ _ emptyDigest before client)))) := by
  refine @authenticated_vouched _ _ emptyDigest _ (isFresh_greetingNet ?_ _) _
    (connects_greeted (List.replicate 3 "+OK\r\n".toList) []) _ ?_
  · simp [ReadTick.Within]
  · intro before call after split
    match before, split with
    | [], split =>
        injection split with first _
        subst first
        exact fun _ _ _ => ⟨by decide +kernel, fun _ => by decide +kernel⟩
    | _ :: before, split => simp at split

end Pop3
