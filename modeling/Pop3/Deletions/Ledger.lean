import Pop3.Deletions.Carrying
import Pop3.Deletions.Marks
import Pop3.Reconnecting.Credentials

/-!
# The caller's ledger

A caller of a reconnecting client writes down which deletions are pending, as the
outcomes of its operations tell.  Connections may be lost, reconnects may fail, and the
server may refuse whatever it likes.
-/

namespace Pop3

open Rust Pop3Client

/-! ## Connections that may be lost -/

/-- Connections may be lost at any point, and no reply is late. -/
def lossy : Weather := { lossy := true }

/-- The server has greeted, and waits for the first command. -/
structure Net.Greets (net : Net σ) : Prop where
  isOpen : net.isOpen = true
  inbound : net.inbound = []
  greeting : ∃ line, net.wire = line ++ [10] ∧ 10 ∉ line
  reads : ∀ tick ∈ net.reads, tick.Within lossy
  writes : ∀ tick ∈ net.writes, tick.Within lossy

/-- Whoever is dialed greets. -/
def Dial.Greets (dial : Dial σ) : Prop :=
  ∀ host port net, dial host port = .ok net → net.Greets

/-- Nothing that was asked for is unread, or the connection is lost. -/
def Sound (transport : Transport σ) : Prop :=
  (∃ dialogue : Dialogue σ, Shows lossy transport dialogue.view) ∨ Dead transport

theorem sound_greeting
    {net : Net σ}
    (greets : net.Greets)
    {stream : InnerStream}
    (usable : stream ≠ .upgrading)
    (encrypted : Bool) :
    Sound (finalState (Transport.readLine { stream, encrypted, net })) := by
  obtain ⟨line, wire, noFeed⟩ := greets.greeting
  let dialogue : Dialogue σ :=
    { server := net.server, log := net.trace.filter Event.isNoted }
  have shown : Shows lossy { stream, encrypted, net }
      { dialogue.view with pending := line ++ [10] } :=
    { server := rfl
      pending := wire
      isOpen := greets.isOpen
      isClosed := rfl
      log := rfl
      stream := usable
      unflushed := rfl
      inbound := greets.inbound
      reads := greets.reads
      writes := greets.writes }
  have whole : finalState (View.readLine { dialogue.view with pending := line ++ [10] }) =
      dialogue.view := by
    unfold View.readLine View.nextLine
    dsimp only
    rw [Transport.splitFeed_line noFeed]
    dsimp only
    split
    · rfl
    · rw [if_neg (by simp)]
      rfl
  rcases readLine_follows lossy _ _ shown with ⟨_, shown'⟩ | ⟨_, _, isLate, _⟩ | ⟨_, dead⟩
  · rw [whole] at shown'
    exact .inl ⟨dialogue, shown'⟩
  · exact absurd isLate Bool.false_ne_true
  · exact .inr dead

theorem sound_upgradeInPlace (hostname : Str) :
    Preserves Sound (Transport.upgradeInPlace hostname : TransportM σ Unit) := by
  intro transport sound
  rcases Transport.upgradeInPlace_cases hostname transport with
    ⟨error, run, _⟩ | ⟨error, run, _⟩ | ⟨run, _⟩
  · rw [run]
    exact sound
  · rw [run]
    exact .inr ⟨rfl, rfl⟩
  · rw [run]
    rcases sound with ⟨dialogue, shown⟩ | dead
    · exact .inl ⟨dialogue,
        { server := shown.server
          pending := rfl
          isOpen := shown.isOpen
          isClosed := shown.isClosed
          log := shown.log
          stream := InnerStream.noConfusion
          unflushed := rfl
          inbound := rfl
          reads := shown.reads
          writes := shown.writes }⟩
    · exact .inr ⟨dead.isOpen, rfl⟩

section Authentication

theorem isMultiLine_user (username : Str) :
    isMultiLine (utf8 ("USER ".toList ++ username)) = false := by
  have verb : utf8 "USER ".toList = [85, 83, 69, 82, 32] := by decide
  rw [isMultiLine_eq, utf8_append, verb]
  simp [List.isPrefixOf]

theorem isMultiLine_pass (password : Str) :
    isMultiLine (utf8 ("PASS ".toList ++ password)) = false := by
  have verb : utf8 "PASS ".toList = [80, 65, 83, 83, 32] := by decide
  rw [isMultiLine_eq, utf8_append, verb]
  simp [List.isPrefixOf]

theorem isMultiLine_apop (rest : Str) :
    isMultiLine (utf8 ("APOP ".toList ++ rest)) = false := by
  have verb : utf8 "APOP ".toList = [65, 80, 79, 80, 32] := by decide
  rw [isMultiLine_eq, utf8_append, verb]
  simp [List.isPrefixOf]

variable [AnsweringServer σ]

theorem sound_sendAndCheck
    {command : Str}
    (noFeed : '\n' ∉ command)
    (single : isMultiLine (utf8 command) = false) :
    Preserves (fun client : Pop3Client σ => Sound client.transport) (sendAndCheck command) := by
  rw [sendAndCheck_eq]
  refine Preserves.onTransport ?_
  rintro transport (⟨dialogue, shown⟩ | dead)
  · have gives : Gives (Shows lossy) (mishaps lossy) _ dialogue.view _ _ :=
      exchange_gives noFeed fun _ => rfl
    rw [Dialogue.status_view single, Dialogue.finalState_moved] at gives
    rcases gives transport shown with ⟨_, shown'⟩ | ⟨_, _, isLate, _⟩ | ⟨_, dead⟩
    · exact .inl ⟨_, shown'⟩
    · exact absurd isLate Bool.false_ne_true
    · exact .inr dead
  · refine .inr (Preserves.bind (survivesSteps_dead.send command) (fun _ => ?_) transport dead)
    exact .bind preserves_dead_readLine fun _ => .ofResult _

/-- The client is in sync, or its connection is lost. -/
def InSyncOrDead (client : Pop3Client σ) : Prop :=
  (∃ dialogue : Dialogue σ, InSync lossy client dialogue) ∨ Dead client.transport

omit [AnsweringServer σ] in
theorem InSyncOrDead.sound
    {client : Pop3Client σ}
    (inSync : InSyncOrDead client) :
    Sound client.transport :=
  inSync.imp_left fun ⟨dialogue, synced⟩ => ⟨dialogue, synced.shows⟩

/-- What a program comes to when it follows a dialogue. -/
theorem InSyncOrDead.follow
    {action : ClientM σ α}
    (program : Program True action)
    {ideal : Action Pop3Error (Dialogue σ) α}
    (follows : Follows (InSync lossy) (clientMishaps lossy) action ideal) :
    Preserves InSyncOrDead action := by
  rintro client (⟨dialogue, synced⟩ | dead)
  · rcases follows dialogue client synced with ⟨_, synced'⟩ | ⟨_, _, isLate, _⟩ | ⟨_, dead⟩
    · exact .inl ⟨_, synced'⟩
    · exact absurd isLate Bool.false_ne_true
    · exact .inr dead
  · exact .inr (program.preserves survivesSteps_dead client dead)

variable (isClear : ∀ (server : σ) command, (AnsweringServer.answer server command).2.IsClear)

include isClear

theorem sound_authenticated :
    Preserves (fun client : Pop3Client σ => Sound client.transport) authenticated := by
  have probe : Preserves InSyncOrDead (capa : ClientM σ (List Capability)) :=
    InSyncOrDead.follow program_capa (talks_dialogue lossy isClear).capa
  have keeps : Preserves InSyncOrDead (authenticated : ClientM σ Unit) :=
    .bind (.modify fun _ inSync =>
        inSync.imp_left fun ⟨dialogue, synced⟩ => ⟨dialogue, synced.shows, rfl⟩) fun _ =>
      .bind (.attempt probe) fun _ => .modify fun _ inSync =>
        inSync.imp_left fun ⟨dialogue, synced⟩ => ⟨dialogue, synced.shows, synced.authenticated⟩
  intro client sound
  exact (keeps { client with state := .authenticated }
    (sound.imp_left fun ⟨dialogue, shown⟩ => ⟨dialogue, shown, rfl⟩)).sound

variable [Md5]

theorem survivesAuthentication_sound :
    SurvivesAuthentication (Sound : Transport σ → Prop) where
  stls hostname :=
    .bind (.gets _) fun _ => .bind (.ofResult _) fun _ => .bind (.gets _) fun _ =>
      .bind (.ofResult _) fun _ =>
        .bind (sound_sendAndCheck (by decide) (by decide)) fun _ =>
          Preserves.onTransport (sound_upgradeInPlace hostname)
  login username password :=
    .bind (.gets _) fun _ => .bind (.ofResult _) fun _ =>
      .ofResult_bind fun _ user => .ofResult_bind fun _ pass =>
        .bind (.mapError (sound_sendAndCheck (by simp [noFeed_of_checkNoCrlf user])
            (isMultiLine_user username))) fun _ =>
          .bind (.mapError (sound_sendAndCheck (by simp [noFeed_of_checkNoCrlf pass])
              (isMultiLine_pass password))) fun _ =>
            sound_authenticated isClear
  apop username password := by
    refine .bind (.gets _) fun _ => .bind (.ofResult _) fun _ =>
      .ofResult_bind fun _ user => .bind (.ofResult _) fun _ => .bind (.gets _) fun _ =>
        .bind (.ofResult _) fun timestamp => ?_
    have digits : '\n' ∉ computeApopDigest timestamp password :=
      fun member => absurd (Md5.isHex _ _ member) (by decide)
    refine .bind (.mapError (sound_sendAndCheck ?_ ?_)) fun _ => sound_authenticated isClear
    · simp [noFeed_of_checkNoCrlf user, digits]
    · rw [List.append_assoc, List.append_assoc]
      exact isMultiLine_apop _

theorem inSyncOrDead_connectAndAuth
    {builder : Pop3ClientBuilder}
    {username password : Str}
    {dial : Dial σ}
    (greets : dial.Greets)
    {client : Pop3Client σ}
    (connected : connectAndAuth builder username password dial = .ok client) :
    InSyncOrDead client := by
  have leaves : Leaves Sound (connectingAndAuth builder username password dial) none :=
    (leaves_connectingAndAuth
      (fun net found stream encrypted usable =>
        sound_greeting (greets _ _ net found) usable encrypted)
      (survivesAuthentication_sound isClear) username password).2.2
  obtain ⟨greeted, _, accepted⟩ := bind_eq_ok_iff.mp connected
  have authenticated := (authenticates_of_login (run_of_after accepted)).after
  rw [← returned_connectingAndAuth builder username password dial none] at connected
  exact (leaves.client client connected).imp_left
    fun ⟨dialogue, shown⟩ => ⟨dialogue, shown, authenticated⟩

end Authentication

/-! ## The ledger -/

/-- The deletions that are pending as far as the caller can tell from an outcome. -/
def ledgerAfter (ledger : List UInt32) (call : Call) :
    Except Pop3Error (Outcome Value) → List UInt32
  | .ok (.reconnected _) => []
  | .ok (.fresh value) =>
      match call, value with
      | .dele messageId, .done => ledger ++ [messageId]
      | .deleMany ids, .deletions items => ledger ++ accepted ids items
      | .rset, .done => []
      | _, _ => ledger
  | .error _ => ledger

/-- A result that warrants a reconnect takes nothing off the ledger. -/
theorem subset_ledgerAfter
    {ledger : List UInt32}
    {call : Call}
    {result : Except Pop3Error Value}
    (warranted : warrantsReconnect result = true) :
    ledger ⊆ ledgerAfter ledger call (result.map .fresh) := by
  cases result with
  | error error => exact List.Subset.refl _
  | ok value =>
      dsimp only [Except.map, ledgerAfter]
      split
      · exact List.subset_append_left _ _
      · exact List.subset_append_left _ _
      · cases warranted
      · exact List.Subset.refl _

section Standing

variable [AnsweringServer σ] {call : Call} {ledger : List UInt32}

/-- What a result adds to the ledger is marked. -/
theorem ledgerAfter_subset_marks
    (dialogue : Dialogue σ)
    (pending : ledger ⊆ dialogue.marks)
    (spared : call ≠ .rset →
      ledger ⊆ (finalState (Dialogue.partner.perform call dialogue)).marks) :
    ledgerAfter ledger call
        ((returned (Dialogue.partner.perform call dialogue)).map .fresh) ⊆
      (finalState (Dialogue.partner.perform call dialogue)).marks := by
  cases call with
  | dele messageId =>
      have kept := spared nofun
      cases run : Dialogue.partner.dele messageId dialogue with
      | ok _ last =>
          have marked := Dialogue.mem_marks_dele (congrArg returned run)
          rw [run, finalState_ok] at marked
          rw [Partner.perform, bind_of_ok run] at kept ⊢
          exact List.append_subset.mpr
            ⟨kept, List.cons_subset.mpr ⟨marked, List.nil_subset _⟩⟩
      | error error last =>
          rw [Partner.perform, bind_of_error run] at kept ⊢
          exact kept
  | deleMany ids =>
      have kept := spared nofun
      cases run : Partner.many Dialogue.partner.dele ids dialogue with
      | ok items last =>
          have marked := Dialogue.accepted_subset_marks (congrArg returned run)
          rw [run, finalState_ok] at marked
          rw [Partner.perform, bind_of_ok run] at kept ⊢
          exact List.append_subset.mpr ⟨kept, marked⟩
      | error error last =>
          rw [Partner.perform, bind_of_error run] at kept ⊢
          exact kept
  | rset =>
      cases run : Dialogue.partner.rset dialogue with
      | ok _ last =>
          rw [Partner.perform, bind_of_ok run]
          exact List.nil_subset _
      | error error last =>
          have same := Dialogue.marks_rset (congrArg returned run)
          rw [run, finalState_error] at same
          rw [Partner.perform, bind_of_error run]
          exact same ▸ pending
  | _ =>
      have kept := spared nofun
      generalize finalState _ = last at kept ⊢
      cases returned _ <;> exact kept

/-- The ledger has no other messages than those marked in the session, unless that is lost. -/
def Standing (ledger : List UInt32) (client : Pop3Client σ) : Prop :=
  (∃ dialogue : Dialogue σ, InSync lossy client dialogue) ∧ ledger ⊆ client.deletions.marks ∨
    Dead client.transport

omit [AnsweringServer σ] in
theorem Standing.mono
    {client : Pop3Client σ}
    {fewer : List UInt32}
    (standing : Standing ledger client)
    (subset : fewer ⊆ ledger) :
    Standing fewer client :=
  standing.imp_left fun ⟨inSync, pending⟩ => ⟨inSync, List.Subset.trans subset pending⟩

omit [AnsweringServer σ] in
theorem InSyncOrDead.standing
    {client : Pop3Client σ}
    (inSync : InSyncOrDead client) :
    Standing [] client :=
  inSync.imp_left fun synced => ⟨synced, List.nil_subset _⟩

variable [Md5]

/-- A call keeps the ledger standing, if the caller enters its result. -/
theorem standing_run
    (isClear : ∀ (server : σ) command, (AnsweringServer.answer server command).2.IsClear)
    (command : call.isCommand = true)
    {client : Pop3Client σ}
    (standing : Standing ledger client) :
    Standing (ledgerAfter ledger call ((returned (call.run client)).map .fresh))
      (finalState (call.run client)) := by
  rcases standing with ⟨⟨dialogue, inSync⟩, pending⟩ | dead
  · have lined : Lined client.transport :=
      fun _ => ⟨inSync.shows.unflushed, inSync.shows.inbound, inSync.shows.stream⟩
    rcases call.follows rfl isClear command dialogue client inSync with
      ⟨same, inSync'⟩ | ⟨_, _, isLate, _⟩ | ⟨_, dead⟩
    · have marks := Pop3Client.deletions_eq_of_shows inSync.shows
      have marks' := Pop3Client.deletions_eq_of_shows inSync'.shows
      have spared := fun spares => List.Subset.trans pending
        (call.marks_subset command spares lined)
      rw [marks'] at spared
      rw [marks] at pending
      refine .inl ⟨⟨_, inSync'⟩, ?_⟩
      rw [same, marks']
      exact ledgerAfter_subset_marks dialogue pending spared
    · exact absurd isLate Bool.false_ne_true
    · exact .inr dead
  · exact .inr ((call.program_run command).preserves survivesSteps_dead client dead)

end Standing

/-! ## Runs -/

namespace ReconnectingClient

variable [AnsweringServer σ] [Md5] {call : Call} {reconnecting : ReconnectingClient σ}

/-- The ledger after a run. -/
def ledger : List UInt32 → List Call → ReconnectingClient σ → List UInt32
  | pending, [], _ => pending
  | pending, call :: calls, reconnecting =>
      ledger (ledgerAfter pending call (returned (perform call reconnecting))) calls
        (finalState (perform call reconnecting))

/-- The reconnect succeeds, and the command that is repeated fails: the caller gets its error,
which does not say that the session is a new one. -/
def hidesRenewal (call : Call) (reconnecting : ReconnectingClient σ) : Bool :=
  match (attempted call reconnecting).dialing with
  | .ok client _ =>
      warrantsReconnect (firstResult call reconnecting) && !(returned (call.run client)).isOk
  | .error _ _ => false

/-- No session with pending deletions is replaced without the caller being told. -/
def TellsOfRenewals (pending : List UInt32) (calls : List Call)
    (reconnecting : ReconnectingClient σ) : Prop :=
  ∀ before call after, calls = before ++ call :: after →
    hidesRenewal call (performAll before reconnecting) = true →
      ledger pending before reconnecting = []

section Standing

variable
  (isClear : ∀ (server : σ) command, (AnsweringServer.answer server command).2.IsClear)
  {pending : List UInt32}

include isClear

/-- One operation keeps the ledger standing, if it hides no renewal. -/
theorem standing_perform
    (command : call.isCommand = true)
    (greets : ∀ number, (reconnecting.dials number).Greets)
    (standing : Standing pending reconnecting.client)
    (tells : hidesRenewal call reconnecting = true → pending = []) :
    Standing (ledgerAfter pending call (returned (perform call reconnecting)))
      (finalState (perform call reconnecting)).client := by
  have first : Standing (ledgerAfter pending call ((firstResult call reconnecting).map .fresh))
      (attempted call reconnecting).client :=
    standing_run isClear command standing
  have way := performs command reconnecting
  unfold hidesRenewal at tells
  generalize perform call reconnecting = result at way
  cases way with
  | stays _ =>
      rw [returned_ofResult, finalState_ofResult]
      exact first
  | refused warranted _ => exact first.mono (subset_ledgerAfter warranted)
  | @renewed client settings warranted connected =>
      rw [connected, warranted] at tells
      dsimp only [Bool.true_and] at tells
      obtain ⟨number, _, _, authenticated⟩ := exists_dial_of_retry connected
      have renewed : Standing [] client :=
        (inSyncOrDead_connectAndAuth isClear (greets number) authenticated).standing
      have again := (standing_run isClear command renewed).mono (List.nil_subset _)
      rw [returned_ofResult, finalState_ofResult]
      cases second : returned (call.run client) with
      | ok value => exact again
      | error error =>
          rw [second] at tells
          rw [tells rfl]
          exact again

theorem standing_performAll
    {calls : List Call}
    (commands : ∀ call ∈ calls, call.isCommand = true)
    (greets : ∀ number, (reconnecting.dials number).Greets)
    (standing : Standing pending reconnecting.client)
    (tells : TellsOfRenewals pending calls reconnecting) :
    Standing (ledger pending calls reconnecting) (performAll calls reconnecting).client := by
  induction calls generalizing pending reconnecting with
  | nil => exact standing
  | cons call calls inductionHypothesis =>
      obtain ⟨command, rest⟩ := List.forall_mem_cons.mp commands
      refine inductionHypothesis rest ?_
        (standing_perform isClear command greets standing (tells [] call calls rfl)) ?_
      · rw [dials_perform command]
        exact greets
      · rintro before later after rfl
        exact tells (call :: before) later after rfl

end Standing

end ReconnectingClient

/-! ## A refusal after a reconnect -/

/-- A server that refuses one command, and accepts every other. -/
structure Refusing where
  refused : Str

instance : AnsweringServer Refusing where
  answer server command :=
    (server, {
      isPositive := command ≠ utf8 server.refused
      text := .blank
      body := [] })

/-- Connections to the server, the first of which is lost before the second reply after the
login. -/
def Refusing.dropping (server : Refusing) : ReconnectingClientBuilder Refusing where
  builder := { hostname := [] }
  dials number := { connects _ _ := .ok {
    server
    wire := utf8 "+OK\r\n".toList
    reads := if number = 0 then List.replicate 5 (.arrive 99) ++ [.drop .endOfFile] else [] } }

theorem greets_dropping (server : Refusing) (number : Nat) :
    (server.dropping.dials number).Greets := by
  rintro host port net ⟨⟩
  exact
    { isOpen := rfl
      inbound := rfl
      greeting := ⟨utf8 "+OK\r".toList, by dsimp only; decide, by decide⟩
      reads := by
        intro tick member
        dsimp only at member
        split at member
        · simp only [List.mem_append, List.mem_replicate, List.mem_singleton] at member
          rcases member with ⟨_, rfl⟩ | rfl
          · trivial
          · rfl
        · cases member
      writes := List.forall_mem_nil _ }

theorem eq_ok_of_isOk
    {result : EStateM.Result ε S Unit}
    (isOk : (returned result).isOk = true) :
    result = .ok () (finalState result) := by
  cases result with
  | ok value last => rfl
  | error error last => cases isOk

end Pop3
