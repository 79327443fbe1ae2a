import Pop3.Stls

/-!
# The flag, the stream and the buffers of a STARTTLS upgrade

In every run the encryption flag tells the truth about the stream.  Behind a
successful upgrade only what the server sends from then on is read, and behind
a failed one nothing is read or sent at all.
-/

namespace Pop3

open Rust Pop3Client

/-! ## Operations of both layers -/

/-- An operation of the transport, or of the client on top of it. -/
inductive Operation
  | sendCommand (command : Str)
  | readLine
  | readMultiline
  | sendWindow (verb : Str) (window : List UInt32)
  | upgradeInPlace (hostname : Str)
  | setClosed
  | call (request : Call)
  | quit

namespace Operation

/-- The client after an operation, whatever that returned. -/
def run [Server σ] [Md5] (client : Pop3Client σ) : Operation → Pop3Client σ
  | sendCommand command => finalState (transportField.run (Transport.sendCommand command) client)
  | readLine => finalState (transportField.run Transport.readLine client)
  | readMultiline => finalState (transportField.run Transport.readMultiline client)
  | sendWindow verb window =>
      finalState (transportField.run (Pop3Client.sendWindow verb window) client)
  | upgradeInPlace hostname =>
      finalState (transportField.run (Transport.upgradeInPlace hostname) client)
  | setClosed => { client with transport := client.transport.setClosed }
  | call request => finalState (request.run client)
  | quit => finalState (Pop3Client.quit client)

/-- The client after several operations. -/
def runAll [Server σ] [Md5] (operations : List Operation) (client : Pop3Client σ) :
    Pop3Client σ :=
  operations.foldl run client

/-- What steps, upgrades and closing keep, every operation keeps. -/
theorem preserves_run [Server σ] [Md5]
    {invariant : Transport σ → Prop}
    (steps : SurvivesSteps invariant)
    (upgrades : ∀ hostname, Preserves invariant
      (Transport.upgradeInPlace hostname : TransportM σ Unit))
    (closes : ∀ transport : Transport σ, invariant transport → invariant transport.setClosed)
    {client : Pop3Client σ}
    (holds : invariant client.transport)
    (operation : Operation) :
    invariant (operation.run client).transport := by
  have onTransport : ∀ {ε α : Type} {action : Action ε (Transport σ) α},
      Preserves invariant action →
        invariant (finalState (transportField.run action client)).transport :=
    fun preserves => Preserves.onTransport preserves client holds
  cases operation with
  | sendCommand command => exact onTransport (steps.send command)
  | readLine => exact onTransport steps.read
  | readMultiline => exact onTransport (preserves_readMultiline steps.read)
  | sendWindow verb window => exact onTransport (steps.window verb window)
  | upgradeInPlace hostname => exact onTransport (upgrades hostname)
  | setClosed => exact closes _ holds
  | call request => exact request.preserves steps upgrades client holds
  | quit =>
      have quits : Preserves (fun client : Pop3Client σ => invariant client.transport)
          Pop3Client.quit :=
        .bind (Preserves.onTransport (steps.send _)) fun _ =>
          .bind (Preserves.onTransport steps.read) fun _ =>
            .bind (.ofResult _) fun _ => .modify fun client holds => closes _ holds
      exact quits client holds

theorem preserves_runAll [Server σ] [Md5]
    {invariant : Transport σ → Prop}
    (steps : SurvivesSteps invariant)
    (upgrades : ∀ hostname, Preserves invariant
      (Transport.upgradeInPlace hostname : TransportM σ Unit))
    (closes : ∀ transport : Transport σ, invariant transport → invariant transport.setClosed)
    (operations : List Operation)
    {client : Pop3Client σ}
    (holds : invariant client.transport) :
    invariant (runAll operations client).transport := by
  induction operations generalizing client with
  | nil => exact holds
  | cons operation operations inductionHypothesis =>
      exact inductionHypothesis (preserves_run steps upgrades closes holds operation)

end Operation

/-! ## The flag -/

/-- The flag says whether the stream is encrypted. -/
def TellsTruth (stream : InnerStream) (encrypted : Bool) : Prop :=
  encrypted = true ↔ stream = .tls

/-- The flag of the transport tells the truth. -/
abbrev Truthful : Transport σ → Prop := Observed TellsTruth fun _ => True

theorem preserves_truthful_upgradeInPlace (hostname : Str) :
    Preserves Truthful (Transport.upgradeInPlace hostname : TransportM σ Unit) := by
  intro transport truthful
  rcases Transport.upgradeInPlace_cases hostname transport with
    ⟨error, run, _⟩ | ⟨error, run, unencrypted, _⟩ | ⟨run, _⟩
  · rw [run]
    exact truthful
  · rw [run]
    have off : ¬transport.encrypted = true := Bool.eq_false_iff.mp unencrypted
    exact ⟨iff_of_false off InnerStream.noConfusion, trivial⟩
  · rw [run]
    exact ⟨iff_of_true rfl rfl, trivial⟩

/-! ## What is read after a handshake -/

/-- Whatever has been read since the observation was this, or can still be
read, the server has sent since then. -/
def ReadsSince (start : List Event) (transport : Transport σ) : Prop :=
  ∃ events, transport.net.trace = start ++ events ∧
    (consumedBytes events ++ transport.pending).Sublist (repliedBytes events)

section Reading

variable {start : List Event} {transport : Transport σ}

/-- Bytes may get lost. -/
theorem ReadsSince.lose
    (reads : ReadsSince start transport)
    {other : Transport σ}
    (trace : other.net.trace = transport.net.trace)
    (fewer : other.pending.Sublist transport.pending) :
    ReadsSince start other := by
  obtain ⟨events, same, sent⟩ := reads
  exact ⟨events, trace.trans same, ((List.Sublist.refl _).append fewer).trans sent⟩

/-- Events that are neither replies nor reads change nothing. -/
theorem ReadsSince.log
    (reads : ReadsSince start transport)
    {event : Event}
    (noReply : repliedBytes [event] = [])
    (noRead : consumedBytes [event] = []) :
    ReadsSince start (transport.log event) := by
  obtain ⟨events, same, sent⟩ := reads
  refine ⟨events ++ [event], ?_, ?_⟩
  · rw [← List.append_assoc, ← same]
    rfl
  · rw [consumedBytes_append, repliedBytes_append, noReply, noRead, List.append_nil,
      List.append_nil]
    exact sent

theorem readsSince_receive [Server σ]
    (buffer : List UInt8)
    {net : Net σ}
    (reads : ReadsSince start { transport with buffer, net })
    (bytes : List UInt8) :
    ReadsSince start { transport with buffer, net := net.receive bytes } := by
  refine Net.receive_induction
    (motive := fun after => ReadsSince start { transport with buffer, net := after })
    (fun _ _ still _ _ => still) ?_ reads bytes
  rintro after ⟨events, same, sent⟩ isOpen
  rw [Net.receiveByte_feed isOpen]
  dsimp only at same ⊢
  generalize Server.respond after.server (Net.commandOf after.inbound) = reacted
  refine ⟨events ++ [.answered (Net.commandOf after.inbound) reacted.2.bytes], ?_, ?_⟩
  · rw [← List.append_assoc, ← same]
  · have grown := sent.append (List.Sublist.refl reacted.2.bytes)
    rw [consumedBytes_append, repliedBytes_append]
    simpa [consumedBytes, repliedBytes, Transport.pending] using grown

theorem survivesWrites_readsSince [Server σ] (start : List Event) :
    SurvivesWrites (ReadsSince start : Transport σ → Prop) := by
  refine .of_emit (fun _ _ reads => reads.lose rfl (List.Sublist.refl _)) ?_ ?_
  · intro transport bytes reads
    have popped : ReadsSince start { transport with
        net := { transport.net with writes := transport.net.writes.tail } } :=
      reads.lose rfl (List.Sublist.refl _)
    have logged : ReadsSince start { transport with
        net := { transport.net with writes := transport.net.writes.tail }.log
          (.wrote transport.stream bytes) } :=
      popped.log rfl rfl
    exact readsSince_receive transport.buffer logged bytes
  · exact fun transport reads => reads.lose rfl (by simp [Transport.pending, Net.lose])

theorem preserves_readsSince_readLine (start : List Event) :
    Preserves (ReadsSince start) (Transport.readLine : TransportM σ Str) := by
  intro transport reads
  obtain ⟨fewer, trace⟩ := Transport.readUntil_sublist transport
  rw [Transport.readLine_eq]
  unfold Transport.afterWait
  generalize Transport.readUntil transport = wait at fewer trace ⊢
  obtain ⟨read, after⟩ := wait
  cases read with
  | timedOut lost => exact (reads.lose trace fewer).log rfl rfl
  | failed error => exact reads.lose trace fewer
  | line bytes =>
      have consumed : ReadsSince start (after.log (.consumed bytes)) := by
        obtain ⟨events, same, sent⟩ := reads
        refine ⟨events ++ [.consumed bytes], ?_, ?_⟩
        · rw [← List.append_assoc, ← same, ← trace]
          rfl
        · have both := ((List.Sublist.refl (consumedBytes events)).append fewer).trans sent
          rw [consumedBytes_append, repliedBytes_append]
          have same_pending : (after.log (.consumed bytes)).pending = after.pending := rfl
          rw [same_pending]
          simpa [consumedBytes, repliedBytes, Transport.LineRead.taken] using both
      dsimp only
      split
      · exact consumed
      · split
        · exact consumed.lose rfl (List.Sublist.refl _)
        · exact consumed

theorem preserves_readsSince_upgradeInPlace (start : List Event) (hostname : Str) :
    Preserves (ReadsSince start) (Transport.upgradeInPlace hostname : TransportM σ Unit) := by
  intro transport reads
  rcases Transport.upgradeInPlace_cases hostname transport with
    ⟨error, run, _⟩ | ⟨error, run, _⟩ | ⟨run, _⟩
  · rw [run]
    exact reads
  · rw [run]
    exact reads.lose rfl (List.nil_sublist _)
  · rw [run]
    exact reads.lose rfl (List.nil_sublist _)

end Reading

/-! ## What is left of a stream that is gone -/

/-- The stream is gone, nothing is buffered, and these are all events so far. -/
structure Abandoned (trace : List Event) (transport : Transport σ) : Prop where
  stream : transport.stream = .upgrading
  buffer : transport.buffer = []
  trace : transport.net.trace = trace

section Abandoning

variable {events : List Event} {transport : Transport σ}

theorem Abandoned.readUntil (abandoned : Abandoned events transport) :
    Transport.readUntil transport = (.failed upgradingError, { transport with buffer := [] }) := by
  unfold Transport.readUntil
  simp only [abandoned.buffer, Transport.splitFeed, abandoned.stream, ↓reduceIte]

/-- Nothing is read. -/
theorem Abandoned.readLine (abandoned : Abandoned events transport) :
    Transport.readLine transport =
      .error (.io upgradingError) { transport with buffer := [] } := by
  rw [Transport.readLine_eq, abandoned.readUntil]
  rfl

theorem Abandoned.readMultiline (abandoned : Abandoned events transport) :
    ∃ error, returned (Transport.readMultiline transport) = .error error := by
  unfold Transport.readMultiline
  rw [gets_bind_apply, Transport.readMultilineUpTo, bind_of_error abandoned.readLine]
  exact ⟨_, rfl⟩

theorem preserves_abandoned_readLine :
    Preserves (Abandoned events) (Transport.readLine : TransportM σ Str) := by
  intro transport abandoned
  rw [abandoned.readLine]
  exact ⟨abandoned.stream, rfl, abandoned.trace⟩

/-- Nothing is written. -/
theorem survivesWrites_abandoned [Server σ] :
    SurvivesWrites (Abandoned events : Transport σ → Prop) where
  unflushed _ _ abandoned := ⟨abandoned.stream, abandoned.buffer, abandoned.trace⟩
  pollWrite transport bytes abandoned := by
    unfold Transport.pollWrite
    rw [abandoned.stream]
    exact abandoned

theorem preserves_abandoned_upgradeInPlace (hostname : Str) :
    Preserves (Abandoned events) (Transport.upgradeInPlace hostname : TransportM σ Unit) := by
  intro transport abandoned
  rcases Transport.upgradeInPlace_cases hostname transport with
    ⟨error, run, _⟩ | ⟨error, run, _⟩ | ⟨run, _, plain⟩
  · rw [run]
    exact abandoned
  · rw [run]
    exact ⟨rfl, rfl, abandoned.trace⟩
  · exact absurd (plain.symm.trans abandoned.stream) InnerStream.noConfusion

/-- An upgrade that fails behind the swap leaves the placeholder. -/
theorem abandoned_upgradeInPlace
    {hostname : Str}
    (empty : transport.buffer = [])
    (unencrypted : transport.encrypted = false)
    {error : Pop3Error}
    (failed : returned (Transport.upgradeInPlace hostname transport) = .error error) :
    Abandoned transport.net.trace
      (finalState (Transport.upgradeInPlace hostname transport)) := by
  rcases Transport.upgradeInPlace_cases hostname transport with
    ⟨_, _, ⟨full, _⟩ | ⟨encrypted, _⟩⟩ | ⟨_, run, _⟩ | ⟨run, _⟩
  · exact absurd empty full
  · rw [unencrypted] at encrypted
    cases encrypted
  · rw [run]
    exact ⟨rfl, rfl, rfl⟩
  · rw [run] at failed
    cases failed

end Abandoning

/-! ## Runs -/

section Running

variable [Server σ] [Md5] {client : Pop3Client σ}

/-- The stream is the placeholder, every read and every flushed send fails, and
nothing has been observed since then. -/
structure Unusable (events : List Event) (transport : Transport σ) : Prop where
  stream : transport.stream = .upgrading
  readLine : ∃ error, returned (Transport.readLine transport) = .error error
  readMultiline : ∃ error, returned (Transport.readMultiline transport) = .error error
  sendCommand : ∀ command, ∃ error,
    returned (Transport.sendCommand command transport) = .error error
  sendWindow : ∀ verb window, ∃ error,
    returned (Pop3Client.sendWindow verb window transport) = .error error
  trace : transport.net.trace = events

/-- What has been abandoned cannot be used by any later operation. -/
theorem unusable_of_abandoned
    {events : List Event}
    (abandoned : Abandoned events client.transport)
    (later : List Operation) :
    Unusable events (Operation.runAll later client).transport := by
  have still : Abandoned events (Operation.runAll later client).transport :=
    Operation.preserves_runAll (survivesWrites_abandoned.steps preserves_abandoned_readLine)
      preserves_abandoned_upgradeInPlace
      (fun _ holds => ⟨holds.stream, holds.buffer, holds.trace⟩) later abandoned
  exact
    { stream := still.stream
      readLine := ⟨_, congrArg returned still.readLine⟩
      readMultiline := still.readMultiline
      sendCommand := fun command =>
        failsWhenGone_sendCommand command _ ⟨still.stream, trivial⟩
      sendWindow := fun verb window =>
        failsWhenGone_sendWindow verb window _ ⟨still.stream, trivial⟩
      trace := still.trace }

/-- The transport of the client has just been connected. -/
def IsConnected (dialed : Except IoError (Net σ)) (client : Pop3Client σ) : Prop :=
  Transport.connectPlain dialed = .ok client.transport ∨
    ∃ hostname prepared, Transport.connectTls hostname prepared dialed = .ok client.transport

omit [Server σ] [Md5] in
theorem IsConnected.truthful
    {dialed : Except IoError (Net σ)}
    (connected : IsConnected dialed client) :
    Truthful client.transport := by
  rcases connected with same | ⟨hostname, prepared, same⟩
  · cases dialed with
    | error error => cases same
    | ok net =>
        injection same with same
        rw [← same]
        exact ⟨iff_of_false Bool.false_ne_true InnerStream.noConfusion, trivial⟩
  · obtain ⟨_, net, _, _, opened⟩ := Transport.connectTls_eq_ok.mp same
    rw [opened]
    exact ⟨iff_of_true rfl rfl, trivial⟩

omit [Server σ] [Md5] in
/-- A successful upgrade leaves nothing to read. -/
theorem pending_upgradeInPlace
    {transport : Transport σ}
    {hostname : Str}
    (upgraded : returned (Transport.upgradeInPlace hostname transport) = .ok ()) :
    (finalState (Transport.upgradeInPlace hostname transport)).pending = [] := by
  rw [Transport.finalState_upgradeInPlace upgraded]
  rfl

omit [Md5] in
/-- Whoever has upgraded had an agreement. -/
theorem agrees_of_stls
    {hostname : Str}
    (upgraded : returned (stls hostname client) = .ok ()) :
    AgreesToStls client := by
  rw [stls, gets_bind_apply] at upgraded
  by_cases isAuthenticated : client.state = .authenticated
  · rw [if_pos isAuthenticated] at upgraded
    cases upgraded
  · rw [if_neg isAuthenticated, ofResult_ok_bind, gets_bind_apply] at upgraded
    by_cases encrypted : client.transport.encrypted = true
    · rw [if_pos encrypted] at upgraded
      cases upgraded
    · rw [if_neg encrypted, ofResult_ok_bind] at upgraded
      cases run : sendAndCheck "STLS".toList client with
      | ok text after =>
          exact ⟨isAuthenticated, by simpa using encrypted, text, congrArg returned run⟩
      | error error after =>
          rw [bind_of_error run] at upgraded
          cases upgraded

/-- In every run from a new connection the encryption flag says whether the stream
is TLS; behind a successful upgrade only bytes that the server has sent since then
are read; and behind an upgrade that fails after the swap nothing can be read or
sent, and nothing reaches the old stream. -/
theorem encryption_in_every_run
    {dialed : Except IoError (Net σ)}
    (connected : IsConnected dialed client)
    (operations : List Operation) :
    let reached := Operation.runAll operations client
    (reached.transport.encrypted = true ↔ reached.transport.stream = .tls) ∧
    (∀ hostname, returned (stls hostname reached) = .ok () → ∀ later,
      ReadsSince (finalState (stls hostname reached)).transport.net.trace
        (Operation.runAll later (finalState (stls hostname reached))).transport) ∧
    (∀ hostname error, reached.transport.buffer = [] → reached.transport.encrypted = false →
      returned (Transport.upgradeInPlace hostname reached.transport) = .error error → ∀ later,
      Unusable reached.transport.net.trace (Operation.runAll later
        (Operation.run reached (.upgradeInPlace hostname))).transport) ∧
    (∀ hostname error, AgreesToStls reached → (afterAgreement reached).transport.buffer = [] →
      returned (stls hostname reached) = .error error → ∀ later,
      Unusable (afterAgreement reached).transport.net.trace
        (Operation.runAll later (finalState (stls hostname reached))).transport) := by
  intro reached
  have closes : ∀ {events : List Event} (transport : Transport σ),
      ReadsSince events transport → ReadsSince events transport.setClosed :=
    fun _ reads => reads
  refine ⟨?_, ?_, ?_, ?_⟩
  · have truthful : Truthful reached.transport :=
      Operation.preserves_runAll lasting_true.steps preserves_truthful_upgradeInPlace
        (fun _ holds => ⟨holds.stream, trivial⟩) operations connected.truthful
    exact truthful.stream
  · intro hostname upgraded later
    have agrees := agrees_of_stls upgraded
    rw [stls_of_agrees agrees, Field.returned_run] at upgraded
    rw [stls_of_agrees agrees, Field.finalState_run]
    apply Operation.preserves_runAll
      ((survivesWrites_readsSince _).steps (preserves_readsSince_readLine _))
      (preserves_readsSince_upgradeInPlace _) closes
    refine ⟨[], (List.append_nil _).symm, ?_⟩
    have nothing : (finalState (Transport.upgradeInPlace hostname
        (afterAgreement reached).transport)).pending = [] := pending_upgradeInPlace upgraded
    exact nothing ▸ List.Sublist.refl []
  · intro hostname error empty unencrypted failed later
    apply unusable_of_abandoned
    rw [Operation.run, Field.finalState_run]
    exact abandoned_upgradeInPlace empty unencrypted failed
  · intro hostname error agrees empty failed later
    have unencrypted : (afterAgreement reached).transport.encrypted = false :=
      encrypted_afterAgreement agrees
    rw [stls_of_agrees agrees, Field.returned_run] at failed
    apply unusable_of_abandoned
    rw [stls_of_agrees agrees, Field.finalState_run]
    exact abandoned_upgradeInPlace empty unencrypted failed

end Running

theorem encryption_scripted :
    let client := scripted ["+OK\r\n".toList, "+OK\r\n".toList]
    let upgraded := finalState (stls "mail".toList client)
    ReadsSince upgraded.transport.net.trace
      (@Operation.runAll _ _ emptyDigest [.call .capa, .quit] upgraded).transport :=
  have connected : IsConnected (.ok (scripted ["+OK\r\n".toList, "+OK\r\n".toList]).transport.net)
      (scripted ["+OK\r\n".toList, "+OK\r\n".toList]) := .inl rfl
  (@encryption_in_every_run _ _ emptyDigest _ _ connected []).2.1 "mail".toList
    (by decide +kernel) [.call .capa, .quit]

end Pop3
