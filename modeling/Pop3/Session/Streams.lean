import Pop3.Encryption
import Pop3.Rust.Failure
import Pop3.Session.Closing

/-!
# The stream of a session

A session goes over one stream, plain or TLS, until an upgrade replaces it.  A
handshake that fails leaves the placeholder, over which nothing can be sent: whatever
needs the server fails with one error then, and the network is not touched again.
-/

namespace Pop3

open Rust Pop3Client

/-! ## Going over a stream -/

/-- The session goes over this stream, and a handshake on its connection ends in this way. -/
structure GoesOver (stream : InnerStream) (handshake : Str → Handshake)
    (transport : Transport σ) : Prop where
  stream : transport.stream = stream
  encrypted : transport.encrypted = decide (transport.stream = .tls)
  handshake : transport.net.handshake = handshake

section Going

variable {stream : InnerStream} {handshake : Str → Handshake} {transport : Transport σ}

theorem Net.receive_handshake [Server σ] (net : Net σ) (bytes : List UInt8) :
    (net.receive bytes).handshake = net.handshake := by
  refine Net.receive_induction (motive := fun after => after.handshake = net.handshake)
    (fun _ _ same _ _ => same) (fun after same isOpen => ?_) rfl bytes
  rw [Net.receiveByte_feed isOpen]
  exact same

theorem preserves_goesOver_readLine :
    Preserves (GoesOver stream handshake) (Transport.readLine : TransportM σ Str) := by
  intro transport goes
  refine Transport.finalState_afterWait (motive := GoesOver stream handshake)
    (fun _ _ waited => ⟨waited.stream, waited.encrypted, waited.handshake⟩)
    (fun _ _ waited => ⟨waited.stream, waited.encrypted, waited.handshake⟩)
    (fun _ waited => ⟨waited.stream, waited.encrypted, waited.handshake⟩) ?_
  unfold Transport.readUntil
  split
  · exact ⟨goes.stream, goes.encrypted, goes.handshake⟩
  · split
    · exact ⟨goes.stream, goes.encrypted, goes.handshake⟩
    · refine ⟨goes.stream, goes.encrypted, ?_⟩
      rcases Transport.pollLine_net transport.buffer transport.net transport.net.reads with
        ⟨_, _, _, same⟩ | ⟨_, _, _, same⟩
      all_goals
        dsimp only
        rw [same]
        exact goes.handshake

theorem survivesSteps_goesOver [Server σ] :
    SurvivesSteps (GoesOver stream handshake : Transport σ → Prop) := by
  refine SurvivesWrites.steps ?_ preserves_goesOver_readLine
  exact .of_emit (fun _ _ goes => ⟨goes.stream, goes.encrypted, goes.handshake⟩)
    (fun _ _ goes => ⟨goes.stream, goes.encrypted,
      (Net.receive_handshake _ _).trans goes.handshake⟩)
    fun _ goes => ⟨goes.stream, goes.encrypted, goes.handshake⟩

/-- A connection is made over a plain stream, or over TLS. -/
theorem Connects.greets_over
    {net : Net σ}
    {client : Pop3Client σ}
    (connects : Connects net client) :
    ∃ stream encrypted, stream ≠ .upgrading ∧ encrypted = decide (stream = .tls) ∧
      greet { stream, encrypted, net } = .ok client := by
  cases connects with
  | plain greets => exact ⟨.plain, false, InnerStream.noConfusion, rfl, greets⟩
  | tls greets =>
      obtain ⟨transport, opened, greets⟩ := bind_eq_ok_iff.mp greets
      obtain ⟨_, _, found, _, rfl⟩ := Transport.connectTls_eq_ok.mp opened
      cases found
      exact ⟨.tls, true, InnerStream.noConfusion, rfl, greets⟩

/-- Every call but an upgrade keeps what the steps keep. -/
theorem Call.preserves_of_not_upgrades [Server σ] [Md5]
    {invariant : Transport σ → Prop}
    (steps : SurvivesSteps invariant)
    {call : Call}
    (noUpgrade : call.upgrades = false) :
    Preserves (fun client => invariant client.transport) (call.run : ClientM σ Value) := by
  by_cases command : call.isCommand = true
  · exact (call.program_run command).preserves steps
  · cases call with
    | stls hostname => cases noUpgrade
    | login username password =>
        exact .bind (preserves_login steps username password) fun _ => .pure _
    | apop username password =>
        exact .bind (preserves_apop steps username password) fun _ => .pure _
    | _ => exact absurd rfl command

/-! ## Upgrading -/

/-- How an upgrade ends when it comes to the handshake. -/
def Transport.shaken (transport : Transport σ) :
    Handshake → EStateM.Result Pop3Error (Transport σ) Unit
  | .completes => .ok () transport.encrypt
  | .invalidDnsName message => .error (.invalidDnsName message) transport.abandon
  | .fails message => .error (.tls message) transport.abandon

/-- On a plain stream with nothing behind the agreement, the handshake decides. -/
theorem GoesOver.upgrade
    (goes : GoesOver .plain handshake transport)
    (empty : transport.buffer = [])
    (hostname : Str) :
    Transport.upgradeInPlace hostname transport = transport.shaken (handshake hostname) := by
  have unencrypted : ¬transport.encrypted = true := by
    rw [goes.encrypted, goes.stream]
    exact Bool.false_ne_true
  have nothing : ¬0 < transport.buffer.length := by
    rw [empty]
    exact Nat.lt_irrefl 0
  unfold Transport.upgradeInPlace
  dsimp only
  rw [if_neg nothing, if_neg unencrypted, goes.stream]
  dsimp only
  rw [goes.handshake]
  cases handshake hostname <;> rfl

theorem GoesOver.encrypt (goes : GoesOver stream handshake transport) :
    GoesOver .tls handshake transport.encrypt :=
  ⟨rfl, rfl, goes.handshake⟩

/-- An upgraded connection shows what it has shown, if there was nothing left to read. -/
theorem Shows.encrypt
    {weather : Weather}
    {view : View σ}
    (shows : Shows weather transport view)
    (nothing : view.pending = []) :
    Shows weather transport.encrypt view where
  server := shows.server
  pending := nothing.symm
  isOpen := shows.isOpen
  isClosed := shows.isClosed
  log := shows.log
  stream := InnerStream.noConfusion
  unflushed := rfl
  inbound := rfl
  reads := shows.reads
  writes := shows.writes

end Going

/-! ## Without a stream -/

/-- The stream is gone, with nothing buffered, and this is the network that is left. -/
structure Stranded (net : Net σ) (transport : Transport σ) : Prop where
  stream : transport.stream = .upgrading
  buffer : transport.buffer = []
  encrypted : transport.encrypted = false
  net : transport.net = net

section Stranding

variable {net : Net σ} {transport : Transport σ}

theorem stranded_abandon (unencrypted : transport.encrypted = false) :
    Stranded transport.net.lose transport.abandon :=
  ⟨rfl, rfl, unencrypted, rfl⟩

theorem Stranded.abandoned (stranded : Stranded net transport) :
    Abandoned net.trace transport :=
  ⟨stranded.stream, stranded.buffer, congrArg Net.trace stranded.net⟩

theorem Stranded.isGone (stranded : Stranded net transport) : IsGone transport :=
  ⟨stranded.stream, trivial⟩

theorem preserves_stranded_upgradeInPlace (hostname : Str) :
    Preserves (Stranded net.lose) (Transport.upgradeInPlace hostname : TransportM σ Unit) := by
  intro transport stranded
  rcases Transport.upgradeInPlace_cases hostname transport with
    ⟨error, run, _⟩ | ⟨error, run, _⟩ | ⟨run, _, plain⟩
  · rw [run]
    exact stranded
  · have again : transport.net.lose = net.lose.lose := congrArg Net.lose stranded.net
    rw [run]
    exact ⟨rfl, rfl, stranded.encrypted, again⟩
  · exact absurd (plain.symm.trans stranded.stream) InnerStream.noConfusion

variable [Server σ]

/-- The placeholder never performs real I/O. -/
theorem survivesSteps_stranded : SurvivesSteps (Stranded net : Transport σ → Prop) := by
  refine SurvivesWrites.steps ⟨?_, ?_⟩ ?_
  · intro transport bytes stranded
    unfold Transport.pollWrite
    rw [stranded.stream]
    exact stranded
  · exact fun _ _ stranded =>
      ⟨stranded.stream, stranded.buffer, stranded.encrypted, stranded.net⟩
  · intro transport stranded
    rw [stranded.abandoned.readLine]
    exact ⟨stranded.stream, rfl, stranded.encrypted, stranded.net⟩

/-! What needs the placeholder fails with its error. -/

theorem pollWrite_of_isGone (gone : IsGone transport) (bytes : List UInt8) :
    Transport.pollWrite bytes transport = (0, some upgradingError, transport) := by
  have stream : transport.stream = .upgrading := gone.stream
  unfold Transport.pollWrite
  rw [stream]

theorem raisesIn_flushBuf :
    RaisesIn IsGone upgradingError (Transport.flushBuf : WriterM σ Unit) := by
  intro transport gone other failed
  unfold Transport.flushBuf at failed
  split at failed
  · cases failed
  · rw [pollWrite_of_isGone gone] at failed
    exact (Except.error.inj failed).symm

theorem raisesIn_writeAll (bytes : List UInt8) :
    RaisesIn IsGone upgradingError (Transport.writeAll bytes : WriterM σ Unit) := by
  have writes := (@lasting_true fun stream _ => stream = .upgrading).survivesWrites (σ := σ)
  unfold Transport.writeAll
  split
  · exact .pure ()
  · refine .bind ?_ (writes.makeRoom _) fun _ => ?_
    · refine .bind (.gets _) (.gets _) fun buffered => ?_
      split
      · exact raisesIn_flushBuf
      · exact .pure ()
    · unfold Transport.store
      split
      · intro transport gone other failed
        unfold Transport.writeThrough at failed
        rw [pollWrite_of_isGone gone] at failed
        exact (Except.error.inj failed).symm
      · exact .modify _

theorem raisesIn_sendCommand (command : Str) :
    RaisesIn IsGone (.io upgradingError)
      (Transport.sendCommand command : TransportM σ Unit) := by
  have writes := (@lasting_true fun stream _ => stream = .upgrading).survivesWrites (σ := σ)
  refine .mapError (.bind (raisesIn_writeAll _) (writes.writeAll _) fun _ =>
    .bind (raisesIn_writeAll _) (writes.writeAll _) fun _ => ?_)
  refine .bind raisesIn_flushBuf writes.flushBuf fun _ => .bind (.gets _) (.gets _) fun stream => ?_
  split
  · exact .throw
  · exact .pure ()

/-- Nothing can be asked any more. -/
theorem returned_sendAndCheck_of_isGone
    {client : Pop3Client σ}
    (gone : IsGone client.transport)
    (command : Str) :
    returned (sendAndCheck command client) = .error (.io upgradingError) := by
  have fails : FailsIn IsGone (Transport.sendCommand command : TransportM σ Unit) :=
    failsWhenGone_sendCommand command
  have failed : returned (Transport.sendCommand command (transportField.get client)) = _ :=
    fails.returned_eq (raisesIn_sendCommand command) gone
  rw [sendAndCheck_eq, Field.returned_run, bind_of_error (eq_error_of_returned failed)]
  rfl

end Stranding

end Pop3
