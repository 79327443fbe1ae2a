import Pop3.Conversation

/-!
# Nothing in the clear after STLS

Once the server has agreed to STLS, the connection is either encrypted or its
stream is gone, unless the server has sent more behind its agreement.
-/

namespace Pop3

open Rust Pop3Client

/-! ## Sealed connections -/

/-- The bytes that were written to the unencrypted stream. -/
def plainBytes (trace : List Event) : List UInt8 :=
  trace.flatMap fun event =>
    match event with
    | .wrote .plain bytes => bytes
    | _ => []

/-- The stream is encrypted, or it is gone. -/
def IsSealed (stream : InnerStream) (encrypted : Bool) : Prop :=
  stream = .tls ∧ encrypted = true ∨ stream = .upgrading

/-- The stream is sealed, and these are all bytes written in the clear. -/
abbrev Sealed (bytes : List UInt8) : Transport σ → Prop :=
  Observed IsSealed fun trace => plainBytes trace = bytes

theorem lasting_plainBytes (bytes : List UInt8) :
    Lasting IsSealed fun trace => plainBytes trace = bytes := by
  intro trace event onSealed same
  have nothing : plainBytes [event] = [] := by
    cases event with
    | wrote stream written =>
        obtain ⟨_, ⟨rfl, _⟩ | rfl⟩ := onSealed <;> rfl
    | answered | consumed | timedOut => rfl
  rw [plainBytes, List.flatMap_append] at *
  rw [same, nothing, List.append_nil]

/-- Without anything in the read buffer, an upgrade leaves a sealed stream. -/
theorem sealed_upgradeInPlace
    {transport : Transport σ}
    (clean : transport.buffer = [])
    (unencrypted : transport.encrypted = false)
    (hostname : Str) :
    Sealed (plainBytes transport.net.trace)
      (finalState (Transport.upgradeInPlace hostname transport)) := by
  rcases Transport.upgradeInPlace_cases hostname transport with
    ⟨_, _, ⟨full, _⟩ | ⟨encrypted, _⟩⟩ | ⟨_, run, _⟩ | ⟨run, _⟩
  · exact absurd clean full
  · rw [unencrypted] at encrypted
    cases encrypted
  · rw [run]
    exact ⟨.inr rfl, rfl⟩
  · rw [run]
    exact ⟨.inl ⟨rfl, rfl⟩, rfl⟩

/-- What is sealed stays sealed through further attempts to upgrade. -/
theorem preserves_sealed_upgradeInPlace (bytes : List UInt8) (hostname : Str) :
    Preserves (Sealed bytes) (Transport.upgradeInPlace hostname : TransportM σ Unit) := by
  intro transport isSealed
  rcases Transport.upgradeInPlace_cases hostname transport with
    ⟨error, run, _⟩ | ⟨error, run, _⟩ | ⟨_, unencrypted, plain⟩
  · rw [run]
    exact isSealed
  · rw [run]
    exact ⟨.inr rfl, isSealed.trace⟩
  · rcases isSealed.stream with ⟨_, encrypted⟩ | upgrading
    · rw [unencrypted] at encrypted
      cases encrypted
    · rw [plain] at upgrading
      cases upgrading

/-! ## Runs -/

section Running

variable [Server σ]

/-- The client after it has sent `STLS` and read a line. -/
def afterAgreement (client : Pop3Client σ) : Pop3Client σ :=
  finalState (sendAndCheck "STLS".toList client)

/-- A call of `stls` sends its command and reads that the server agrees. -/
structure AgreesToStls (client : Pop3Client σ) : Prop where
  state : client.state ≠ .authenticated
  encrypted : client.transport.encrypted = false
  answer : ∃ text, returned (sendAndCheck "STLS".toList client) = .ok text

theorem encrypted_afterAgreement
    {client : Pop3Client σ}
    (agrees : AgreesToStls client) :
    (afterAgreement client).transport.encrypted = false := by
  have observed : Observed (fun _ encrypted => encrypted = false) (fun _ => True)
      (afterAgreement client).transport :=
    Program.preserves lasting_true.steps (program_sendAndCheck _) client ⟨agrees.encrypted, trivial⟩
  exact observed.stream

/-- Behind an agreement, `stls` is an upgrade. -/
theorem stls_of_agrees
    {client : Pop3Client σ}
    (agrees : AgreesToStls client)
    (hostname : Str) :
    stls hostname client =
      transportField.run (Transport.upgradeInPlace hostname) (afterAgreement client) := by
  obtain ⟨text, answer⟩ := agrees.answer
  rw [stls, gets_bind_apply, if_neg agrees.state, ofResult_ok_bind, gets_bind_apply,
    agrees.encrypted]
  simp only [Bool.false_eq_true, ↓reduceIte, ofResult_ok_bind]
  rw [bind_of_ok (eq_ok_of_returned answer)]
  rfl

/-- After an agreement with nothing behind it, the call leaves a sealed stream. -/
theorem sealed_stls
    {client : Pop3Client σ}
    (agrees : AgreesToStls client)
    (clean : (afterAgreement client).transport.buffer = [])
    (hostname : Str) :
    Sealed (plainBytes (afterAgreement client).transport.net.trace)
      (finalState (stls hostname client)).transport := by
  rw [stls_of_agrees agrees, Field.finalState_run]
  exact sealed_upgradeInPlace clean (encrypted_afterAgreement agrees) hostname

/-- Sealed connections stay sealed through every call. -/
theorem sealed_runAll [Md5]
    {bytes : List UInt8}
    (calls : List Call)
    {client : Pop3Client σ}
    (isSealed : Sealed bytes client.transport) :
    Sealed bytes (Call.runAll calls client).transport :=
  Call.preserves_runAll (lasting_plainBytes bytes).steps (preserves_sealed_upgradeInPlace bytes)
    calls isSealed

theorem sealed_quit
    {bytes : List UInt8}
    {client : Pop3Client σ}
    (isSealed : Sealed bytes client.transport) :
    Sealed bytes (finalState (quit client)).transport := by
  have quits : Preserves (fun client : Pop3Client σ => Sealed bytes client.transport) quit := by
    refine .bind (Preserves.onTransport ?_) fun _ => .bind (Preserves.onTransport ?_) fun _ =>
      .bind (.ofResult _) fun _ => .modify fun client holds => ⟨holds.stream, holds.trace⟩
    · exact (lasting_plainBytes bytes).steps.send _
    · exact (lasting_plainBytes bytes).steps.read
  exact quits client isSealed

/-- Whoever has a sealed stream is encrypted, or cannot send. -/
theorem encrypted_or_fails_of_sealed
    {bytes : List UInt8}
    {transport : Transport σ}
    (isSealed : Sealed bytes transport) :
    transport.encrypted = true ∨
      ∀ command, ∃ error, returned (Transport.sendCommand command transport) = .error error := by
  rcases isSealed.stream with ⟨_, encrypted⟩ | upgrading
  · exact .inl encrypted
  · exact .inr fun command => failsWhenGone_sendCommand command transport ⟨upgrading, trivial⟩

/-- Once the server has agreed to STLS with nothing behind its agreement, no
call writes another byte in the clear, and the connection is encrypted or
nothing can be sent any more. -/
theorem nothingPlain_after_stls [Md5]
    {before : List Call}
    {client : Pop3Client σ}
    (agrees : AgreesToStls (Call.runAll before client))
    (clean : (afterAgreement (Call.runAll before client)).transport.buffer = [])
    (hostname : Str)
    (after : List Call) :
    let last := Call.runAll (before ++ .stls hostname :: after) client
    plainBytes last.transport.net.trace =
        plainBytes (afterAgreement (Call.runAll before client)).transport.net.trace ∧
      plainBytes (finalState (quit last)).transport.net.trace =
        plainBytes (afterAgreement (Call.runAll before client)).transport.net.trace ∧
      (last.transport.encrypted = true ∨ ∀ command, ∃ error,
        returned (Transport.sendCommand command last.transport) = .error error) := by
  intro last
  have upgraded := sealed_stls agrees clean hostname
  have called : finalState ((Call.stls hostname).run (Call.runAll before client)) =
      finalState (stls hostname (Call.runAll before client)) :=
    finalState_bind_pure (stls hostname) (fun _ => Value.done) _
  rw [← called] at upgraded
  have isSealed := sealed_runAll after upgraded
  have split : last = Call.runAll after
      (finalState ((Call.stls hostname).run (Call.runAll before client))) := by
    change Call.runAll _ client = _
    rw [Call.runAll_append]
    rfl
  rw [← split] at isSealed
  exact ⟨isSealed.trace, (sealed_quit isSealed).trace, encrypted_or_fails_of_sealed isSealed⟩

end Running

/-- A new client whose server is going to send these replies. -/
def scripted (replies : List Str) : Pop3Client Script where
  transport :=
    { stream := .plain
      encrypted := false
      net := { server := { replies := replies.map fun reply => { bytes := utf8 reply } } } }
  greeting := []
  state := .connected
  isPipelining := false

/-- Another line behind the agreement stops the upgrade, but not the login that follows. -/
theorem exists_plain_after_stls :
    ¬∀ (client : Pop3Client Script) (before : List Call),
      AgreesToStls (@Call.runAll _ _ emptyDigest before client) →
        ∀ (hostname : Str) (after : List Call),
          plainBytes (@Call.runAll _ _ emptyDigest
              (before ++ .stls hostname :: after) client).transport.net.trace =
            plainBytes (afterAgreement
              (@Call.runAll _ _ emptyDigest before client)).transport.net.trace := by
  intro always
  have agrees : AgreesToStls (scripted ["+OK\r\n+OK\r\n".toList]) :=
    ⟨by decide, rfl, [], by decide +kernel⟩
  have silent := always _ [] agrees "mail".toList [.login "user".toList "secret".toList]
  revert silent
  decide +kernel

/-- With nothing behind the agreement, the password goes through the encrypted stream. -/
theorem nothingPlain_login :
    let client := scripted ["+OK\r\n".toList, "+OK\r\n".toList, "+OK\r\n".toList]
    let last := @Call.runAll _ _ emptyDigest
      [.stls "mail".toList, .login "user".toList "secret".toList] client
    plainBytes last.transport.net.trace =
        plainBytes (afterAgreement client).transport.net.trace ∧
      plainBytes (finalState (quit last)).transport.net.trace =
        plainBytes (afterAgreement client).transport.net.trace ∧
      (last.transport.encrypted = true ∨ ∀ command, ∃ error,
        returned (Transport.sendCommand command last.transport) = .error error) :=
  @nothingPlain_after_stls _ _ emptyDigest [] _ ⟨by decide, rfl, [], by decide +kernel⟩
    (by decide +kernel) "mail".toList [.login "user".toList "secret".toList]

end Pop3
