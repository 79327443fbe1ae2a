import Pop3.Authentication
import Pop3.Connection.Handing
import Pop3.Encryption
import Pop3.Manager

/-!
# Connecting step by step

The three ways to an authenticated client, with the connection that each leaves
behind even when it fails.  Where TLS was asked for, nothing but `STLS` is ever
written in the clear.
-/

namespace Pop3

open Rust Pop3Client

/-! ## Attempts -/

/-- An attempt to connect, with the transport it has opened so far. -/
abbrev ConnectM (σ : Type) := Action Pop3Error (Option (Transport σ))

namespace ConnectM

/-- Open a transport. -/
def opening (result : Except Pop3Error (Transport σ)) : ConnectM σ (Transport σ) := fun _ =>
  match result with
  | .ok transport => .ok transport (some transport)
  | .error error => .error error none

/-- Read the greeting from a transport. -/
def greeting (transport : Transport σ) : ConnectM σ (Pop3Client σ) := fun _ =>
  match greet transport with
  | .ok client => .ok client (some client.transport)
  | .error error => .error error (some (finalState (Transport.readLine transport)))

/-- Go on with a client. -/
def keeping (client : Pop3Client σ) (action : ClientM σ Unit) : ConnectM σ (Pop3Client σ) :=
  fun _ =>
    match action client with
    | .ok () client => .ok client (some client.transport)
    | .error error client => .error error (some client.transport)

end ConnectM

section Attempts

variable [Server σ] [Md5]

namespace Pop3ClientBuilder

/-- The first half of `connect`: a client in the TLS mode asked for. -/
def established (builder : Pop3ClientBuilder) (dial : Dial σ) : ConnectM σ (Pop3Client σ) :=
  let dialed := dial builder.hostname builder.effectivePort
  match builder.tlsMode with
  | .plain => do
      let transport ← ConnectM.opening (Transport.connectPlain dialed)
      ConnectM.greeting transport
  | .tls => do
      let transport ← ConnectM.opening
        (Transport.connectTls builder.hostname (dial.prepares builder.hostname) dialed)
      ConnectM.greeting transport
  | .startTls => do
      let transport ← ConnectM.opening (Transport.connectPlain dialed)
      let client ← ConnectM.greeting transport
      ConnectM.keeping client (stls builder.hostname)

/-- The second half: authenticate if credentials were provided. -/
def authenticating (builder : Pop3ClientBuilder) (client : Pop3Client σ) :
    ConnectM σ (Pop3Client σ) :=
  match builder.auth with
  | .none => return client
  | .login username password => ConnectM.keeping client (login username password)
  | .apop username password => ConnectM.keeping client (Pop3Client.apop username password)

/-- `connect`, step by step. -/
def connecting (builder : Pop3ClientBuilder) (dial : Dial σ) : ConnectM σ (Pop3Client σ) := do
  let client ← builder.established dial
  builder.authenticating client

end Pop3ClientBuilder

/-- `connectAndAuth`, step by step. -/
def connectingAndAuth (builder : Pop3ClientBuilder) (username password : Str)
    (dial : Dial σ) : ConnectM σ (Pop3Client σ) := do
  let client ← builder.connecting dial
  ConnectM.keeping client (login username password)

/-- `Pop3ConnectionManager::connect`, step by step. -/
def Pop3ConnectionManager.connecting (manager : Pop3ConnectionManager) (dial : Dial σ) :
    ConnectM σ (Pop3Client σ) :=
  if '\r' ∈ manager.username ∨ '\n' ∈ manager.username ∨
      '\r' ∈ manager.password ∨ '\n' ∈ manager.password then throw .invalidInput
  else do
    let client ← manager.builder.connecting dial
    if client.state ≠ .authenticated then
      ConnectM.keeping client (login manager.username manager.password)
    else return client

/-! ## The steps give the result -/

omit [Server σ] [Md5] in
theorem returned_bind_eq
    {action : ConnectM σ α}
    {state : Option (Transport σ)}
    {result : Except Pop3Error α}
    (same : returned (action state) = result)
    {next : α → ConnectM σ β}
    {rest : α → Except Pop3Error β}
    (sameRest : ∀ value state, returned (next value state) = rest value) :
    returned ((action >>= next) state) = result >>= rest := by
  subst same
  cases run : action state with
  | ok value middle =>
      rw [bind_of_ok run]
      exact sameRest value middle
  | error error middle =>
      rw [bind_of_error run]
      rfl

omit [Server σ] [Md5] in
theorem ConnectM.returned_opening
    (result : Except Pop3Error (Transport σ))
    (state : Option (Transport σ)) :
    returned (opening result state) = result := by
  cases result <;> rfl

omit [Server σ] [Md5] in
theorem ConnectM.returned_greeting
    (transport : Transport σ)
    (state : Option (Transport σ)) :
    returned (greeting transport state) = greet transport := by
  unfold greeting
  cases greet transport <;> rfl

omit [Server σ] [Md5] in
theorem ConnectM.returned_keeping
    (client : Pop3Client σ)
    (action : ClientM σ Unit)
    (state : Option (Transport σ)) :
    returned (keeping client action state) = Pop3ClientBuilder.after client action := by
  unfold keeping Pop3ClientBuilder.after
  cases action client <;> rfl

omit [Md5] in
/-- The client in the TLS mode asked for, without what it leaves behind. -/
theorem Pop3ClientBuilder.returned_established
    (builder : Pop3ClientBuilder)
    (dial : Dial σ)
    (state : Option (Transport σ)) :
    returned (builder.established dial state) =
      (match builder.tlsMode with
      | .plain => Pop3Client.connect (dial builder.hostname builder.effectivePort)
      | .tls => connectTls builder.hostname (dial.prepares builder.hostname)
          (dial builder.hostname builder.effectivePort)
      | .startTls => do
          let client ← Pop3Client.connect (dial builder.hostname builder.effectivePort)
          after client (stls builder.hostname)) := by
  have greets : ∀ result : Except Pop3Error (Transport σ),
      returned ((ConnectM.opening result >>= ConnectM.greeting) state) = result >>= greet :=
    fun result => returned_bind_eq (ConnectM.returned_opening result state)
      ConnectM.returned_greeting
  unfold established
  cases builder.tlsMode with
  | plain => exact greets _
  | tls => exact greets _
  | startTls =>
      have upgrades := returned_bind_eq
        (greets (Transport.connectPlain (dial builder.hostname builder.effectivePort)))
        fun client state => ConnectM.returned_keeping client (stls builder.hostname) state
      rw [bind_assoc] at upgrades
      exact upgrades

/-- Step by step, `connect` returns what it returns. -/
theorem Pop3ClientBuilder.returned_connecting
    (builder : Pop3ClientBuilder)
    (dial : Dial σ)
    (state : Option (Transport σ)) :
    returned (builder.connecting dial state) = builder.connect dial := by
  have auths : ∀ (client : Pop3Client σ) (state : Option (Transport σ)),
      returned (builder.authenticating client state) =
        (match builder.auth with
        | .none => .ok client
        | .login username password => after client (login username password)
        | .apop username password => after client (Pop3Client.apop username password)) := by
    intro client state
    unfold authenticating
    cases builder.auth with
    | none => rfl
    | login username password => exact ConnectM.returned_keeping _ _ _
    | apop username password => exact ConnectM.returned_keeping _ _ _
  refine (returned_bind_eq (builder.returned_established dial state) auths).trans ?_
  unfold connect
  cases builder.tlsMode with
  | plain => rfl
  | tls => rfl
  | startTls =>
      dsimp only
      rw [bind_assoc]
      rfl

theorem returned_connectingAndAuth
    (builder : Pop3ClientBuilder)
    (username password : Str)
    (dial : Dial σ)
    (state : Option (Transport σ)) :
    returned (connectingAndAuth builder username password dial state) =
      connectAndAuth builder username password dial :=
  returned_bind_eq (builder.returned_connecting dial state)
    fun client state => ConnectM.returned_keeping client _ state

theorem Pop3ConnectionManager.returned_connecting
    (manager : Pop3ConnectionManager)
    (dial : Dial σ)
    (state : Option (Transport σ)) :
    returned (manager.connecting dial state) = manager.connect dial := by
  unfold connecting connect
  split
  · rfl
  · refine returned_bind_eq (manager.builder.returned_connecting dial state) fun client state => ?_
    split
    · exact ConnectM.returned_keeping client _ state
    · rfl

end Attempts

/-! ## What an attempt leaves behind -/

/-- Whatever the attempt leaves open has a property, and so has the client that it gives. -/
structure Leaves (property : Transport σ → Prop) (action : ConnectM σ (Pop3Client σ))
    (state : Option (Transport σ)) : Prop where
  opened : ∀ transport, finalState (action state) = some transport → property transport
  client : ∀ client, returned (action state) = .ok client → property client.transport

section Leaving

variable [Server σ] {property : Transport σ → Prop} {state : Option (Transport σ)}

omit [Server σ] in
theorem leaves_pure
    {client : Pop3Client σ}
    (holds : property client.transport)
    (opened : ∀ transport, state = some transport → property transport) :
    Leaves property (return client) state := by
  refine ⟨opened, fun other same => ?_⟩
  injection same with same
  exact same ▸ holds

omit [Server σ] in
theorem leaves_error
    {action : ConnectM σ (Pop3Client σ)}
    {error : Pop3Error}
    (fails : action state = .error error none) :
    Leaves property action state := by
  constructor
  · intro transport same
    rw [fails] at same
    cases same
  · intro client same
    rw [fails] at same
    cases same

omit [Server σ] in
theorem Leaves.bind
    {action : ConnectM σ (Pop3Client σ)}
    (leaves : Leaves property action state)
    {next : Pop3Client σ → ConnectM σ (Pop3Client σ)}
    (rest : ∀ client state, property client.transport →
      (∀ transport, state = some transport → property transport) →
        Leaves property (next client) state) :
    Leaves property (action >>= next) state := by
  cases run : action state with
  | ok client middle =>
      have opened := leaves.opened
      rw [run] at opened
      obtain ⟨goesOn, gives⟩ :=
        rest client middle (leaves.client client (congrArg returned run)) opened
      have same : (action >>= next) state = next client middle := bind_of_ok run
      rw [← same] at goesOn gives
      exact ⟨goesOn, gives⟩
  | error error middle =>
      have opened := leaves.opened
      rw [run] at opened
      constructor
      · rw [bind_of_error run]
        exact opened
      · intro client same
        rw [bind_of_error run] at same
        cases same

omit [Server σ] in
theorem leaves_keeping
    {client : Pop3Client σ}
    {action : ClientM σ Unit}
    (holds : property client.transport)
    (keeps : Preserves (fun client => property client.transport) action) :
    Leaves property (ConnectM.keeping client action) state := by
  have after := keeps client holds
  unfold ConnectM.keeping
  cases run : action client with
  | ok value last =>
      rw [run] at after
      constructor
      · rintro transport ⟨⟩
        exact after
      · rintro other ⟨⟩
        exact after
  | error error last =>
      rw [run] at after
      constructor
      · rintro transport ⟨⟩
        exact after
      · rintro other ⟨⟩

omit [Server σ] in
theorem leaves_greeting
    {transport : Transport σ}
    (after : property (finalState (Transport.readLine transport))) :
    Leaves property (ConnectM.greeting transport) state := by
  unfold ConnectM.greeting
  cases greets : greet transport with
  | ok client =>
      rw [← (eq_of_greet greets).2] at after
      constructor
      · rintro other ⟨⟩
        exact after
      · rintro other ⟨⟩
        exact after
  | error error =>
      constructor
      · rintro other ⟨⟩
        exact after
      · rintro other ⟨⟩

/-- Upgrading and authenticating keep the property. -/
structure SurvivesAuthentication [Server σ] [Md5] (property : Transport σ → Prop) : Prop where
  stls : ∀ hostname,
    Preserves (fun client => property client.transport) (stls hostname : ClientM σ Unit)
  login : ∀ username password, Preserves (fun client => property client.transport)
    (login username password : ClientM σ Unit)
  apop : ∀ username password, Preserves (fun client => property client.transport)
    (Pop3Client.apop username password : ClientM σ Unit)

theorem SurvivesSteps.authentication
    [Md5]
    (steps : SurvivesSteps property)
    (upgrades : ∀ hostname, Preserves property
      (Transport.upgradeInPlace hostname : TransportM σ Unit)) :
    SurvivesAuthentication property where
  stls := preserves_stls steps upgrades
  login := preserves_login steps
  apop := preserves_apop steps

/-- What holds of a connection when its greeting has been read, and survives authentication,
holds of what an attempt leaves behind. -/
theorem leaves_connectingAndAuth
    [Md5]
    {builder : Pop3ClientBuilder}
    {dial : Dial σ}
    (greeted : ∀ net, dial builder.hostname builder.effectivePort = .ok net →
      ∀ stream encrypted, stream ≠ .upgrading →
        property (finalState (Transport.readLine { stream, encrypted, net })))
    (survives : SurvivesAuthentication property)
    (username password : Str) :
    Leaves property (builder.established dial) none ∧
      Leaves property (builder.connecting dial) none ∧
      Leaves property (connectingAndAuth builder username password dial) none := by
  have established : Leaves property (builder.established dial) none := by
    unfold Pop3ClientBuilder.established
    cases builder.tlsMode with
    | tls =>
        dsimp only
        cases opened : Transport.connectTls builder.hostname (dial.prepares builder.hostname)
            (dial builder.hostname builder.effectivePort) with
        | error error => exact leaves_error rfl
        | ok transport =>
            obtain ⟨_, net, found, _, rfl⟩ := Transport.connectTls_eq_ok.mp opened
            exact leaves_greeting (greeted net found .tls true InnerStream.noConfusion)
    | plain =>
        cases found : dial builder.hostname builder.effectivePort with
        | error error => exact leaves_error rfl
        | ok net => exact leaves_greeting (greeted net found .plain false InnerStream.noConfusion)
    | startTls =>
        cases found : dial builder.hostname builder.effectivePort with
        | error error => exact leaves_error rfl
        | ok net =>
            have plain := greeted net found .plain false InnerStream.noConfusion
            exact Leaves.bind (leaves_greeting plain) fun client state holds _ =>
              leaves_keeping holds (survives.stls builder.hostname)
  have connecting : Leaves property (builder.connecting dial) none := by
    refine established.bind fun client state holds opened => ?_
    unfold Pop3ClientBuilder.authenticating
    cases builder.auth with
    | none => exact leaves_pure holds opened
    | login username password => exact leaves_keeping holds (survives.login _ _)
    | apop username password => exact leaves_keeping holds (survives.apop _ _)
  exact ⟨established, connecting, connecting.bind fun client state holds _ =>
    leaves_keeping holds (survives.login _ _)⟩

end Leaving

/-! ## Nothing but `STLS` in the clear -/

/-- The line that may be written in the clear. -/
def stlsLine : List UInt8 := commandLines ["STLS".toList]

/-- The stream is TLS, and nothing but the line of `STLS` was written in the clear. -/
abbrev InTls : Transport σ → Prop :=
  Observed (fun stream _ => stream = .tls) fun trace => plainBytes trace <+: stlsLine

theorem lasting_inTls :
    Lasting (fun stream _ => stream = .tls) fun trace => plainBytes trace <+: stlsLine := by
  intro trace event onStream begins
  have nothing : plainBytes [event] = [] := by
    cases event with
    | wrote stream written =>
        obtain ⟨_, rfl⟩ := onStream
        rfl
    | answered | consumed | timedOut => rfl
  rw [plainBytes, List.flatMap_append] at *
  rw [nothing, List.append_nil]
  exact begins

/-- The stream is in the clear, and the client has handed these bytes to the writer. -/
structure InClear (bytes : List UInt8) (transport : Transport σ) : Prop where
  observed : Observed (fun stream encrypted => stream = .plain ∧ encrypted = false)
    (fun trace => plainBytes trace = writtenBytes trace) transport
  handed : transport.handed = bytes

theorem lasting_inClear :
    Lasting (fun stream encrypted => stream = .plain ∧ encrypted = false)
      fun trace => plainBytes trace = writtenBytes trace := by
  intro trace event onStream same
  have one : plainBytes [event] = writtenBytes [event] := by
    cases event with
    | wrote stream written =>
        obtain ⟨_, rfl, _⟩ := onStream
        rfl
    | answered | consumed | timedOut => rfl
  rw [writtenBytes_append, plainBytes, List.flatMap_append]
  rw [plainBytes] at same one
  rw [same, one]

theorem InClear.plainBytes
    {bytes : List UInt8}
    {transport : Transport σ}
    (inClear : InClear bytes transport) :
    plainBytes transport.net.trace <+: bytes := by
  rw [inClear.observed.trace, ← inClear.handed]
  exact List.prefix_append _ _

theorem InClear.readLine
    {bytes : List UInt8}
    {transport : Transport σ}
    (inClear : InClear bytes transport) :
    InClear bytes (finalState (Transport.readLine transport)) :=
  ⟨lasting_inClear.readLine _ inClear.observed,
    (Transport.handed_readLine transport).trans inClear.handed⟩

theorem stream_upgradeInPlace
    {hostname : Str}
    {transport : Transport σ}
    (upgraded : returned (Transport.upgradeInPlace hostname transport) = .ok ()) :
    (finalState (Transport.upgradeInPlace hostname transport)).stream = .tls := by
  rw [Transport.finalState_upgradeInPlace upgraded]
  rfl

section Sealing

variable [Server σ]

/-- Asking for STLS writes its line, and reads. -/
theorem InClear.afterAgreement
    {client : Pop3Client σ}
    (inClear : InClear [] client.transport) :
    ∃ bytes, bytes <+: stlsLine ∧ InClear bytes (afterAgreement client).transport := by
  have observed : Observed (fun stream encrypted => stream = .plain ∧ encrypted = false)
      (fun trace => Pop3.plainBytes trace = writtenBytes trace)
      (Pop3.afterAgreement client).transport :=
    Program.preserves lasting_inClear.steps (program_sendAndCheck _) client inClear.observed
  obtain ⟨part, begins, sent, _⟩ := Transport.hands_exchange "STLS".toList client.transport
  rw [inClear.handed, List.nil_append] at sent
  have exchanged : (Pop3.afterAgreement client).transport = finalState ((do
      Transport.sendCommand "STLS".toList
      let line ← Transport.readLine
      ofResult (parseStatusLine line)) client.transport) := by
    rw [Pop3.afterAgreement, sendAndCheck_eq, Field.finalState_run]
    rfl
  exact ⟨part, begins, observed, exchanged ▸ sent⟩

/-- After `stls` nothing but its line was written in the clear, and a client that
has upgraded is in TLS. -/
theorem InClear.stls
    {client : Pop3Client σ}
    (inClear : InClear [] client.transport)
    (unauthenticated : client.state ≠ .authenticated)
    (hostname : Str) :
    Pop3.plainBytes (finalState (Pop3Client.stls hostname client)).transport.net.trace <+:
        stlsLine ∧
      (returned (Pop3Client.stls hostname client) = .ok () →
        InTls (finalState (Pop3Client.stls hostname client)).transport) := by
  have unencrypted : client.transport.encrypted = false := inClear.observed.stream.2
  obtain ⟨bytes, begins, asked⟩ := inClear.afterAgreement
  have said := asked.plainBytes.trans begins
  cases answer : returned (sendAndCheck "STLS".toList client) with
  | ok text =>
      rw [stls_of_agrees ⟨unauthenticated, unencrypted, text, answer⟩, Field.finalState_run,
        Field.returned_run]
      have trace := trace_upgradeInPlace hostname (Pop3.afterAgreement client).transport
      exact ⟨trace.symm ▸ said, fun upgraded =>
        ⟨stream_upgradeInPlace upgraded, trace.symm ▸ said⟩⟩
  | error error =>
      have failed : Pop3Client.stls hostname client =
          .error error (Pop3.afterAgreement client) := by
        rw [Pop3Client.stls, gets_bind_apply, if_neg unauthenticated, ofResult_ok_bind,
          gets_bind_apply, unencrypted]
        simp only [Bool.false_eq_true, ↓reduceIte, ofResult_ok_bind]
        rw [bind_of_error (eq_error_of_returned answer)]
        rfl
      rw [failed]
      refine ⟨said, fun upgraded => ?_⟩
      cases upgraded

end Sealing

/-! ## Attempts that were asked for TLS -/

section Secure

variable [Server σ] [Md5]

/-- Whatever has been opened, nothing but the line of `STLS` was written on it in
the clear. -/
def NothingInClear (opened : Option (Transport σ)) : Prop :=
  ∀ transport, opened = some transport → plainBytes transport.net.trace <+: stlsLine

/-- An attempt writes nothing in the clear, and a client that it gives is in TLS. -/
structure Secures (action : ConnectM σ (Pop3Client σ)) (state : Option (Transport σ)) :
    Prop where
  opened : NothingInClear (finalState (action state))
  client : ∀ client, returned (action state) = .ok client → InTls client.transport

omit [Server σ] [Md5] in
theorem secures_of_eq
    {action other : ConnectM σ (Pop3Client σ)}
    {state state' : Option (Transport σ)}
    (same : action state = other state')
    (secures : Secures other state') :
    Secures action state :=
  ⟨same ▸ secures.opened, same ▸ secures.client⟩

omit [Server σ] [Md5] in
/-- What is known of the client after the action. -/
theorem secures_after
    {client : Pop3Client σ}
    {action : ClientM σ Unit}
    (said : plainBytes (finalState (action client)).transport.net.trace <+: stlsLine)
    (inTls : returned (action client) = .ok () →
      InTls (finalState (action client)).transport)
    (state : Option (Transport σ)) :
    Secures (ConnectM.keeping client action) state := by
  unfold ConnectM.keeping
  cases run : action client with
  | ok value last =>
      rw [run] at said inTls
      refine ⟨fun transport same => ?_, fun other same => ?_⟩
      · simp only [finalState_ok, Option.some.injEq] at same
        exact same ▸ said
      · simp only [returned_ok, Except.ok.injEq] at same
        exact same ▸ inTls rfl
  | error error last =>
      rw [run] at said
      refine ⟨fun transport same => ?_, fun other same => ?_⟩
      · simp only [finalState_error, Option.some.injEq] at same
        exact same ▸ said
      · simp only [returned_error] at same
        cases same

omit [Server σ] [Md5] in
/-- A client in TLS stays there through what keeps it there. -/
theorem secures_keeping
    {client : Pop3Client σ}
    (inTls : InTls client.transport)
    {action : ClientM σ Unit}
    (keeps : Preserves (fun client => InTls client.transport) action)
    (state : Option (Transport σ)) :
    Secures (ConnectM.keeping client action) state :=
  secures_after (keeps client inTls).trace (fun _ => keeps client inTls) state

omit [Server σ] [Md5] in
theorem secures_pure
    {client : Pop3Client σ}
    (inTls : InTls client.transport)
    {state : Option (Transport σ)}
    (opened : NothingInClear state) :
    Secures (return client) state := by
  refine ⟨opened, fun other same => ?_⟩
  injection same with same
  exact same ▸ inTls

omit [Server σ] [Md5] in
theorem Secures.bind
    {action : ConnectM σ (Pop3Client σ)}
    {state : Option (Transport σ)}
    (secures : Secures action state)
    {next : Pop3Client σ → ConnectM σ (Pop3Client σ)}
    (rest : ∀ client state, InTls client.transport → NothingInClear state →
      Secures (next client) state) :
    Secures (action >>= next) state := by
  cases run : action state with
  | ok client middle =>
      have opened : NothingInClear middle := by
        have opened := secures.opened
        rwa [run] at opened
      exact secures_of_eq (bind_of_ok run)
        (rest client middle (secures.client client (congrArg returned run)) opened)
  | error error middle =>
      refine ⟨?_, fun other same => ?_⟩
      · have opened := secures.opened
        rw [run] at opened
        rwa [bind_of_error run]
      · rw [bind_of_error run] at same
        cases same

omit [Server σ] [Md5] in
/-- Greeting reads one line. -/
theorem ConnectM.run_greeting (transport : Transport σ) (state : Option (Transport σ)) :
    finalState (greeting transport state) = some (finalState (Transport.readLine transport)) ∧
      ∀ client, returned (greeting transport state) = .ok client →
        client.state = .connected ∧
          client.transport = finalState (Transport.readLine transport) := by
  unfold greeting
  cases greets : greet transport with
  | ok client =>
      obtain ⟨connected, same⟩ := eq_of_greet greets
      refine ⟨congrArg some same, fun other isOther => ?_⟩
      injection isOther with isOther
      exact isOther ▸ ⟨connected, same⟩
  | error error => exact ⟨rfl, fun other isOther => nomatch isOther⟩

omit [Server σ] [Md5] in
/-- An attempt that has opened nothing has written nothing. -/
theorem secures_error
    {action : ConnectM σ (Pop3Client σ)}
    {state : Option (Transport σ)}
    (error : Pop3Error)
    (fails : action state = .error error none) :
    Secures action state := by
  refine ⟨fun transport same => ?_, fun client same => ?_⟩
  · rw [fails] at same
    cases same
  · rw [fails] at same
    cases same

omit [Server σ] [Md5] in
theorem inTls_connectTls
    {hostname : Str}
    {prepared : Handshake}
    {dialed : Except IoError (Net σ)}
    {transport : Transport σ}
    (connected : Transport.connectTls hostname prepared dialed = .ok transport)
    (fresh : ∀ net, dialed = .ok net → net.trace = []) :
    InTls transport := by
  obtain ⟨_, net, found, _, rfl⟩ := Transport.connectTls_eq_ok.mp connected
  exact ⟨rfl, by simp [fresh net found, plainBytes]⟩

omit [Server σ] [Md5] in
theorem secures_greeting
    {transport : Transport σ}
    (inTls : InTls transport)
    (state : Option (Transport σ)) :
    Secures (ConnectM.greeting transport) state := by
  obtain ⟨final, client⟩ := ConnectM.run_greeting transport state
  have after : InTls (finalState (Transport.readLine transport)) :=
    lasting_inTls.readLine transport inTls
  refine ⟨fun opened same => ?_, fun other same => ?_⟩
  · rw [final, Option.some.injEq] at same
    exact same ▸ after.trace
  · exact (client other same).2 ▸ after

omit [Md5] in
/-- The greeting is read in the clear, and STLS asked for. -/
theorem secures_upgrading
    {transport : Transport σ}
    (plain : InClear [] transport)
    (hostname : Str)
    (state : Option (Transport σ)) :
    Secures (do
      let client ← ConnectM.greeting transport
      ConnectM.keeping client (stls hostname)) state := by
  obtain ⟨final, greeted⟩ := ConnectM.run_greeting transport state
  have read := plain.readLine
  cases run : ConnectM.greeting transport state with
  | ok client middle =>
      obtain ⟨connected, same⟩ := greeted client (congrArg returned run)
      rw [← same] at read
      obtain ⟨said, upgraded⟩ := read.stls (by rw [connected]; decide) hostname
      exact secures_of_eq (bind_of_ok run) (secures_after said upgraded middle)
  | error error middle =>
      refine ⟨fun opened isOpened => ?_, fun other isOther => ?_⟩
      · rw [bind_of_error run] at isOpened
        rw [run] at final
        have same := final.symm.trans isOpened
        injection same with same
        exact same ▸ read.plainBytes.trans List.nil_prefix
      · rw [bind_of_error run] at isOther
        cases isOther

omit [Md5] in
/-- A client in the TLS mode asked for has written nothing else in the clear. -/
theorem secures_established
    {builder : Pop3ClientBuilder}
    (secure : builder.tlsMode ≠ .plain)
    {dial : Dial σ}
    (fresh : ∀ net, dial builder.hostname builder.effectivePort = .ok net → net.trace = []) :
    Secures (builder.established dial) none := by
  unfold Pop3ClientBuilder.established
  cases mode : builder.tlsMode with
  | plain => exact absurd mode secure
  | tls =>
      dsimp only
      cases connected : Transport.connectTls builder.hostname (dial.prepares builder.hostname)
          (dial builder.hostname builder.effectivePort) with
      | error error =>
          exact secures_error error rfl
      | ok transport =>
          exact secures_greeting (inTls_connectTls connected fresh) _
  | startTls =>
      dsimp only
      cases dialed : dial builder.hostname builder.effectivePort with
      | error error =>
          exact secures_error (.io error) rfl
      | ok net =>
          have plain : InClear [] ({ stream := .plain, encrypted := false, net } :
              Transport σ) := by
            have nothing := fresh net dialed
            refine ⟨⟨⟨rfl, rfl⟩, ?_⟩, ?_⟩
            · simp only [nothing]
              rfl
            · simp only [Transport.handed, nothing]
              rfl
          exact secures_upgrading plain builder.hostname _

/-! ## Whole attempts -/

/-- Credentials go to a client that is in TLS. -/
theorem secures_authenticating
    {client : Pop3Client σ}
    (inTls : InTls client.transport)
    {state : Option (Transport σ)}
    (opened : NothingInClear state)
    (builder : Pop3ClientBuilder) :
    Secures (builder.authenticating client) state := by
  unfold Pop3ClientBuilder.authenticating
  cases builder.auth with
  | none => exact secures_pure inTls opened
  | login username password =>
      exact secures_keeping inTls (preserves_login lasting_inTls.steps username password) state
  | apop username password =>
      exact secures_keeping inTls (preserves_apop lasting_inTls.steps username password) state

theorem secures_connecting
    {builder : Pop3ClientBuilder}
    (secure : builder.tlsMode ≠ .plain)
    {dial : Dial σ}
    (fresh : ∀ net, dial builder.hostname builder.effectivePort = .ok net → net.trace = []) :
    Secures (builder.connecting dial) none :=
  (secures_established secure fresh).bind fun _ _ inTls opened =>
    secures_authenticating inTls opened builder

/-- When TLS was asked for, `connect` and the two ways to connect that are built on
it write nothing but the line of `STLS` on a stream that is not encrypted: no byte
of the credentials. -/
theorem no_credentials_in_the_clear
    (builder : Pop3ClientBuilder)
    (secure : builder.tlsMode ≠ .plain)
    (dial : Dial σ)
    (fresh : ∀ net, dial builder.hostname builder.effectivePort = .ok net → net.trace = [])
    (username password : Str) :
    NothingInClear (finalState (builder.connecting dial none)) ∧
    NothingInClear (finalState (connectingAndAuth builder username password dial none)) ∧
    NothingInClear (finalState
      (({ builder, username, password } : Pop3ConnectionManager).connecting dial none)) := by
  have connects := secures_connecting secure fresh
  have logsIn : ∀ (client : Pop3Client σ) (state : Option (Transport σ)),
      InTls client.transport →
      Secures (ConnectM.keeping client (login username password)) state :=
    fun client state inTls =>
      secures_keeping inTls (preserves_login lasting_inTls.steps username password) state
  refine ⟨connects.opened, ?_, ?_⟩
  · exact (connects.bind fun client state inTls _ => logsIn client state inTls).opened
  · unfold Pop3ConnectionManager.connecting
    split
    · exact fun transport same => nomatch same
    · refine (connects.bind fun client state inTls opened => ?_).opened
      split
      · exact logsIn client state inTls
      · exact secures_pure inTls opened

end Secure

/-- A server that greets, agrees to STLS, and accepts a user. -/
def upgradingHost : Dial Script where
  connects _ _ := .ok {
    server := { replies := ["+OK go\r\n", "+OK\r\n", "+OK\r\n", "-ERR\r\n"].map fun reply =>
      { bytes := utf8 reply.toList } }
    wire := utf8 "+OK hello\r\n".toList }

/-- Someone logs in after an upgrade: the credentials are written, and not in the
clear. -/
theorem no_credentials_in_the_clear_upgrading :
    let _ := emptyDigest
    let builder := Pop3ClientBuilder.starttls
      (.credentials { hostname := "host".toList } "u".toList "p".toList)
    NothingInClear (finalState (builder.connecting upgradingHost none)) ∧
      (finalState (builder.connecting upgradingHost none)).any
        (fun transport => transport.net.trace.contains
          (.wrote .tls (commandLines ["PASS p".toList]))) = true := by
  intro _ builder
  have fresh : ∀ net, upgradingHost builder.hostname builder.effectivePort = .ok net →
      net.trace = [] := by
    intro net dialed
    injection dialed with dialed
    rw [← dialed]
  exact ⟨(no_credentials_in_the_clear builder (by decide) upgradingHost fresh ['u'] ['p']).1,
    by decide +kernel⟩

end Pop3
