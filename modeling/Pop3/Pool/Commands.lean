import Pop3.Injection.Reacting
import Pop3.Mailbox.Account
import Pop3.Pool.Provenance
import Pop3.Session.Streams

/-!
# What a pool says

The server of a pooled connection hears what opens the connection and what its holders ask
for, and nothing else.  No holder can log in as another, and none can end the session.
-/

namespace Pop3

open Rust Pop3Client

/-! ## Opening a connection -/

section Opening

/-- The call with which a connection is secured, if the builder asks for it. -/
def Pop3ClientBuilder.securing (builder : Pop3ClientBuilder) : List Call :=
  match builder.tlsMode with
  | .startTls => [.stls builder.hostname]
  | _ => []

/-- The call with which a connection is authenticated: with what the builder has, or else with
what the account was registered with. -/
def Pop3ConnectionManager.authenticating (manager : Pop3ConnectionManager) : Call :=
  match manager.builder.auth with
  | .none => .login manager.username manager.password
  | .login username password => .login username password
  | .apop username password => .apop username password

/-- The calls with which a manager opens a connection. -/
def Pop3ConnectionManager.opening (manager : Pop3ConnectionManager) : List Call :=
  manager.builder.securing ++ [manager.authenticating]

variable [Server σ] [Md5] {dial : Dial σ} {client : Pop3Client σ}

theorem Pop3ClientBuilder.connects_of_established
    {builder : Pop3ClientBuilder}
    (established : returned (builder.established dial none) = .ok client) :
    ∃ net greeted, dial builder.hostname builder.effectivePort = .ok net ∧
      Connects net greeted ∧ client = Call.runAll builder.securing greeted := by
  rw [builder.returned_established] at established
  generalize dial builder.hostname builder.effectivePort = dialed at established ⊢
  unfold securing
  cases dialed with
  | error error =>
      cases mode : builder.tlsMode with
      | tls =>
          rw [mode] at established
          obtain ⟨_, opened, _⟩ := bind_eq_ok_iff.mp established
          obtain ⟨_, _, found, _⟩ := Transport.connectTls_eq_ok.mp opened
          cases found
      | plain | startTls =>
          rw [mode] at established
          cases established
  | ok net =>
      cases mode : builder.tlsMode with
      | plain =>
          rw [mode] at established
          exact ⟨net, client, rfl, .plain established, rfl⟩
      | tls =>
          rw [mode] at established
          exact ⟨net, client, rfl, .tls established, rfl⟩
      | startTls =>
          rw [mode] at established
          obtain ⟨greeted, connected, upgraded⟩ := bind_eq_ok_iff.mp established
          have run : (Call.stls builder.hostname).run greeted = .ok .done client :=
            bind_of_ok (run_of_after upgraded)
          refine ⟨net, greeted, rfl, .plain connected, ?_⟩
          change client = finalState ((Call.stls builder.hostname).run greeted)
          rw [run]
          rfl

/-- A manager authenticates once, on a connection in the TLS mode asked for. -/
theorem Pop3ConnectionManager.authenticates_of_connect
    {manager : Pop3ConnectionManager}
    (connected : manager.connect dial = .ok client) :
    ∃ secured, returned (manager.builder.established dial none) = .ok secured ∧
      manager.authenticating.run secured = .ok .done client := by
  unfold connect at connected
  split at connected
  · cases connected
  · obtain ⟨first, began, decided⟩ := bind_eq_ok_iff.mp connected
    have state := Pop3ClientBuilder.state_connect began
    rw [manager.builder.connect_eq] at began
    obtain ⟨secured, established, accepted⟩ := bind_eq_ok_iff.mp began
    refine ⟨secured, established, ?_⟩
    unfold authenticating
    cases auth : manager.builder.auth with
    | none =>
        rw [auth] at accepted state
        cases accepted
        rw [if_pos (by simp [state])] at decided
        exact bind_of_ok (run_of_after decided)
    | login username password =>
        rw [auth] at accepted state
        rw [if_neg (by simp [state])] at decided
        cases decided
        exact bind_of_ok (run_of_after accepted)
    | apop username password =>
        rw [auth] at accepted state
        rw [if_neg (by simp [state])] at decided
        cases decided
        exact bind_of_ok (run_of_after accepted)

/-- A connection is opened with these calls, on which a server has greeted. -/
theorem Pop3ConnectionManager.connects_of_connect
    {manager : Pop3ConnectionManager}
    (connected : manager.connect dial = .ok client) :
    ∃ net greeted, dial manager.builder.hostname manager.builder.effectivePort = .ok net ∧
      Connects net greeted ∧ client = Call.runAll manager.opening greeted := by
  obtain ⟨secured, established, authenticated⟩ := authenticates_of_connect connected
  obtain ⟨net, greeted, dialed, connects, rfl⟩ :=
    Pop3ClientBuilder.connects_of_established established
  refine ⟨net, greeted, dialed, connects, ?_⟩
  rw [opening, Call.runAll_append]
  exact (congrArg finalState authenticated).symm

end Opening

/-! ## Hearing -/

section Hearing

variable [Server σ] [Md5]

/-- Nobody is told another greeting later. -/
theorem Call.greeting_run (call : Call) (client : Pop3Client σ) :
    (finalState (call.run client)).greeting = client.greeting := by
  rcases call.moves client with
    ⟨continues, _⟩ | ⟨_, authenticates, _⟩ | ⟨_, _, encrypts, _⟩
  · exact continues.greeting
  · exact authenticates.greeting
  · exact encrypts.greeting

/-- A run tells the server what its calls are meant to tell, in order. -/
theorem Call.told_means (calls : List Call) (client : Pop3Client σ) :
    (runAll calls client).greeting = client.greeting ∧
      ∃ meant, List.Forall₂ (Call.Means client.greeting) calls meant ∧
        Told meant.flatten client.transport (runAll calls client).transport := by
  induction calls generalizing client with
  | nil => exact ⟨rfl, [], .nil, told_refl _⟩
  | cons call calls inductionHypothesis =>
      obtain ⟨commands, means, told⟩ := call.told client
      obtain ⟨greeting, meant, meaning, rest⟩ := inductionHypothesis (finalState (call.run client))
      rw [call.greeting_run] at greeting meaning
      exact ⟨greeting, commands :: meant, .cons means meaning, told.trans rest⟩

omit [Server σ] in
/-- No call is meant to end the session. -/
theorem Call.quit_not_mem
    {call : Call}
    {greeting : Str}
    {commands : List Str}
    (means : call.Means greeting commands) :
    "QUIT".toList ∉ commands := by
  by_cases command : call.isCommand = true
  · intro member
    rcases Call.asks_of_means command means _ member with capa | ⟨request, same, _⟩
    · exact absurd capa (by decide)
    · exact Request.command_ne (by decide) request (congrArg utf8 same.symm)
  · cases call with
    | stls hostname =>
        obtain rfl : commands = _ := means
        decide
    | login username password =>
        obtain rfl : commands = _ := means
        simp
    | apop username password =>
        obtain rfl : commands = _ := means
        simp [apopCommand]
    | _ => exact absurd rfl command

/-- Since the connection was like this, its server has heard some of the commands that these
calls are meant to send, in order and each as one line, and has become what they have made of
it. -/
structure Hears (net : Net σ) (calls : List Call) (client : Pop3Client σ) (heard : List Str) :
    Prop where
  meant : ∃ meant, List.Forall₂ (Call.Means client.greeting) calls meant ∧
    heard.Sublist meant.flatten
  areLines : ∀ command ∈ heard, IsOneLine command
  commands : heardCommands client.transport.net.trace = heardCommands net.trace ++ heard.map utf8
  server : client.transport.net.server = Server.reactAll net.server (heard.map utf8)

/-- Nobody hears of the end of a session that is not ended. -/
theorem Hears.quit_not_mem
    {net : Net σ}
    {calls : List Call}
    {client : Pop3Client σ}
    {heard : List Str}
    (hears : Hears net calls client heard) :
    "QUIT".toList ∉ heard := by
  obtain ⟨meant, meaning, some⟩ := hears.meant
  have unmeant : "QUIT".toList ∉ meant.flatten := by
    clear some hears
    induction meaning with
    | nil => exact List.not_mem_nil
    | cons means _ inductionHypothesis =>
        rw [List.flatten_cons, List.mem_append, not_or]
        exact ⟨Call.quit_not_mem means, inductionHypothesis⟩
  exact fun member => unmeant (some.subset member)

theorem exists_hears
    {net : Net σ}
    {client : Pop3Client σ}
    (connects : Connects net client)
    (inbound : net.inbound = [])
    (calls : List Call) :
    ∃ heard, Hears net calls (Call.runAll calls client) heard := by
  obtain ⟨stream, encrypted, usable, _, greets⟩ := connects.greets_over
  let start : Transport σ := { stream, encrypted, net }
  obtain ⟨greeting, meant, meaning, told⟩ := Call.told_means calls client
  have told : Told meant.flatten start (Call.runAll calls client).transport := by
    have reads := told_readLine start
    rw [← (eq_of_greet greets).2] at reads
    exact reads.trans told
  obtain ⟨_, heard, some, areLines, commands⟩ := told.heard fun _ => ⟨rfl, inbound, usable⟩
  have recalls : Recalls net (Call.runAll calls client).transport := by
    have reads := preserves_recalls_readLine start (recalls_self start)
    rw [← (eq_of_greet greets).2] at reads
    exact Call.preserves_runAll survivesSteps_recalls preserves_recalls_upgradeInPlace _ reads
  obtain ⟨recalled, commands', server⟩ := recalls
  obtain rfl : recalled = heard.map utf8 :=
    List.append_cancel_left (commands'.symm.trans commands)
  exact ⟨heard, ⟨meant, greeting.symm ▸ meaning, some⟩, areLines, commands, server⟩

end Hearing

/-! ## Runs of the pool -/

namespace Pop3Pool

section Runs

variable [Server σ] [Md5] [ManagedBb8 π σ]

/-- In every run of a pool, by any number of tasks in any order, the server of each open
connection has heard since it was dialed, in this order: the commands with which a manager
that was registered for the account secures and authenticates the connection, and then
commands of calls of its holders, of which none logs in or ends the session.  It may not have
heard all of them, and has become what they have made of it. -/
theorem hears_only
    {steps : List (PoolStep π)}
    {key : AccountKey}
    {client : Pop3Client σ}
    (opened : (key, client) ∈ (run steps new : Pop3Pool π).clients) :
    ∃ manager : Pop3ConnectionManager, ∃ dial net calls,
      PoolStep.addAccount key manager.builder manager.username manager.password ∈ steps ∧
      Dialed steps key dial ∧
      dial manager.builder.hostname manager.builder.effectivePort = .ok net ∧
      (∀ call ∈ calls, call.isCommand = true) ∧
      (net.inbound = [] →
        ∃ heard, Hears net (manager.opening ++ calls) client heard ∧ "QUIT".toList ∉ heard) := by
  obtain ⟨manager, registered, descends⟩ := descends_run opened
  obtain ⟨dial, first, calls, dialed, connected, commands, rfl⟩ := descends.from_connect
  obtain ⟨net, greeted, answered, connects, rfl⟩ :=
    Pop3ConnectionManager.connects_of_connect connected
  refine ⟨manager, dial, net, calls, registered, dialed, answered, commands, fun inbound => ?_⟩
  obtain ⟨heard, hears⟩ := exists_hears connects inbound (manager.opening ++ calls)
  rw [Call.runAll_append] at hears
  exact ⟨heard, hears, hears.quit_not_mem⟩

end Runs

end Pop3Pool

/-- Nobody who holds the connection of another gets a name of their own to the server. -/
theorem hears_only_usurping :
    let _ := emptyDigest
    let key : AccountKey := { host := [], port := 110, username := [] }
    ∃ client : Pop3Client Pop3Pool.Admitting,
      heardCommands client.transport.net.trace =
        ["USER ", "PASS ", "CAPA", "NOOP", "RSET"].map (fun command => utf8 command.toList) ∧
      ∃ manager : Pop3ConnectionManager, ∃ dial net calls,
        PoolStep.addAccount key manager.builder manager.username manager.password ∈
          usurping key ∧
        Pop3Pool.Dialed (usurping key) key dial ∧
        dial manager.builder.hostname manager.builder.effectivePort = .ok net ∧
        (∀ call ∈ calls, call.isCommand = true) ∧
        (net.inbound = [] → ∃ heard,
          Hears net (manager.opening ++ calls) client heard ∧ "QUIT".toList ∉ heard) := by
  let _ := emptyDigest
  let key : AccountKey := { host := [], port := 110, username := [] }
  have held : (Pop3Pool.run (usurping key) Pop3Pool.new).clients.map
      (fun entry => (entry.1, heardCommands entry.2.transport.net.trace)) =
      [(key, ["USER ", "PASS ", "CAPA", "NOOP", "RSET"].map
        fun command => utf8 command.toList)] := by
    decide +kernel
  obtain ⟨⟨other, client⟩, opened, same⟩ := List.mem_map.mp (held ▸ List.mem_singleton_self _)
  obtain ⟨rfl, heard⟩ := Prod.mk.inj same
  exact ⟨client, heard, Pop3Pool.hears_only opened⟩

end Pop3
