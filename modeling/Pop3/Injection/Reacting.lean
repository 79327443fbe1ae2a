import Pop3.Injection.Calls
import Pop3.Session.Closing

/-!
# What a server has become

A server changes only by reacting to the commands that it hears.  So whatever a client
calls, the state of its server is that in which the commands it was told have left it.
-/

namespace Pop3

open Rust Pop3Client

/-! ## Commands and states -/

/-- The server after it has reacted to these commands. -/
def Server.reactAll [Server σ] (server : σ) (commands : List (List UInt8)) : σ :=
  commands.foldl (fun server command => (Server.respond server command).1) server

theorem Server.reactAll_append [Server σ]
    (server : σ)
    (first second : List (List UInt8)) :
    reactAll server (first ++ second) = reactAll (reactAll server first) second :=
  List.foldl_append

/-- What every reaction to such a command keeps, all reactions keep. -/
theorem Server.reactAll_induction [Server σ]
    {motive : σ → Prop}
    {commands : List (List UInt8)}
    (keeps : ∀ server, ∀ command ∈ commands, motive server →
      motive (Server.respond server command).1)
    {server : σ}
    (holds : motive server) :
    motive (reactAll server commands) := by
  induction commands generalizing server with
  | nil => exact holds
  | cons command commands inductionHypothesis =>
      obtain ⟨here, later⟩ := List.forall_mem_cons.mp fun command member server =>
        keeps server command member
      exact inductionHypothesis (fun server command member => later command member server)
        (here server holds)

section Recalling

variable [Server σ]

/-- Since the connection was like this, the server has become what the commands that it has
heard have made of it. -/
def Recalls (start : Net σ) (transport : Transport σ) : Prop :=
  ∃ heard, heardCommands transport.net.trace = heardCommands start.trace ++ heard ∧
    transport.net.server = Server.reactAll start.server heard

variable {start : Net σ}

theorem recalls_self (transport : Transport σ) : Recalls transport.net transport :=
  ⟨[], (List.append_nil _).symm, rfl⟩

theorem recalls_receive
    {net : Net σ}
    (recalls : ∃ heard, heardCommands net.trace = heardCommands start.trace ++ heard ∧
      net.server = Server.reactAll start.server heard)
    (bytes : List UInt8) :
    ∃ heard, heardCommands (net.receive bytes).trace = heardCommands start.trace ++ heard ∧
      (net.receive bytes).server = Server.reactAll start.server heard := by
  refine Net.receive_induction (motive := fun after => ∃ heard,
      heardCommands after.trace = heardCommands start.trace ++ heard ∧
        after.server = Server.reactAll start.server heard)
    (fun _ _ same _ _ => same) ?_ recalls bytes
  rintro after ⟨heard, logged, same⟩ isOpen
  rw [Net.receiveByte_feed isOpen]
  refine ⟨heard ++ [Net.commandOf after.inbound], ?_, ?_⟩
  · rw [heardCommands_append, logged, List.append_assoc]
    rfl
  · rw [Server.reactAll_append, ← same]
    rfl

/-- An observation that is no reaction. -/
theorem Recalls.log
    {transport : Transport σ}
    (recalls : Recalls start transport)
    {event : Event}
    (silent : heardCommands [event] = []) :
    Recalls start (transport.log event) := by
  obtain ⟨heard, logged, same⟩ := recalls
  refine ⟨heard, ?_, same⟩
  change heardCommands (transport.net.trace ++ [event]) = _
  rw [heardCommands_append, silent, List.append_nil, logged]

theorem preserves_recalls_readLine :
    Preserves (Recalls start) (Transport.readLine : TransportM σ Str) := by
  rintro transport ⟨heard, logged, same⟩
  refine Transport.finalState_afterWait (motive := Recalls start)
    (fun _ _ recalls => recalls.log rfl) (fun _ _ recalls => recalls.log rfl)
    (fun _ recalls => recalls) ⟨heard, ?_, ?_⟩
  · rw [Transport.readUntil_trace]
    exact logged
  · rw [Transport.server_readUntil]
    exact same

theorem survivesSteps_recalls : SurvivesSteps (Recalls start : Transport σ → Prop) := by
  refine SurvivesWrites.steps ?_ preserves_recalls_readLine
  refine .of_emit (fun _ _ recalls => recalls) ?_ fun _ recalls => recalls
  rintro transport bytes ⟨heard, logged, same⟩
  let written : Net σ := { transport.net with writes := transport.net.writes.tail }.log
    (.wrote transport.stream bytes)
  have recalls : ∃ heard,
      heardCommands written.trace = heardCommands start.trace ++ heard ∧
        written.server = Server.reactAll start.server heard := by
    refine ⟨heard, ?_, same⟩
    change heardCommands (transport.net.trace ++ [.wrote transport.stream bytes]) = _
    rw [heardCommands_append, logged]
    exact List.append_nil _
  exact recalls_receive recalls bytes

theorem preserves_recalls_upgradeInPlace (hostname : Str) :
    Preserves (Recalls start) (Transport.upgradeInPlace hostname : TransportM σ Unit) := by
  intro transport recalls
  rcases Transport.upgradeInPlace_cases hostname transport with
    ⟨_, same, _⟩ | ⟨_, same, _⟩ | ⟨same, _⟩
  all_goals
    rw [same]
    exact recalls

end Recalling

end Pop3
