import Pop3.Connection.Invariants
import Pop3.Connection.Reading
import Pop3.Connection.Writing

/-!
# Readiness

Between two operations a stream that is not lost has no half of a command left
in it, whatever replies are still to be read.
-/

namespace Pop3

open Rust

/-- No part of a command is on its way, and the schedules stay within the weather. -/
structure Ready (weather : Weather) (transport : Transport σ) : Prop where
  stream : transport.stream ≠ .upgrading
  unflushed : transport.unflushed = []
  inbound : transport.net.inbound = []
  reads : ∀ tick ∈ transport.net.reads, tick.Within weather
  writes : ∀ tick ∈ transport.net.writes, tick.Within weather

/-- The view that a transport shows. -/
def Transport.view (transport : Transport σ) : View σ where
  server := transport.net.server
  pending := transport.pending
  isOpen := transport.net.isOpen
  isClosed := transport.isClosed
  log := transport.net.trace.filter Event.isNoted

theorem Ready.shows
    {weather : Weather}
    {transport : Transport σ}
    (ready : Ready weather transport) :
    Shows weather transport transport.view where
  server := rfl
  pending := rfl
  isOpen := rfl
  isClosed := rfl
  log := rfl
  stream := ready.stream
  unflushed := ready.unflushed
  inbound := ready.inbound
  reads := ready.reads
  writes := ready.writes

theorem Shows.ready
    {weather : Weather}
    {transport : Transport σ}
    {view : View σ}
    (shown : Shows weather transport view) :
    Ready weather transport where
  stream := shown.stream
  unflushed := shown.unflushed
  inbound := shown.inbound
  reads := shown.reads
  writes := shown.writes

/-! ## Reading -/

/-- A poll loop where nothing is lost leaves the command line of the server alone. -/
theorem Transport.pollLine_ready
    {weather : Weather}
    (safe : weather.lossy = false)
    {ticks : List ReadTick}
    (within : ∀ tick ∈ ticks, tick.Within weather)
    (line : List UInt8)
    (net : Net σ) :
    (pollLine line net ticks).2.2.inbound = net.inbound ∧
      (pollLine line net ticks).2.2.writes = net.writes ∧
      ∀ tick ∈ (pollLine line net ticks).2.2.reads, tick.Within weather := by
  rcases pollLine_net line net ticks with ⟨wire, reads, suffix, same⟩ | ⟨loss, reads, member, _⟩
  · rw [same]
    exact ⟨rfl, rfl, fun tick left => within tick (suffix.subset left)⟩
  · have lossy : weather.lossy := within (.drop loss) member
    rw [safe] at lossy
    cases lossy

/-- A poll loop where nothing is lost leaves the rest of what was in flight. -/
theorem Transport.pollLine_kept
    {weather : Weather}
    (safe : weather.lossy = false)
    {ticks : List ReadTick}
    (within : ∀ tick ∈ ticks, tick.Within weather)
    (line : List UInt8)
    (net : Net σ) :
    (pollLine line net ticks).2.2.isOpen = net.isOpen ∧
      ∃ taken, line ++ net.wire =
        taken ++ ((pollLine line net ticks).2.1 ++ (pollLine line net ticks).2.2.wire) := by
  induction ticks generalizing line net with
  | nil =>
      unfold pollLine
      dsimp only
      split
      · rename_i head rest split
        obtain ⟨front, _, rfl, wire⟩ := splitFeed_eq_some split
        exact ⟨rfl, line ++ (front ++ [10]), by simp [wire]⟩
      · split <;> exact ⟨rfl, line ++ net.wire, by simp⟩
  | cons tick ticks inductionHypothesis =>
      have withinRest : ∀ tick ∈ ticks, tick.Within weather :=
        fun other member => within other (List.mem_cons_of_mem _ member)
      cases tick with
      | deadline => exact ⟨rfl, line, rfl⟩
      | drop loss =>
          have lossy : weather.lossy := within (.drop loss) List.mem_cons_self
          rw [safe] at lossy
          cases lossy
      | arrive count =>
          have parts := List.take_append_drop (count + 1) net.wire
          unfold pollLine
          dsimp only
          split
          · rename_i empty
            split <;> exact ⟨rfl, line, by simp [empty]⟩
          · split
            · rename_i head rest split
              obtain ⟨front, _, rfl, chunk⟩ := splitFeed_eq_some split
              rw [chunk, List.append_assoc, List.cons_append] at parts
              refine ⟨rfl, line ++ (front ++ [10]), ?_⟩
              conv_lhs => rw [← parts]
              simp
            · obtain ⟨isOpen, taken, same⟩ := inductionHypothesis withinRest
                (line ++ net.wire.take (count + 1))
                { net with wire := net.wire.drop (count + 1), reads := ticks }
              refine ⟨isOpen, taken, ?_⟩
              rwa [List.append_assoc, parts] at same

section Reading

variable {weather : Weather} {transport : Transport σ}

theorem Transport.readUntil_kept
    (safe : weather.lossy = false)
    (ready : Ready weather transport) :
    (readUntil transport).2.net.isOpen = transport.net.isOpen ∧
      ∃ taken, transport.pending = taken ++ (readUntil transport).2.pending := by
  unfold readUntil
  split
  · rename_i line rest split
    obtain ⟨front, _, rfl, buffer⟩ := splitFeed_eq_some split
    exact ⟨rfl, front ++ [10], by simp [pending, buffer]⟩
  · rw [if_neg ready.stream]
    exact pollLine_kept safe ready.reads transport.buffer transport.net

/-- Where nothing is lost, reading a line leaves the rest of what was in flight. -/
theorem Transport.readLine_kept
    (ready : Ready weather transport)
    (safe : weather.lossy = false) :
    (finalState (readLine transport)).net.isOpen = transport.net.isOpen ∧
      ∃ taken, transport.pending = taken ++ (finalState (readLine transport)).pending := by
  exact finalState_afterWait
    (motive := fun after => after.net.isOpen = transport.net.isOpen ∧
      ∃ taken, transport.pending = taken ++ after.pending)
    (fun _ _ kept => kept) (fun _ _ kept => kept) (fun _ kept => kept)
    (readUntil_kept safe ready)

theorem Ready.readUntil
    (safe : weather.lossy = false)
    (ready : Ready weather transport) :
    Ready weather (Transport.readUntil transport).2 := by
  unfold Transport.readUntil
  split
  · exact { ready with }
  · rw [if_neg ready.stream]
    obtain ⟨inbound, writes, reads⟩ :=
      Transport.pollLine_ready safe ready.reads transport.buffer transport.net
    exact
      { stream := ready.stream
        unflushed := ready.unflushed
        inbound := inbound.trans ready.inbound
        reads
        writes := writes ▸ ready.writes }

/-- A transport stays ready when a line is read, or is too late. -/
theorem preserves_ready_readLine (safe : weather.lossy = false) :
    Preserves (Ready weather) (Transport.readLine : TransportM σ Str) := by
  intro transport ready
  exact Transport.finalState_afterWait (motive := Ready weather)
    (fun _ _ waited => { waited with }) (fun _ _ waited => { waited with })
    (fun _ waited => { waited with }) (ready.readUntil safe)

end Reading

/-! ## Writing -/

/-- A server that has not reacted to all it received is still connected. -/
theorem Net.inbound_receive [Server σ]
    {net : Net σ}
    (alert : net.isOpen = false → net.inbound = [])
    (bytes : List UInt8) :
    (net.receive bytes).isOpen = false → (net.receive bytes).inbound = [] := by
  refine Net.receive_induction
    (motive := fun after => after.isOpen = false → after.inbound = []) ?_ ?_ alert bytes
  · intro after byte _ isOpen _ closed
    exact absurd (isOpen.symm.trans closed) nofun
  · intro after _ isOpen _
    rw [Net.receiveByte_feed isOpen]

/-- After whole lines the server has nothing of a command. -/
theorem Net.inbound_receive_commandLines [Server σ]
    {net : Net σ}
    (inbound : net.inbound = [])
    (commands : List Str) :
    (net.receive (commandLines commands)).inbound = [] := by
  induction commands generalizing net with
  | nil => exact inbound
  | cons command commands inductionHypothesis =>
      have alert := net.inbound_receive (fun _ => inbound) (utf8 command ++ [13])
      have ending : commandLines (command :: commands) =
          (utf8 command ++ [13]) ++ ([10] ++ commandLines commands) := by
        simp [commandLines]
      rw [ending, Net.receive_append, Net.receive_append]
      apply inductionHypothesis
      generalize net.receive (utf8 command ++ [13]) = middle at alert
      change (middle.receiveByte 10).inbound = []
      cases isOpen : middle.isOpen with
      | false => exact (Net.receiveByte_of_closed isOpen 10).symm ▸ alert isOpen
      | true => rw [Net.receiveByte_feed isOpen]

section Writing

variable [Server σ] {weather : Weather} {transport : Transport σ}

/-- Whole command lines leave the transport ready. -/
theorem Ready.finalState_of_writes
    (safe : weather.lossy = false)
    (ready : Ready weather transport)
    {commands : List Str}
    {action : WriterM σ Unit}
    (writes : Transport.Writes weather (commandLines commands) action transport
      fun after => after.unflushed = []) :
    Ready weather (finalState (action transport)) := by
  rcases writes ready.stream ready.writes with
    ⟨after, run, wrote, flushed⟩ | ⟨lossy, _⟩
  · have outlook : after.net.quiet = transport.net.quiet.receive (commandLines commands) := by
      have outlook_eq := wrote.outlook
      simpa only [Transport.outlook, flushed, ready.unflushed, Net.receive_nil]
        using outlook_eq
    have inbound : after.net.quiet.inbound = [] := by
      rw [outlook]
      exact transport.net.quiet.inbound_receive_commandLines ready.inbound _
    have reads : after.net.quiet.reads = transport.net.quiet.reads := by
      rw [outlook, Transport.receive_reads]
    change after.net.reads = transport.net.reads at reads
    rw [run]
    exact
      { stream := wrote.stream ▸ ready.stream
        unflushed := flushed
        inbound
        reads := reads ▸ ready.reads
        writes := wrote.writes }
  · rw [safe] at lossy
    cases lossy

theorem preserves_ready_sendCommand (safe : weather.lossy = false) (command : Str) :
    Preserves (Ready weather) (Transport.sendCommand command : TransportM σ Unit) := by
  refine .mapError fun transport ready => ?_
  have line : utf8 command ++ [13, 10] = commandLines [command] := (List.append_nil _).symm
  have writes : Transport.Writes weather _ _ transport _ := writes_command command transport
  rw [line] at writes
  exact ready.finalState_of_writes safe writes

theorem preserves_ready_sendWindow
    (safe : weather.lossy = false)
    (verb : Str)
    (window : List UInt32) :
    Preserves (Ready weather) (Pop3Client.sendWindow verb window : WriterM σ Unit) :=
  fun transport ready => ready.finalState_of_writes safe (writes_window verb window transport)

/-- Each step of an operation leaves the transport ready. -/
theorem survivesSteps_ready (safe : weather.lossy = false) :
    SurvivesSteps (Ready weather : Transport σ → Prop) where
  send := preserves_ready_sendCommand safe
  window := preserves_ready_sendWindow safe
  read := preserves_ready_readLine safe

end Writing

end Pop3
