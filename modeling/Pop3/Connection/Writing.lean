import Pop3.Client
import Pop3.Connection.Weather

/-!
# Writing through the weather

Command lines pass a buffer of limited capacity, in as many writes as it takes.
The server hears each of them once, unless the connection is lost.
-/

namespace Pop3

open Rust

/-- The network part of what a transport shows. -/
structure Net.Shows (buffer : List UInt8) (net : Net σ) (view : View σ) : Prop where
  server : net.server = view.server
  pending : buffer ++ net.wire = view.pending
  isOpen : net.isOpen = view.isOpen
  log : net.trace.filter Event.isNoted = view.log
  inbound : net.inbound = []

/-- The server hears the command line it receives. -/
theorem Net.Shows.hear [Server σ]
    {buffer : List UInt8}
    {net : Net σ}
    {view : View σ}
    (shown : net.Shows buffer view)
    {command : Str}
    (noFeed : '\n' ∉ command) :
    (net.receive (utf8 command ++ [13, 10])).Shows buffer (view.hear command) := by
  have noFeed' : 10 ∉ utf8 command :=
    fun member => noFeed ((feed_mem_utf8 command).mp member)
  unfold View.hear
  by_cases isOpen : view.isOpen
  · rw [Net.receive_command (shown.isOpen.trans isOpen) shown.inbound noFeed', if_pos isOpen,
      shown.server]
    exact
      { server := rfl
        pending := by simp [← shown.pending]
        isOpen := rfl
        log := by simp [← shown.log, Event.isNoted]
        inbound := shown.inbound }
  · have closed : net.isOpen = false := by simp [shown.isOpen, isOpen]
    rw [Net.receive_of_closed closed, if_neg isOpen]
    exact shown

namespace Transport

/-- The network once everything buffered has been written. -/
def outlook [Server σ] (transport : Transport σ) : Net σ :=
  transport.net.quiet.receive transport.unflushed

/-- Between these states, the bytes were written and nothing else happened. -/
structure Wrote [Server σ] (weather : Weather) (bytes : List UInt8)
    (before after : Transport σ) : Prop where
  outlook : after.outlook = before.outlook.receive bytes
  buffer : after.buffer = before.buffer
  stream : after.stream = before.stream
  isClosed : after.isClosed = before.isClosed
  writes : ∀ tick ∈ after.net.writes, tick.Within weather

/-- The connection was lost during a write. -/
structure Broke (before after : Transport σ) : Prop where
  isOpen : after.net.isOpen = false
  wire : after.net.wire = []
  buffer : after.buffer = before.buffer

/-- The action writes the bytes, unless the connection is lost. -/
def Writes [Server σ] (weather : Weather) (bytes : List UInt8) (action : WriterM σ Unit)
    (before : Transport σ) (post : Transport σ → Prop) : Prop :=
  before.stream ≠ .upgrading → (∀ tick ∈ before.net.writes, tick.Within weather) →
    (∃ after, action before = .ok () after ∧ Wrote weather bytes before after ∧
      post after) ∨
    (weather.lossy ∧ ∃ error after, action before = .error error after ∧
      Broke before after)

section

variable [Server σ] {weather : Weather} {before : Transport σ}

theorem Wrote.trans
    {first second : List UInt8}
    {middle after : Transport σ}
    (wrote : Wrote weather first before middle)
    (then_wrote : Wrote weather second middle after) :
    Wrote weather (first ++ second) before after where
  outlook := by rw [then_wrote.outlook, wrote.outlook, Net.receive_append]
  buffer := then_wrote.buffer.trans wrote.buffer
  stream := then_wrote.stream.trans wrote.stream
  isClosed := then_wrote.isClosed.trans wrote.isClosed
  writes := then_wrote.writes

theorem Writes.bind
    {first second : List UInt8}
    {action : WriterM σ Unit}
    {next : Unit → WriterM σ Unit}
    {between post : Transport σ → Prop}
    (writes : Writes weather first action before between)
    (then_writes : ∀ middle, between middle →
      Writes weather second (next ()) middle post) :
    Writes weather (first ++ second) (action >>= next) before post := by
  intro stream within
  rcases writes stream within with
    ⟨middle, run, wrote, holds⟩ | ⟨lossy, error, middle, run, broke⟩
  · rw [bind_of_ok run]
    rcases then_writes middle holds (wrote.stream ▸ stream) wrote.writes with
      ⟨after, run', wrote', holds'⟩ | ⟨lossy, error, after, run', broke⟩
    · exact .inl ⟨after, run', wrote.trans wrote', holds'⟩
    · exact .inr ⟨lossy, error, after, run',
        broke.isOpen, broke.wire, broke.buffer.trans wrote.buffer⟩
  · exact .inr ⟨lossy, error, middle, bind_of_error run, broke⟩

theorem Writes.weaken
    {bytes : List UInt8}
    {action : WriterM σ Unit}
    {post weaker : Transport σ → Prop}
    (writes : Writes weather bytes action before post)
    (implies : ∀ after, post after → weaker after) :
    Writes weather bytes action before weaker := by
  intro stream within
  rcases writes stream within with ⟨after, run, wrote, holds⟩ | broken
  · exact .inl ⟨after, run, wrote, implies after holds⟩
  · exact .inr broken

/-- The stream takes everything, unless the connection is lost. -/
theorem pollWrite_cases
    (stream : before.stream ≠ .upgrading)
    (within : ∀ tick ∈ before.net.writes, tick.Within weather)
    (bytes : List UInt8) :
    (pollWrite bytes before = (bytes.length, none, { before with
      net := (({ before.net with writes := before.net.writes.tail }).log
        (.wrote before.stream bytes)).receive bytes }) ∧
      ∀ tick ∈ before.net.writes.tail, tick.Within weather) ∨
    (weather.lossy ∧ ∃ sent error after,
      pollWrite bytes before = (sent, some error, after) ∧ Broke before after) := by
  have tail : ∀ tick ∈ before.net.writes.tail, tick.Within weather :=
    fun tick member => within tick (List.mem_of_mem_tail member)
  unfold pollWrite
  cases kind : before.stream with
  | upgrading => exact absurd kind stream
  | plain | tls =>
      cases writes : before.net.writes with
      | nil => rw [writes] at tail; exact .inl ⟨rfl, tail⟩
      | cons tick ticks =>
          cases tick with
          | accept => rw [writes] at tail; exact .inl ⟨rfl, tail⟩
          | drop count error =>
              have lossy := within (.drop count error) (by simp [writes])
              exact .inr ⟨lossy, _, error, _, rfl, rfl, rfl, rfl⟩

theorem receive_writes
    (net : Net σ)
    (bytes : List UInt8) :
    (net.receive bytes).writes = net.writes := by
  refine Net.receive_induction (motive := fun after => after.writes = net.writes)
    (fun _ _ same _ _ => same) ?_ rfl bytes
  intro after same isOpen
  rw [Net.receiveByte_feed isOpen]
  exact same

/-- What reached the stream is what the outlook has received. -/
theorem wrote_of_pollWrite
    {bytes : List UInt8}
    (unflushed : before.unflushed = [])
    (tail : ∀ tick ∈ before.net.writes.tail, tick.Within weather) :
    Wrote weather bytes before { before with
      net := (({ before.net with writes := before.net.writes.tail }).log
        (.wrote before.stream bytes)).receive bytes } where
  outlook := by
    simp only [outlook, unflushed, Net.receive_nil, Net.quiet_receive]
    simp [Net.quiet, Net.log, Event.isNoted]
  buffer := rfl
  stream := rfl
  isClosed := rfl
  writes := by
    simp only [receive_writes]
    exact tail

/-- Flushing the buffer changes where the bytes are, not the outlook. -/
theorem writes_flushBuf (before : Transport σ) :
    Writes weather [] flushBuf before fun after => after.unflushed = [] := by
  intro stream within
  by_cases empty : before.unflushed = []
  · exact .inl ⟨before, by simp [flushBuf, empty],
      ⟨rfl, rfl, rfl, rfl, within⟩, empty⟩
  · rcases pollWrite_cases stream within before.unflushed with
      ⟨polled, tail⟩ | ⟨lossy, sent, error, after, polled, broke⟩
    · let emptied : Transport σ := { before with unflushed := [] }
      have wrote : Wrote weather before.unflushed emptied _ :=
        wrote_of_pollWrite rfl tail
      refine .inl ⟨_, by simp only [flushBuf, empty, ↓reduceIte, polled]; rfl, ?_,
        List.drop_length⟩
      refine ⟨?_, rfl, rfl, rfl, wrote.writes⟩
      simp only [List.drop_length]
      exact wrote.outlook
    · exact .inr ⟨lossy, error, { after with unflushed := before.unflushed.drop sent },
        by simp only [flushBuf, empty, ↓reduceIte, polled],
        broke.isOpen, broke.wire, broke.buffer⟩

/-- Bytes may pass the buffer when nothing waits in it. -/
theorem writes_writeThrough
    (unflushed : before.unflushed = [])
    (bytes : List UInt8) :
    Writes weather bytes (writeThrough bytes) before fun _ => True := by
  intro stream within
  rcases pollWrite_cases stream within bytes with
    ⟨polled, tail⟩ | ⟨lossy, sent, error, after, polled, broke⟩
  · exact .inl ⟨_, by simp only [writeThrough, polled],
      wrote_of_pollWrite unflushed tail, trivial⟩
  · exact .inr ⟨lossy, error, after, by simp only [writeThrough, polled], broke⟩

/-- Bytes wait in the buffer behind those that are there already. -/
theorem writes_buffered (before : Transport σ) (bytes : List UInt8) :
    Writes weather bytes
      (modify fun transport => { transport with unflushed := transport.unflushed ++ bytes })
      before fun _ => True := by
  intro _ within
  exact .inl ⟨_, rfl, ⟨Net.receive_append _ _ _, rfl, rfl, rfl, within⟩, trivial⟩

theorem writes_pure (before : Transport σ) {post : Transport σ → Prop}
    (holds : post before) :
    Writes weather [] (pure ()) before post :=
  fun _ within => .inl ⟨before, rfl, ⟨rfl, rfl, rfl, rfl, within⟩, holds⟩

/-- What goes past the buffer must find it empty. -/
theorem writes_store
    {bytes : List UInt8}
    (emptied : bufferCapacity ≤ bytes.length → before.unflushed = []) :
    Writes weather bytes (store bytes) before fun _ => True := by
  unfold store
  split
  · rename_i large
    exact writes_writeThrough (emptied large) bytes
  · exact writes_buffered before bytes

theorem writes_makeRoom (before : Transport σ) (count : Nat) :
    Writes weather [] (makeRoom count) before fun after =>
      bufferCapacity ≤ count → after.unflushed = [] := by
  by_cases full : bufferCapacity < before.unflushed.length + count
  · have flushed : Writes weather [] flushBuf before fun after =>
        bufferCapacity ≤ count → after.unflushed = [] :=
      (writes_flushBuf before).weaken fun _ emptied _ => emptied
    simpa [Writes, makeRoom, full] using flushed
  · have kept : Writes weather [] (pure ()) before fun after =>
        bufferCapacity ≤ count → after.unflushed = [] :=
      writes_pure before fun large => by
        have none_waiting : before.unflushed.length = 0 := by omega
        exact List.length_eq_zero_iff.mp none_waiting
    simpa [Writes, makeRoom, full] using kept

theorem writes_writeAll (before : Transport σ) (bytes : List UInt8) :
    Writes weather bytes (writeAll bytes) before fun _ => True := by
  unfold writeAll
  split
  · rename_i empty
    subst empty
    exact writes_pure before trivial
  · exact (writes_makeRoom before bytes.length).bind fun _ emptied =>
      writes_store emptied

theorem writes_flush (before : Transport σ) :
    Writes weather [] flush before fun after => after.unflushed = [] := by
  intro stream within
  rcases writes_flushBuf before stream within with
    ⟨after, run, wrote, emptied⟩ | ⟨lossy, error, after, run, broke⟩
  · refine .inl ⟨after, ?_, wrote, emptied⟩
    rw [flush, bind_of_ok run]
    simp [wrote.stream, stream]
  · exact .inr ⟨lossy, error, after, bind_of_error run, broke⟩

theorem receive_reads (net : Net σ) (bytes : List UInt8) :
    (net.receive bytes).reads = net.reads := by
  refine Net.receive_induction (motive := fun after => after.reads = net.reads)
    (fun _ _ same _ _ => same) ?_ rfl bytes
  intro after same isOpen
  rw [Net.receiveByte_feed isOpen]
  exact same

end

end Transport

theorem Shows.net
    {weather : Weather}
    {transport : Transport σ}
    {view : View σ}
    (shown : Shows weather transport view) :
    transport.net.quiet.Shows transport.buffer view where
  server := shown.server
  pending := shown.pending
  isOpen := shown.isOpen
  log := by
    simp only [Net.quiet, List.filter_filter, Bool.and_self]
    exact shown.log
  inbound := shown.inbound

/-- A write that loses the connection leaves nothing, where nothing was unread. -/
theorem Transport.Broke.dead
    {before after : Transport σ}
    (broke : Transport.Broke before after)
    (nothing : before.pending = []) :
    Dead after where
  isOpen := broke.isOpen
  pending := by
    obtain ⟨buffer, _⟩ := List.append_eq_nil_iff.mp nothing
    simp [Transport.pending, broke.wire, broke.buffer, buffer]

section Sending

variable [Server σ] {weather : Weather} {transport : Transport σ} {view : View σ}

/-- The bytes of whole command lines, once written and flushed, are heard. -/
theorem Shows.wrote
    {after : Transport σ}
    {bytes : List UInt8}
    {view' : View σ}
    (shown : Shows weather transport view)
    (wrote : Transport.Wrote weather bytes transport after)
    (flushed : after.unflushed = [])
    (heard : (transport.net.quiet.receive bytes).Shows transport.buffer view')
    (isClosed : view'.isClosed = view.isClosed) :
    Shows weather after view' := by
  have outlook : after.net.quiet = transport.net.quiet.receive bytes := by
    have outlook_eq := wrote.outlook
    simpa only [Transport.outlook, flushed, shown.unflushed, Net.receive_nil]
      using outlook_eq
  rw [← outlook] at heard
  refine
    { server := heard.server
      pending := ?_
      isOpen := heard.isOpen
      isClosed := (wrote.isClosed.trans shown.isClosed).trans isClosed.symm
      log := ?_
      stream := wrote.stream ▸ shown.stream
      unflushed := flushed
      inbound := heard.inbound
      reads := ?_
      writes := wrote.writes }
  · rw [Transport.pending, wrote.buffer]
    exact heard.pending
  · simpa [Net.quiet] using heard.log
  · have reads : after.net.quiet.reads = transport.net.quiet.reads := by
      rw [outlook, Transport.receive_reads]
    change after.net.reads = transport.net.reads at reads
    rw [reads]
    exact shown.reads

theorem View.hear_isClosed (command : Str) (view : View σ) :
    (view.hear command).isClosed = view.isClosed := by
  unfold View.hear
  split <;> rfl

/-- Sending a command writes its line and flushes it. -/
theorem writes_command (command : Str) (before : Transport σ) :
    Transport.Writes weather (utf8 command ++ [13, 10])
      (do
        Transport.writeAll (utf8 command)
        Transport.writeAll (utf8 "\r\n".toList)
        Transport.flush)
      before fun after => after.unflushed = [] := by
  have ending : utf8 "\r\n".toList ++ [] = [13, 10] := by decide
  rw [← ending]
  exact (Transport.writes_writeAll before _).bind fun middle _ =>
    (Transport.writes_writeAll middle _).bind fun last _ =>
      Transport.writes_flush last

/-- The server hears a command that is sent. -/
theorem sendCommand_gives
    {command : Str}
    (noFeed : '\n' ∉ command)
    (nothing : weather.lossy → view.pending = []) :
    Gives (Shows weather) (mishaps weather) (Transport.sendCommand command)
      view (.ok ()) (view.hear command) := by
  intro transport shown
  rcases writes_command command transport shown.stream shown.writes with
    ⟨after, run, wrote, flushed⟩ | ⟨lossy, error, after, run, broke⟩
  · rw [Transport.sendCommand, mapError_of_ok run]
    exact .inl ⟨rfl, shown.wrote wrote flushed (shown.net.hear noFeed)
      (View.hear_isClosed command view)⟩
  · rw [Transport.sendCommand, mapError_of_error run]
    exact .inr (.inr ⟨lossy, broke.dead (shown.pending.trans (nothing lossy))⟩)

theorem View.hearAll_isClosed (commands : List Str) (view : View σ) :
    (view.hearAll commands).isClosed = view.isClosed := by
  induction commands generalizing view with
  | nil => rfl
  | cons command commands inductionHypothesis =>
      exact (inductionHypothesis (view.hear command)).trans
        (View.hear_isClosed command view)

/-- The command lines of a window. -/
def commandLines (commands : List Str) : List UInt8 :=
  commands.flatMap fun command => utf8 command ++ [13, 10]

theorem Net.Shows.hearAll
    {buffer : List UInt8}
    {net : Net σ}
    (shown : net.Shows buffer view)
    {commands : List Str}
    (noFeed : ∀ command ∈ commands, '\n' ∉ command) :
    (net.receive (commandLines commands)).Shows buffer (view.hearAll commands) := by
  induction commands generalizing net view with
  | nil => exact shown
  | cons command commands inductionHypothesis =>
      have heard := shown.hear (noFeed command (by simp))
      have rest := inductionHypothesis heard
        fun other member => noFeed other (by simp [member])
      rw [← Net.receive_append] at rest
      exact rest

theorem writes_writeWindow (verb : Str) (window : List UInt32) (before : Transport σ) :
    Transport.Writes weather (commandLines (window.map (commandFor verb)))
      (Pop3Client.writeWindow verb window) before fun _ => True := by
  induction window generalizing before with
  | nil => exact Transport.writes_pure before trivial
  | cons messageId window inductionHypothesis =>
      have bytes : commandLines ((messageId :: window).map (commandFor verb)) =
          utf8 (commandFor verb messageId ++ "\r\n".toList) ++
            commandLines (window.map (commandFor verb)) := by
        have ending : utf8 "\r\n".toList = [13, 10] := by decide
        simp only [commandLines, commandFor, List.map_cons, List.flatMap_cons,
          utf8_append, ending, List.append_assoc]
      rw [bytes]
      exact (Transport.writes_writeAll before _).bind fun middle _ =>
        inductionHypothesis middle

/-- Sending a window writes its lines and flushes them. -/
theorem writes_window (verb : Str) (window : List UInt32) (before : Transport σ) :
    Transport.Writes weather (commandLines (window.map (commandFor verb)))
      (Pop3Client.sendWindow verb window) before fun after => after.unflushed = [] := by
  rw [← List.append_nil (commandLines _)]
  exact (writes_writeWindow verb window before).bind fun last _ => Transport.writes_flush last

/-- How a transport may leave its view while it sends a window. -/
def breaks (weather : Weather) : Escapes IoError (Transport σ) where
  stuck _ _ := False
  gone transport := weather.lossy ∧ Dead transport

/-- The lines of a window, once written and flushed, are heard. -/
theorem Shows.heardWindow
    {verb : Str}
    {window : List UInt32}
    {after : Transport σ}
    (noFeed : '\n' ∉ verb)
    (shown : Shows weather transport view)
    (wrote : Transport.Wrote weather (commandLines (window.map (commandFor verb))) transport after)
    (flushed : after.unflushed = []) :
    Shows weather after (view.hearAll (window.map (commandFor verb))) := by
  have commands : ∀ command ∈ window.map (commandFor verb), '\n' ∉ command := by
    intro command member
    obtain ⟨messageId, _, rfl⟩ := List.mem_map.mp member
    have digits : '\n' ∉ decimal messageId.toNat := not_mem_decimal (by decide) _
    simp [commandFor, noFeed, digits]
  exact shown.wrote wrote flushed (shown.net.hearAll commands) (View.hearAll_isClosed _ view)

/-- The server hears all commands of a window that is sent. -/
theorem sendWindow_gives
    {verb : Str}
    {window : List UInt32}
    (noFeed : '\n' ∉ verb)
    (nothing : weather.lossy → view.pending = []) :
    Gives (Shows weather) (breaks weather) (Pop3Client.sendWindow verb window)
      view (.ok ()) (view.hearAll (window.map (commandFor verb))) := by
  intro transport shown
  rcases writes_window verb window transport shown.stream shown.writes with
    ⟨after, run, wrote, flushed⟩ | ⟨lossy, error, after, run, broke⟩
  · rw [run]
    exact .inl ⟨rfl, shown.heardWindow noFeed wrote flushed⟩
  · rw [run]
    exact .inr (.inr ⟨lossy, broke.dead (shown.pending.trans (nothing lossy))⟩)

end Sending

end Pop3
