import Pop3.Connection.Traces
import Pop3.Connection.Writing

/-!
# What is handed to the writer

The bytes that have reached the stream and those that wait in the write buffer,
taken together.  Whatever the schedule of writes, a send hands the writer a
beginning of its command lines, and all of them if it succeeds.
-/

namespace Pop3

open Rust

/-- All bytes that were written to a stream. -/
def writtenBytes (trace : List Event) : List UInt8 :=
  trace.flatMap fun event =>
    match event with
    | .wrote _ bytes => bytes
    | _ => []

theorem writtenBytes_append (first second : List Event) :
    writtenBytes (first ++ second) = writtenBytes first ++ writtenBytes second :=
  List.flatMap_append

theorem commandLines_append (first second : List Str) :
    commandLines (first ++ second) = commandLines first ++ commandLines second :=
  List.flatMap_append

namespace Transport

/-- The bytes that have been written, and behind them those that wait. -/
def handed (transport : Transport σ) : List UInt8 :=
  writtenBytes transport.net.trace ++ transport.unflushed

/-- The action hands the writer a beginning of these bytes, and all of them if it
succeeds. -/
def Hands (bytes : List UInt8) (action : Action ε (Transport σ) α)
    (before : Transport σ) : Prop :=
  ∃ part, part <+: bytes ∧ (finalState (action before)).handed = before.handed ++ part ∧
    ∀ value, returned (action before) = .ok value → part = bytes

theorem Hands.bind
    {first second : List UInt8}
    {action : Action ε (Transport σ) α}
    {next : α → Action ε (Transport σ) β}
    {before : Transport σ}
    (hands : Hands first action before)
    (then_hands : ∀ value middle, action before = .ok value middle →
      Hands second (next value) middle) :
    Hands (first ++ second) (action >>= next) before := by
  obtain ⟨part, begins, same, whole⟩ := hands
  cases run : action before with
  | ok value middle =>
      rw [run] at same whole
      obtain ⟨more, begins', same', whole'⟩ := then_hands value middle run
      have all := whole value rfl
      subst all
      refine ⟨part ++ more, (List.prefix_append_right_inj part).mpr begins', ?_, ?_⟩
      · rw [bind_of_ok run, same', ← List.append_assoc]
        exact congrArg (· ++ more) same
      · intro value' isOk
        rw [bind_of_ok run] at isOk
        rw [whole' value' isOk]
  | error error middle =>
      rw [run] at same
      refine ⟨part, begins.trans (List.prefix_append first second), ?_, ?_⟩
      · rw [bind_of_error run]
        exact same
      · intro value' isOk
        rw [bind_of_error run] at isOk
        cases isOk

theorem Hands.mapError
    {bytes : List UInt8}
    {action : Action ε (Transport σ) α}
    {before : Transport σ}
    (hands : Hands bytes action before)
    (convert : ε → ε') :
    Hands bytes (Rust.mapError convert action) before := by
  obtain ⟨part, begins, same, whole⟩ := hands
  refine ⟨part, begins, ?_, ?_⟩
  · rw [finalState_mapError]
    exact same
  · intro value isOk
    cases run : action before with
    | ok other after =>
        rw [run] at whole
        exact whole other rfl
    | error error after =>
        rw [mapError_of_error run] at isOk
        cases isOk

theorem hands_nothing
    {action : Action ε (Transport σ) α}
    {before : Transport σ}
    (same : (finalState (action before)).handed = before.handed) :
    Hands [] action before :=
  ⟨[], List.prefix_rfl, by rw [same, List.append_nil], fun _ _ => rfl⟩

section Writing

variable [Server σ]

theorem writtenBytes_receive (net : Net σ) (bytes : List UInt8) :
    writtenBytes (net.receive bytes).trace = writtenBytes net.trace := by
  refine Net.receive_induction
    (motive := fun after => writtenBytes after.trace = writtenBytes net.trace)
    (fun _ _ same _ _ => same) ?_ rfl bytes
  intro after same isOpen
  rw [Net.receiveByte_feed isOpen, writtenBytes_append, same]
  exact List.append_nil _

/-- A poll takes as many bytes as it says. -/
theorem pollWrite_written (bytes : List UInt8) (transport : Transport σ) :
    writtenBytes (pollWrite bytes transport).2.2.net.trace =
        writtenBytes transport.net.trace ++ bytes.take (pollWrite bytes transport).1 ∧
      (pollWrite bytes transport).2.2.unflushed = transport.unflushed ∧
      ((pollWrite bytes transport).2.1 = none →
        (pollWrite bytes transport).1 = bytes.length) := by
  have wrote : ∀ stream part, writtenBytes (transport.net.trace ++ [.wrote stream part]) =
      writtenBytes transport.net.trace ++ part := by
    intro stream part
    rw [writtenBytes_append]
    simp [writtenBytes]
  unfold pollWrite
  split
  · exact ⟨by simp, rfl, fun none_eq => nomatch none_eq⟩
  · dsimp only
    split
    · rename_i count error _
      refine ⟨?_, rfl, fun none_eq => nomatch none_eq⟩
      have taken : bytes.take (bytes.take count).length = bytes.take count := by
        simp [List.length_take, List.take_eq_take_iff]
      rw [taken]
      exact (writtenBytes_receive _ _).trans (wrote _ _)
    · refine ⟨?_, rfl, fun _ => rfl⟩
      rw [List.take_length]
      exact (writtenBytes_receive _ _).trans (wrote _ _)

theorem handed_flushBuf (transport : Transport σ) :
    (finalState (flushBuf transport)).handed = transport.handed := by
  obtain ⟨written, _, _⟩ := pollWrite_written transport.unflushed transport
  unfold flushBuf
  split
  · rfl
  · dsimp only
    split
    all_goals
      simp only [finalState_ok, finalState_error, handed, written, List.append_assoc,
        List.take_append_drop]

theorem hands_makeRoom (count : Nat) (transport : Transport σ) :
    Hands [] (makeRoom count) transport := by
  apply hands_nothing
  rw [makeRoom, gets_bind_apply]
  split
  · exact handed_flushBuf transport
  · rfl

/-- What goes past the buffer must find it empty. -/
theorem hands_store
    {bytes : List UInt8}
    {transport : Transport σ}
    (emptied : bufferCapacity ≤ bytes.length → transport.unflushed = []) :
    Hands bytes (store bytes) transport := by
  unfold store
  split
  · rename_i large
    obtain ⟨written, unflushed, whole⟩ := pollWrite_written bytes transport
    have same : (pollWrite bytes transport).2.2.handed =
        transport.handed ++ bytes.take (pollWrite bytes transport).1 := by
      rw [handed, handed, written, unflushed, emptied large, List.append_nil, List.append_nil]
    refine ⟨bytes.take (pollWrite bytes transport).1, List.take_prefix _ _, ?_, ?_⟩
    · unfold writeThrough
      dsimp only
      split <;> exact same
    · intro value isOk
      unfold writeThrough at isOk
      dsimp only at isOk
      split at isOk
      · rename_i none_eq
        rw [whole none_eq, List.take_length]
      · cases isOk
  · exact ⟨bytes, List.prefix_rfl, by simp [handed], fun _ _ => rfl⟩

theorem unflushed_makeRoom
    {count : Nat}
    {before middle : Transport σ}
    (room : (makeRoom count : WriterM σ Unit) before = .ok () middle)
    (large : bufferCapacity ≤ count) :
    middle.unflushed = [] := by
  rw [makeRoom, gets_bind_apply] at room
  split at room
  · unfold flushBuf at room
    split at room
    · rename_i empty
      injection room with _ same
      rw [← same]
      exact empty
    · dsimp only at room
      split at room
      · rename_i none_eq
        injection room with _ same
        rw [← same, (pollWrite_written before.unflushed before).2.2 none_eq]
        exact List.drop_length
      · cases room
  · rename_i fits
    injection room with _ same
    have none_waiting : before.unflushed.length = 0 := by omega
    rw [← same]
    exact List.length_eq_zero_iff.mp none_waiting

theorem hands_writeAll (bytes : List UInt8) (transport : Transport σ) :
    Hands bytes (writeAll bytes) transport := by
  unfold writeAll
  split
  · rename_i empty
    subst empty
    exact hands_nothing rfl
  · exact (hands_makeRoom _ transport).bind fun _ _ room =>
      hands_store (unflushed_makeRoom room)

theorem hands_flush (transport : Transport σ) : Hands [] flush transport := by
  apply hands_nothing
  have kept := handed_flushBuf transport
  rw [flush]
  cases run : flushBuf transport with
  | ok value middle =>
      rw [run] at kept
      rw [bind_of_ok run, gets_bind_apply]
      split <;> exact kept
  | error error middle =>
      rw [run] at kept
      rw [bind_of_error run]
      exact kept

/-- The writes of a command hand over its line. -/
theorem hands_commandLine (command : Str) (transport : Transport σ) :
    Hands (commandLines [command])
      (do
        writeAll (utf8 command)
        writeAll (utf8 "\r\n".toList)
        flush : WriterM σ Unit)
      transport := by
  have ending : commandLines [command] = utf8 command ++ (utf8 "\r\n".toList ++ []) := by
    have crlf : utf8 "\r\n".toList = [13, 10] := by decide
    rw [crlf]
    simp [commandLines]
  rw [ending]
  exact (hands_writeAll _ transport).bind fun _ middle _ =>
    (hands_writeAll _ middle).bind fun _ last _ => hands_flush last

/-- Sending a command hands the writer its line. -/
theorem hands_sendCommand (command : Str) (transport : Transport σ) :
    Hands (commandLines [command]) (sendCommand command) transport :=
  (hands_commandLine command transport).mapError Pop3Error.io

theorem hands_writeWindow
    (verb : Str)
    (window : List UInt32)
    (transport : Transport σ) :
    Hands (commandLines (window.map (commandFor verb)))
      (Pop3Client.writeWindow verb window) transport := by
  induction window generalizing transport with
  | nil => exact hands_nothing rfl
  | cons messageId window inductionHypothesis =>
      have bytes : commandLines ((messageId :: window).map (commandFor verb)) =
          utf8 (commandFor verb messageId ++ "\r\n".toList) ++
            commandLines (window.map (commandFor verb)) := by
        have ending : utf8 "\r\n".toList = [13, 10] := by decide
        simp only [commandLines, commandFor, List.map_cons, List.flatMap_cons,
          utf8_append, ending, List.append_assoc]
      rw [bytes]
      exact (hands_writeAll _ transport).bind fun _ middle _ => inductionHypothesis middle

/-- Sending a window hands the writer its lines. -/
theorem hands_sendWindow
    (verb : Str)
    (window : List UInt32)
    (transport : Transport σ) :
    Hands (commandLines (window.map (commandFor verb)))
      (Pop3Client.sendWindow verb window) transport := by
  rw [← List.append_nil (commandLines _)]
  exact (hands_writeWindow verb window transport).bind fun _ last _ => hands_flush last

end Writing

/-! ## Reading -/

theorem handed_log
    {event : Event}
    (silent : writtenBytes [event] = [])
    (transport : Transport σ) :
    (transport.log event).handed = transport.handed := by
  have same : writtenBytes (transport.net.trace ++ [event]) =
      writtenBytes transport.net.trace := by
    rw [writtenBytes_append, silent, List.append_nil]
  rw [handed, handed, ← same]
  rfl

/-- Reading hands nothing to the writer. -/
theorem handed_readLine (transport : Transport σ) :
    (finalState (readLine transport)).handed = transport.handed := by
  have waited : (readUntil transport).2.handed = transport.handed := by
    unfold readUntil
    split
    · rfl
    · split
      · rfl
      · simp only [handed, pollLine_trace]
  exact finalState_afterWait (motive := fun after => after.handed = transport.handed)
    (fun _ after same => (handed_log rfl after).trans same)
    (fun _ after same => (handed_log rfl after).trans same)
    (fun _ same => same) waited

/-- An exchange hands the writer the line of its command. -/
theorem hands_exchange [Server σ] (command : Str) (transport : Transport σ) :
    Hands (commandLines [command])
      (do
        sendCommand command
        let line ← readLine
        ofResult (parseStatusLine line))
      transport := by
  rw [← List.append_nil (commandLines _)]
  refine (hands_sendCommand command transport).bind fun _ middle _ => hands_nothing ?_
  have keeps : Preserves (fun after => after.handed = middle.handed)
      (do
        let line ← readLine
        ofResult (parseStatusLine line) : TransportM σ Str) :=
    .bind (fun after same => (handed_readLine after).trans same) fun _ => .ofResult _
  exact keeps middle rfl

end Transport

end Pop3
