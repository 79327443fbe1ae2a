import Pop3.Batches
import Pop3.Connection.Traces

/-!
# Discipline after a timeout

A reply that was too late is still on its way.  Whoever writes another command
then takes it for the reply to that command.
-/

namespace Pop3

open Rust Pop3Client

/-! ## Traces -/

def Event.isTimedOut : Event → Bool
  | .timedOut _ => true
  | _ => false

def HasTimedOut (trace : List Event) : Prop := ∃ event ∈ trace, event.isTimedOut = true

instance (trace : List Event) : Decidable (HasTimedOut trace) :=
  inferInstanceAs (Decidable (∃ event ∈ trace, _))

/-- Nothing is written once a read has timed out. -/
def Disciplined (trace : List Event) : Prop :=
  ∀ before after, trace = before ++ after → HasTimedOut before →
    ∀ stream bytes, .wrote stream bytes ∉ after

/-- A timeout that nothing follows is no breach. -/
theorem disciplined_of_dropLast
    {trace : List Event}
    (punctual : ¬HasTimedOut trace.dropLast) :
    Disciplined trace := by
  rintro before after rfl ⟨event, member, timedOut⟩ stream bytes wrote
  apply punctual
  refine ⟨event, ?_, timedOut⟩
  rw [List.dropLast_append_of_ne_nil (List.ne_nil_of_mem wrote)]
  exact List.mem_append_left _ member

theorem lasting_hasTimedOut (allowed : InnerStream → Bool → Prop) :
    Lasting allowed HasTimedOut :=
  fun _ _ _ ⟨event, member, timedOut⟩ => ⟨event, List.mem_append_left _ member, timedOut⟩

theorem lasting_undisciplined (allowed : InnerStream → Bool → Prop) :
    Lasting allowed fun trace => ¬Disciplined trace := by
  intro trace event _ undisciplined disciplined
  apply undisciplined
  intro before after split timedOut stream bytes member
  refine disciplined before (after ++ [event]) (by rw [split, List.append_assoc]) timedOut
    stream bytes ?_
  exact List.mem_append_left _ member

theorem undisciplined_of_wrote
    {trace : List Event}
    (timedOut : HasTimedOut trace)
    (stream : InnerStream)
    (bytes : List UInt8) :
    ¬Disciplined (trace ++ [.wrote stream bytes]) :=
  fun disciplined => disciplined trace _ rfl timedOut stream bytes List.mem_cons_self

/-! ## Transports -/

/-- A read of this connection has timed out. -/
abbrev Overdue : Transport σ → Prop := Observed (fun stream _ => stream ≠ .upgrading) HasTimedOut

/-- Something has been written since. -/
abbrev Reckless : Transport σ → Prop :=
  Observed (fun _ _ => True) fun trace => ¬Disciplined trace

section Writing

variable [Server σ] {transport : Transport σ}

theorem Overdue.pollWrite (overdue : Overdue transport) (bytes : List UInt8) :
    Reckless (Transport.pollWrite bytes transport).2.2 := by
  have wrote := undisciplined_of_wrote overdue.trace transport.stream
  have lasting := lasting_undisciplined fun _ _ => True
  unfold Transport.pollWrite
  split
  · rename_i upgrading
    exact absurd upgrading overdue.stream
  · dsimp only
    split
    · exact ⟨trivial, lasting.receive (wrote _) _⟩
    · exact ⟨trivial, lasting.receive (wrote _) _⟩

theorem Overdue.flushBuf
    (overdue : Overdue transport)
    (unflushed : transport.unflushed ≠ []) :
    Reckless (finalState (Transport.flushBuf transport)) := by
  have after := overdue.pollWrite transport.unflushed
  unfold Transport.flushBuf
  rw [if_neg unflushed]
  dsimp only
  split <;> exact ⟨trivial, after.trace⟩

theorem survivesWrites_reckless : SurvivesWrites (Reckless : Transport σ → Prop) :=
  (lasting_undisciplined _).survivesWrites

theorem Overdue.makeRoom (overdue : Overdue transport) (count : Nat) :
    Reckless (finalState (Transport.makeRoom count transport)) ∨
      Transport.makeRoom count transport = .ok () transport := by
  rw [Transport.makeRoom, gets_bind_apply]
  split
  · by_cases unflushed : transport.unflushed = []
    · right
      rw [Transport.flushBuf, if_pos unflushed]
    · exact .inl (overdue.flushBuf unflushed)
  · exact .inr rfl

theorem Overdue.store
    (overdue : Overdue transport)
    {bytes : List UInt8}
    (nonempty : bytes ≠ []) :
    Reckless (finalState (Transport.store bytes transport)) ∨
      ∃ after, Transport.store bytes transport = .ok () after ∧ Overdue after ∧
        after.unflushed ≠ [] := by
  unfold Transport.store
  split
  · left
    have after := overdue.pollWrite bytes
    unfold Transport.writeThrough
    dsimp only
    split <;> exact after
  · exact .inr ⟨_, rfl, ⟨overdue.stream, overdue.trace⟩, by simp [nonempty]⟩

/-- Bytes to be written are written at once, or wait in the buffer. -/
theorem Overdue.writeAll
    (overdue : Overdue transport)
    (bytes : List UInt8) :
    Reckless (finalState (Transport.writeAll bytes transport)) ∨
      ∃ after, Transport.writeAll bytes transport = .ok () after ∧ Overdue after ∧
        (bytes ≠ [] ∨ transport.unflushed ≠ [] → after.unflushed ≠ []) := by
  unfold Transport.writeAll
  split
  · rename_i empty
    exact .inr ⟨transport, rfl, overdue, fun either => either.resolve_left (· empty)⟩
  · rename_i nonempty
    rcases overdue.makeRoom bytes.length with reckless | unchanged
    · exact .inl (Preserves.finalState_bind reckless
        fun _ => survivesWrites_reckless.store bytes)
    · rw [bind_of_ok unchanged]
      rcases overdue.store nonempty with reckless | ⟨after, run, overdue', waiting⟩
      · exact .inl reckless
      · exact .inr ⟨after, run, overdue', fun _ => waiting⟩

theorem Overdue.flush
    (overdue : Overdue transport)
    (unflushed : transport.unflushed ≠ []) :
    Reckless (finalState (Transport.flush transport)) := by
  refine Preserves.finalState_bind (overdue.flushBuf unflushed) fun _ => ?_
  refine .bind (.gets _) fun stream => ?_
  split
  · exact .throw _
  · exact .pure ()

/-- A command is written. -/
theorem Overdue.sendCommand (overdue : Overdue transport) (command : Str) :
    Reckless (finalState (Transport.sendCommand command transport)) := by
  have flush : Preserves Reckless (Transport.flush : WriterM σ Unit) :=
    survivesWrites_reckless.flush
  rw [Transport.sendCommand, finalState_mapError]
  rcases overdue.writeAll (utf8 command) with reckless | ⟨middle, run, overdue', _⟩
  · exact Preserves.finalState_bind reckless fun _ =>
      .bind (survivesWrites_reckless.writeAll _) fun _ => flush
  · rw [bind_of_ok run]
    rcases overdue'.writeAll (utf8 "\r\n".toList) with reckless | ⟨last, run, overdue'', waiting⟩
    · exact Preserves.finalState_bind reckless fun _ => flush
    · rw [bind_of_ok run]
      exact overdue''.flush (waiting (.inl (by decide)))

theorem commandLine_ne_nil (verb : Str) (messageId : UInt32) :
    utf8 (commandFor verb messageId ++ "\r\n".toList) ≠ [] := by
  have ending : utf8 "\r\n".toList ≠ [] := by decide
  simp only [utf8_append, ne_eq, List.append_eq_nil_iff, not_and]
  exact fun _ => ending

theorem Overdue.writeWindow
    (overdue : Overdue transport)
    (verb : Str)
    (window : List UInt32) :
    Reckless (finalState (Pop3Client.writeWindow verb window transport)) ∨
      ∃ after, Pop3Client.writeWindow verb window transport = .ok () after ∧ Overdue after ∧
        (window ≠ [] ∨ transport.unflushed ≠ [] → after.unflushed ≠ []) := by
  induction window generalizing transport with
  | nil => exact .inr ⟨transport, rfl, overdue, fun either => either.resolve_left (· rfl)⟩
  | cons messageId window inductionHypothesis =>
      rw [Pop3Client.writeWindow]
      rcases overdue.writeAll (utf8 (commandFor verb messageId ++ "\r\n".toList)) with
        reckless | ⟨middle, run, overdue', waiting⟩
      · exact .inl (Preserves.finalState_bind reckless
          fun _ => survivesWrites_reckless.writeWindow verb window)
      · rw [bind_of_ok run]
        have waits := waiting (.inl (commandLine_ne_nil verb messageId))
        rcases inductionHypothesis overdue' with reckless | ⟨after, run, overdue'', waiting'⟩
        · exact .inl reckless
        · exact .inr ⟨after, run, overdue'', fun _ => waiting' (.inr waits)⟩

/-- The commands of a window are written. -/
theorem Overdue.sendWindow
    (overdue : Overdue transport)
    (verb : Str)
    {window : List UInt32}
    (nonempty : window ≠ []) :
    Reckless (finalState (Pop3Client.sendWindow verb window transport)) := by
  rcases overdue.writeWindow verb window with reckless | ⟨after, run, overdue', waiting⟩
  · exact Preserves.finalState_bind reckless fun _ => survivesWrites_reckless.flush
  · rw [Pop3Client.sendWindow, bind_of_ok run]
    exact overdue'.flush (waiting (.inl nonempty))

end Writing

end Pop3
