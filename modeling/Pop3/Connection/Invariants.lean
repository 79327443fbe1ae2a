import Pop3.Client
import Pop3.Connection.Weather

/-!
# Invariants of a connection

What one poll of the write half keeps, every write keeps, and what one line
read keeps, every read keeps.
-/

namespace Pop3

open Rust

/-- The property does not depend on the write buffer, and a poll of the write
half keeps it. -/
structure SurvivesWrites [Server σ] (invariant : Transport σ → Prop) : Prop where
  pollWrite : ∀ transport bytes, invariant transport →
    invariant (Transport.pollWrite bytes transport).2.2
  unflushed : ∀ (transport : Transport σ) unflushed, invariant transport →
    invariant { transport with unflushed }

section Writing

variable [Server σ] {invariant : Transport σ → Prop}

/-- A poll of the write half emits bytes, and may lose the connection then. -/
theorem SurvivesWrites.of_emit
    (unflushed : ∀ (transport : Transport σ) unflushed, invariant transport →
      invariant { transport with unflushed })
    (emit : ∀ (transport : Transport σ) bytes, invariant transport →
      invariant (transport.emit bytes))
    (lose : ∀ transport : Transport σ, invariant transport →
      invariant { transport with net := transport.net.lose }) :
    SurvivesWrites invariant where
  unflushed := unflushed
  pollWrite transport bytes holds := by
    unfold Transport.pollWrite
    split
    · exact holds
    · dsimp only
      split
      · rename_i count _ _
        exact lose _ (emit transport (bytes.take count) holds)
      · exact emit transport bytes holds

theorem SurvivesWrites.flushBuf (survives : SurvivesWrites invariant) :
    Preserves invariant (Transport.flushBuf : WriterM σ Unit) := by
  intro transport holds
  have after := survives.pollWrite transport transport.unflushed holds
  unfold Transport.flushBuf
  split
  · exact holds
  · dsimp only
    split <;> exact survives.unflushed _ _ after

theorem SurvivesWrites.writeThrough (survives : SurvivesWrites invariant)
    (bytes : List UInt8) :
    Preserves invariant (Transport.writeThrough bytes : WriterM σ Unit) := by
  intro transport holds
  have after := survives.pollWrite transport bytes holds
  unfold Transport.writeThrough
  dsimp only
  split <;> exact after

theorem SurvivesWrites.makeRoom (survives : SurvivesWrites invariant) (count : Nat) :
    Preserves invariant (Transport.makeRoom count : WriterM σ Unit) := by
  refine .bind (.gets _) fun buffered => ?_
  split
  · exact survives.flushBuf
  · exact .pure ()

theorem SurvivesWrites.store (survives : SurvivesWrites invariant) (bytes : List UInt8) :
    Preserves invariant (Transport.store bytes : WriterM σ Unit) := by
  unfold Transport.store
  split
  · exact survives.writeThrough bytes
  · exact .modify fun transport holds => survives.unflushed transport _ holds

theorem SurvivesWrites.writeAll (survives : SurvivesWrites invariant) (bytes : List UInt8) :
    Preserves invariant (Transport.writeAll bytes : WriterM σ Unit) := by
  unfold Transport.writeAll
  split
  · exact .pure ()
  · exact .bind (survives.makeRoom _) fun _ => survives.store bytes

theorem SurvivesWrites.flush (survives : SurvivesWrites invariant) :
    Preserves invariant (Transport.flush : WriterM σ Unit) := by
  refine .bind survives.flushBuf fun _ => .bind (.gets _) fun stream => ?_
  split
  · exact .throw _
  · exact .pure ()

theorem SurvivesWrites.sendCommand (survives : SurvivesWrites invariant) (command : Str) :
    Preserves invariant (Transport.sendCommand command : TransportM σ Unit) :=
  .mapError (.bind (survives.writeAll _) fun _ =>
    .bind (survives.writeAll _) fun _ => survives.flush)

theorem SurvivesWrites.writeWindow (survives : SurvivesWrites invariant)
    (verb : Str) (window : List UInt32) :
    Preserves invariant (Pop3Client.writeWindow verb window : WriterM σ Unit) := by
  induction window with
  | nil => exact .pure ()
  | cons messageId window inductionHypothesis =>
      exact .bind (survives.writeAll _) fun _ => inductionHypothesis

theorem SurvivesWrites.sendWindow (survives : SurvivesWrites invariant)
    (verb : Str) (window : List UInt32) :
    Preserves invariant (Pop3Client.sendWindow verb window : WriterM σ Unit) :=
  .bind (survives.writeWindow verb window) fun _ => survives.flush

end Writing

section Reading

variable {invariant : Transport σ → Prop}

theorem preserves_readMultilineUpTo
    (reads : Preserves invariant (Transport.readLine : TransportM σ Str))
    (rounds : Nat)
    (body : Str) :
    Preserves invariant (Transport.readMultilineUpTo rounds body : TransportM σ Str) := by
  induction rounds generalizing body with
  | zero => exact .throw _
  | succ rounds inductionHypothesis =>
      refine .bind reads fun line => ?_
      dsimp only
      split
      · exact .pure body
      · exact inductionHypothesis _

theorem preserves_readMultiline
    (reads : Preserves invariant (Transport.readLine : TransportM σ Str)) :
    Preserves invariant (Transport.readMultiline : TransportM σ Str) :=
  .bind (.gets _) fun _ => preserves_readMultilineUpTo reads _ _

end Reading

/-- Each step of an operation on its transport keeps the property. -/
structure SurvivesSteps [Server σ] (invariant : Transport σ → Prop) : Prop where
  send : ∀ command,
    Preserves invariant (Transport.sendCommand command : TransportM σ Unit)
  window : ∀ verb ids,
    Preserves invariant (Pop3Client.sendWindow verb ids : WriterM σ Unit)
  read : Preserves invariant (Transport.readLine : TransportM σ Str)

theorem SurvivesWrites.steps [Server σ]
    {invariant : Transport σ → Prop}
    (survives : SurvivesWrites invariant)
    (reads : Preserves invariant (Transport.readLine : TransportM σ Str)) :
    SurvivesSteps invariant where
  send := survives.sendCommand
  window := survives.sendWindow
  read := reads

/-- Each of two properties that are kept. -/
theorem SurvivesSteps.or [Server σ]
    {first second : Transport σ → Prop}
    (keepsFirst : SurvivesSteps first)
    (keepsSecond : SurvivesSteps second) :
    SurvivesSteps fun transport => first transport ∨ second transport where
  send command := (keepsFirst.send command).or (keepsSecond.send command)
  window verb ids := (keepsFirst.window verb ids).or (keepsSecond.window verb ids)
  read := keepsFirst.read.or keepsSecond.read

end Pop3
