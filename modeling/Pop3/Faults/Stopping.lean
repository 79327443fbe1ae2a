import Mathlib.Logic.Relation
import Pop3.Agreement.Replies
import Pop3.Faults.Reading

/-!
# Stopping at a fault

What a batch does to its connection is to read lines, to write bytes and to flush, one
after another.  Once one of these has failed it does no more.
-/

namespace Pop3

open Rust Pop3Client

section Using

variable [Server σ]

/-- The connection is used once, with success. -/
inductive Uses : Transport σ → Transport σ → Prop
  | read {before after : Transport σ} {line : Str} :
      Transport.readLine before = .ok line after → Uses before after
  | write {before after : Transport σ} {bytes : List UInt8} :
      Transport.writeAll bytes before = .ok () after → Uses before after
  | flush {before after : Transport σ} :
      Transport.flush before = .ok () after → Uses before after

/-- The connection is used once, and that fails. -/
inductive Breaks : Transport σ → Transport σ → Prop
  | read {before after : Transport σ} {error : Pop3Error} :
      Transport.readLine before = .error error after → Breaks before after
  | write {before after : Transport σ} {bytes : List UInt8} {error : IoError} :
      Transport.writeAll bytes before = .error error after → Breaks before after
  | flush {before after : Transport σ} {error : IoError} :
      Transport.flush before = .error error after → Breaks before after

/-- From the first state to the second, nothing has failed. -/
abbrev RunsThrough : Transport σ → Transport σ → Prop := Relation.ReflTransGen Uses

/-- From the first state on nothing has failed until something did, and that has led to
the second state. -/
def StopsAtFault (start last : Transport σ) : Prop :=
  ∃ middle, RunsThrough start middle ∧ Breaks middle last

theorem StopsAtFault.behind
    {start middle last : Transport σ}
    (through : RunsThrough start middle)
    (stops : StopsAtFault middle last) :
    StopsAtFault start last := by
  obtain ⟨before, further, breaks⟩ := stops
  exact ⟨before, through.trans further, breaks⟩

/-! ## Sending -/

theorem writeWindow_uses
    {verb : Str}
    {window : List UInt32}
    {before : Transport σ} :
    (∀ after, writeWindow verb window before = .ok () after → RunsThrough before after) ∧
      ∀ error after, writeWindow verb window before = .error error after →
        StopsAtFault before after := by
  induction window generalizing before with
  | nil =>
      refine ⟨fun after run => ?_, fun _ _ failed => by cases failed⟩
      cases run
      exact .refl
  | cons messageId window inductionHypothesis =>
      rw [writeWindow]
      cases run : Transport.writeAll (utf8 (commandFor verb messageId ++ "\r\n".toList))
          before with
      | ok _ middle =>
          rw [bind_of_ok run]
          have first : RunsThrough before middle := .single (.write run)
          exact ⟨fun after run => first.trans (inductionHypothesis.1 after run),
            fun error after failed =>
              (inductionHypothesis.2 error after failed).behind first⟩
      | error error middle =>
          rw [bind_of_error run]
          refine ⟨fun _ run => (by cases run), fun _ after failed => ?_⟩
          cases failed
          exact ⟨before, .refl, .write run⟩

/-- A send phase runs through, or stops at its fault. -/
theorem sendWindow_uses
    {verb : Str}
    {window : List UInt32}
    {before : Transport σ} :
    (∀ after, sendWindow verb window before = .ok () after → RunsThrough before after) ∧
      ∀ error after, sendWindow verb window before = .error error after →
        StopsAtFault before after := by
  obtain ⟨written, unwritten⟩ := @writeWindow_uses _ _ verb window before
  rw [sendWindow]
  cases run : writeWindow verb window before with
  | ok _ middle =>
      rw [bind_of_ok run]
      have first := written middle run
      exact ⟨fun after flushed => first.tail (.flush flushed),
        fun _ after failed => ⟨middle, first, .flush failed⟩⟩
  | error error middle =>
      rw [bind_of_error run]
      refine ⟨fun _ run => (by cases run), fun _ after failed => ?_⟩
      cases failed
      exact unwritten error middle run

/-! ## Reading -/

/-- Whatever the action has done has worked, and its error, if it returns one, is not of the
connection; or it has stopped at a fault, and its error is of the connection. -/
def HaltsAtFault (action : ClientM σ α) : Prop :=
  ∀ client : Pop3Client σ,
    (RunsThrough client.transport (finalState (action client)).transport ∧
      ∀ error, returned (action client) = .error error → isIoLevel error = false) ∨
    (StopsAtFault client.transport (finalState (action client)).transport ∧
      ∃ error, returned (action client) = .error error ∧ isIoLevel error = true)

omit [Server σ] in
theorem Transport.isIoLevel_readLine
    {before after : Transport σ}
    {error : Pop3Error}
    (failed : readLine before = .error error after) :
    isIoLevel error = true := by
  rw [readLine_eq] at failed
  cases wait : readUntil before with
  | mk read middle =>
      rw [wait] at failed
      unfold afterWait at failed
      cases read with
      | timedOut lost =>
          cases failed
          rfl
      | failed error =>
          cases failed
          rfl
      | line bytes =>
          dsimp only at failed
          split at failed
          · cases failed
            rfl
          · split at failed
            · cases failed
              rfl
            · cases failed

theorem Transport.readMultilineUpTo_uses
    {rounds : Nat}
    {body : Str}
    {transport : Transport σ}
    (enough : transport.pending.length < rounds) :
    (∀ text after, readMultilineUpTo rounds body transport = .ok text after →
        RunsThrough transport after) ∧
      ∀ error after, readMultilineUpTo rounds body transport = .error error after →
        StopsAtFault transport after ∧ isIoLevel error = true := by
  induction rounds generalizing body transport with
  | zero => omega
  | succ rounds inductionHypothesis =>
      rw [readMultilineUpTo]
      cases read : readLine transport with
      | error error middle =>
          rw [bind_of_error read]
          refine ⟨fun _ _ run => (by cases run), fun _ after failed => ?_⟩
          cases failed
          exact ⟨⟨transport, .refl, .read read⟩, isIoLevel_readLine read⟩
      | ok line middle =>
          have first : RunsThrough transport middle := .single (.read read)
          have shorter := readLine_shorter read
          rw [bind_of_ok read]
          split
          · refine ⟨fun _ after run => ?_, fun _ _ failed => by cases failed⟩
            cases run
            exact first
          · obtain ⟨reads, fails⟩ := @inductionHypothesis
              (body ++ unstuff (trimLine line) ++ "\n".toList) middle (by omega)
            exact ⟨fun text after run => first.trans (reads text after run),
              fun error after failed =>
                ⟨(fails error after failed).1.behind first, (fails error after failed).2⟩⟩

namespace HaltsAtFault

theorem pure (value : α) : HaltsAtFault (Pure.pure value : ClientM σ α) :=
  fun _ => .inl ⟨.refl, fun _ failed => by cases failed⟩

theorem bind
    {action : ClientM σ α}
    {next : α → ClientM σ β}
    (first : HaltsAtFault action)
    (rest : ∀ value, HaltsAtFault (next value)) :
    HaltsAtFault (action >>= next) := by
  intro client
  have begins := first client
  cases run : action client with
  | ok value middle =>
      rw [run] at begins
      rw [bind_of_ok run]
      rcases begins with ⟨through, _⟩ | ⟨_, _, failed, _⟩
      · rcases rest value middle with ⟨further, final⟩ | ⟨stops, failed⟩
        · exact .inl ⟨through.trans further, final⟩
        · exact .inr ⟨stops.behind through, failed⟩
      · cases failed
  | error error middle =>
      rw [run] at begins
      rw [bind_of_error run]
      exact begins.imp
        (fun begins => ⟨begins.1, fun other same => begins.2 other (by cases same; rfl)⟩)
        fun begins => ⟨begins.1, by
          obtain ⟨other, same, ioLevel⟩ := begins.2
          cases same
          exact ⟨error, rfl, ioLevel⟩⟩

/-- A refused status line is no error of the connection. -/
theorem status (line : Str) : HaltsAtFault (ofResult (parseStatusLine line) : ClientM σ Str) := by
  intro client
  cases parsed : parseStatusLine line with
  | ok text => exact .inl ⟨.refl, fun _ failed => by cases failed⟩
  | error error =>
      refine .inl ⟨.refl, fun other failed => ?_⟩
      cases failed
      exact isIoLevel_parseStatusLine parsed

theorem readLine : HaltsAtFault (transportField.run Transport.readLine : ClientM σ Str) := by
  intro client
  cases read : Transport.readLine client.transport with
  | ok line inner =>
      rw [Field.run_of_ok read]
      exact .inl ⟨.single (.read read), fun _ failed => by cases failed⟩
  | error error inner =>
      rw [Field.run_of_error read]
      exact .inr ⟨⟨client.transport, .refl, .read read⟩, error, rfl,
        Transport.isIoLevel_readLine read⟩

theorem readBody : HaltsAtFault (readBody : ClientM σ Str) := by
  intro client
  obtain ⟨reads, fails⟩ := @Transport.readMultilineUpTo_uses _ _ _ []
    client.transport (Nat.lt_succ_self _)
  cases read : Transport.readMultiline client.transport with
  | ok text inner =>
      rw [Pop3Client.readBody, Field.run_of_ok read]
      rw [Transport.readMultiline, gets_bind_apply] at read
      exact .inl ⟨reads text inner read, fun _ failed => by cases failed⟩
  | error error inner =>
      rw [Pop3Client.readBody, Field.run_of_error read]
      rw [Transport.readMultiline, gets_bind_apply] at read
      exact .inr ⟨(fails error inner read).1, error, rfl, (fails error inner read).2⟩

end HaltsAtFault

end Using

end Pop3
