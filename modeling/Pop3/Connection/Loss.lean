import Pop3.Connection.Traces
import Pop3.Connection.Writing

/-!
# Lost connections

On a lost connection writes may still seem to work, but nothing arrives any
more, and every read fails with an error that says so.
-/

namespace Pop3

open Rust

/-- A poll loop on a lost connection finds nothing. -/
theorem Transport.pollLine_of_lost
    {net : Net σ}
    (closed : net.isOpen = false)
    (nothing : net.wire = [])
    (ticks : List ReadTick) :
    ∃ read after, pollLine [] net ticks = (read, [], after) ∧
      after.isOpen = false ∧ after.wire = [] ∧ after.trace = net.trace ∧
      (read = .line [] ∨ (∃ lost, read = .timedOut lost) ∨ ∃ error, read = .failed error) := by
  cases ticks with
  | nil => exact ⟨.line [], { net with wire := [], reads := [] },
      by simp [pollLine, splitFeed, nothing, closed], closed, rfl, rfl, .inl rfl⟩
  | cons tick ticks =>
      cases tick with
      | deadline => exact ⟨_, _, rfl, closed, nothing, rfl, .inr (.inl ⟨_, rfl⟩)⟩
      | drop loss =>
          cases loss with
          | endOfFile => exact ⟨_, _, rfl, rfl, rfl, rfl, .inl rfl⟩
          | error error => exact ⟨_, _, rfl, rfl, rfl, rfl, .inr (.inr ⟨error, rfl⟩)⟩
          | silence => exact ⟨_, _, rfl, rfl, rfl, rfl, .inr (.inl ⟨_, rfl⟩)⟩
      | arrive count =>
          exact ⟨.line [], { net with wire := [], reads := ticks },
            by simp [pollLine, nothing, closed], closed, rfl, rfl, .inl rfl⟩

/-- Reading from a lost connection fails with an I/O-level error. -/
theorem Dead.readLine
    {transport : Transport σ}
    (dead : Dead transport) :
    ∃ error after, Transport.readLine transport = .error error after ∧
      Pop3Client.isIoLevel error = true ∧ Dead after := by
  obtain ⟨buffer, wire⟩ := List.append_eq_nil_iff.mp dead.pending
  rw [Transport.readLine_eq]
  unfold Transport.readUntil
  simp only [buffer, Transport.splitFeed]
  by_cases upgrading : transport.stream = .upgrading
  · rw [if_pos upgrading]
    exact ⟨_, _, rfl, rfl, dead.isOpen, by simp [Transport.pending, wire]⟩
  · rw [if_neg upgrading]
    obtain ⟨read, after, polled, isOpen, wire', _, kind⟩ :=
      Transport.pollLine_of_lost dead.isOpen wire transport.net.reads
    rw [polled]
    rcases kind with rfl | ⟨lost, rfl⟩ | ⟨error, rfl⟩
    · exact ⟨.connectionClosed, _, rfl, rfl, isOpen, wire'⟩
    · exact ⟨.timeout, _, rfl, rfl, isOpen, wire'⟩
    · exact ⟨.io error, _, rfl, rfl, isOpen, wire'⟩

theorem preserves_dead_readLine :
    Preserves Dead (Transport.readLine : TransportM σ Str) := by
  intro transport dead
  obtain ⟨error, after, run, _, dead'⟩ := dead.readLine
  rw [run]
  exact dead'

theorem survivesWrites_dead [Server σ] :
    SurvivesWrites (Dead : Transport σ → Prop) := by
  refine .of_emit (fun _ _ dead => ⟨dead.isOpen, dead.pending⟩) ?_ ?_
  · intro transport bytes dead
    rw [Transport.emit, Net.receive_of_closed (by exact dead.isOpen)]
    exact ⟨dead.isOpen, dead.pending⟩
  · intro transport dead
    obtain ⟨buffer, _⟩ := List.append_eq_nil_iff.mp dead.pending
    exact ⟨rfl, by rw [Transport.pending, buffer]; rfl⟩

theorem survivesSteps_dead [Server σ] : SurvivesSteps (Dead : Transport σ → Prop) :=
  survivesWrites_dead.steps preserves_dead_readLine

/-- What stays lost is also gone in the sense of the weather. -/
theorem gone_of_dead
    {action : Action ε (Transport σ) α}
    (preserves : Preserves Dead action)
    (weather : Weather) :
    Preserves (mishaps weather).gone action :=
  fun _ gone => ⟨gone.1, preserves _ gone.2⟩

/-- The transport reads the body its view reads. -/
theorem readMultilineUpTo_follows (weather : Weather) (rounds : Nat) (body : Str) :
    Follows (Shows weather) (mishaps weather)
      (Transport.readMultilineUpTo rounds body : TransportM σ Str)
      (View.readMultilineUpTo rounds body) := by
  induction rounds generalizing body with
  | zero => exact .throw _
  | succ rounds inductionHypothesis =>
      refine .bind (readLine_follows weather) (fun line => ?_) fun line => ?_
      · dsimp only
        split
        · exact .pure body
        · exact inductionHypothesis _
      · dsimp only
        split
        · exact .pure body
        · exact gone_of_dead (preserves_readMultilineUpTo preserves_dead_readLine _ _) weather

theorem readMultiline_follows (weather : Weather) :
    Follows (Shows weather) (mishaps weather)
      (Transport.readMultiline : TransportM σ Str) View.readMultiline := by
  intro view transport shown
  have lengths : transport.pending.length = view.pending.length := by
    rw [shown.pending]
  have follows := readMultilineUpTo_follows weather (view.pending.length + 1) []
    view transport shown
  unfold Transport.readMultiline
  rw [gets_bind_apply, lengths]
  exact follows

/-- Without mishaps a body is read from the transport as from its view. -/
theorem Shows.readMultiline
    {transport : Transport σ}
    {view : View σ}
    (shown : Shows calm transport view) :
    returned (Transport.readMultiline transport) = returned view.readMultiline ∧
      Shows calm (finalState (Transport.readMultiline transport))
        (finalState view.readMultiline) := by
  have follows := readMultiline_follows calm view
  rw [mishaps_calm] at follows
  exact follows.of_none shown

/-! ## Sending without a stream -/

section Sending

variable [Server σ]

/-- The action fails when the stream is gone. -/
def FailsWhenGone (action : Action ε (Transport σ) α) : Prop :=
  ∀ transport, IsGone transport → ∃ error, returned (action transport) = .error error

omit [Server σ] in
theorem FailsWhenGone.bind
    {action : Action ε (Transport σ) α}
    {next : α → Action ε (Transport σ) β}
    (keeps : Preserves IsGone action)
    (fails : ∀ value, FailsWhenGone (next value)) :
    FailsWhenGone (action >>= next) := by
  intro transport gone
  have after := keeps transport gone
  cases run : action transport with
  | ok value last =>
      rw [run] at after
      rw [bind_of_ok run]
      exact fails value last after
  | error error last => exact ⟨error, by rw [bind_of_error run]; rfl⟩

theorem failsWhenGone_flush : FailsWhenGone (Transport.flush : WriterM σ Unit) := by
  refine .bind lasting_true.survivesWrites.flushBuf fun _ transport gone => ?_
  have upgrading : transport.stream = .upgrading := gone.stream
  rw [gets_bind_apply, upgrading]
  exact ⟨upgradingError, rfl⟩

/-- No command can be sent when the stream is gone. -/
theorem failsWhenGone_sendCommand (command : Str) :
    FailsWhenGone (Transport.sendCommand command : TransportM σ Unit) := by
  have fails : FailsWhenGone (do
      Transport.writeAll (utf8 command)
      Transport.writeAll (utf8 "\r\n".toList)
      Transport.flush : WriterM σ Unit) :=
    .bind (lasting_true.survivesWrites.writeAll _) fun _ =>
      .bind (lasting_true.survivesWrites.writeAll _) fun _ => failsWhenGone_flush
  intro transport gone
  obtain ⟨error, failed⟩ := fails transport gone
  exact ⟨.io error, by rw [Transport.sendCommand, mapError_of_error (eq_error_of_returned failed)]; rfl⟩

/-- No window can be sent either. -/
theorem failsWhenGone_sendWindow (verb : Str) (window : List UInt32) :
    FailsWhenGone (Pop3Client.sendWindow verb window : WriterM σ Unit) :=
  .bind (lasting_true.survivesWrites.writeWindow verb window) fun _ => failsWhenGone_flush

end Sending

end Pop3
