import Pop3.Agreement.Replies
import Pop3.Connection.Handing
import Pop3.Connection.Readiness

/-!
# Reading until something fails

Whatever happens on the way, a reader does what its view does until a read fails,
unless it has taken the beginning of a line for a line at the end of the stream.
-/

namespace Pop3

open Rust Pop3Client

/-- Replies may be late, and the connection may be lost at any point. -/
def stormy : Weather := { late := true, lossy := true }

/-! ## Torn lines -/

/-- Since the observation, something was consumed as a line that does not end with LF. -/
def Torn (start : List Event) (transport : Transport σ) : Prop :=
  ∃ events bytes, transport.net.trace = start ++ events ∧ .consumed bytes ∈ events ∧
    ¬IsWhole bytes

/-- What was taken, if anything was, was whole. -/
def Event.isWhole : Event → Bool
  | .consumed bytes => bytes.getLast?.all (· == 10)
  | _ => true

theorem not_torn_of_isWhole
    {transport : Transport σ}
    (whole : transport.net.trace.all Event.isWhole = true) :
    ¬Torn [] transport := by
  rintro ⟨events, bytes, same, member, torn⟩
  rw [same, List.nil_append] at whole
  have isWhole := List.all_eq_true.mp whole _ member
  refine torn fun byte found => ?_
  rw [Event.isWhole, Option.mem_def.mp found] at isWhole
  simpa using isWhole

theorem lasting_torn (start : List Event) :
    Lasting (fun _ _ => True) fun trace => ∃ events bytes, trace = start ++ events ∧
      .consumed bytes ∈ events ∧ ¬IsWhole bytes := by
  rintro trace event - ⟨events, bytes, rfl, member, torn⟩
  exact ⟨events ++ [event], bytes, List.append_assoc _ _ _, List.mem_append_left _ member, torn⟩

theorem survivesSteps_torn [Server σ] (start : List Event) :
    SurvivesSteps (Torn start : Transport σ → Prop) := by
  have steps : SurvivesSteps (Observed _ _ : Transport σ → Prop) := (lasting_torn start).steps
  exact
    { send := fun command transport torn => (steps.send command transport ⟨trivial, torn⟩).trace
      window := fun verb ids transport torn =>
        (steps.window verb ids transport ⟨trivial, torn⟩).trace
      read := fun transport torn => (steps.read transport ⟨trivial, torn⟩).trace }

namespace Transport

/-- A poll loop finds the next line, or what is left at the end of the stream. -/
theorem pollLine_line
    {line bytes : List UInt8}
    (noFeed : 10 ∉ line)
    {net : Net σ}
    {ticks : List ReadTick}
    (found : (pollLine line net ticks).1 = .line bytes) :
    (∃ buffer wire reads,
      pollLine line net ticks = (.line bytes, buffer, { net with wire, reads }) ∧
      splitFeed (line ++ net.wire) = some (bytes, buffer ++ wire)) ∨ 10 ∉ bytes := by
  induction ticks generalizing line net with
  | nil =>
      unfold pollLine at found ⊢
      dsimp only at found ⊢
      rw [splitFeed_append noFeed]
      cases split : splitFeed net.wire with
      | some parts =>
          rw [split] at found
          cases found
          exact .inl ⟨parts.2, [], [], rfl, by simp⟩
      | none =>
          rw [split] at found
          dsimp only at found
          split at found
          · cases found
          · cases found
            exact .inr (by simp [noFeed, not_mem_of_splitFeed_eq_none split])
  | cons tick ticks inductionHypothesis =>
      cases tick with
      | deadline => cases found
      | drop loss =>
          cases loss with
          | endOfFile =>
              cases found
              exact .inr noFeed
          | error error => cases found
          | silence => cases found
      | arrive count =>
          by_cases empty : net.wire = []
          · simp only [pollLine, empty, ↓reduceIte] at found
            split at found
            · cases found
            · cases found
              exact .inr noFeed
          · have parts := List.take_append_drop (count + 1) net.wire
            cases split : splitFeed (net.wire.take (count + 1)) with
            | some piece =>
                have whole := splitFeed_append_of_eq_some split (net.wire.drop (count + 1))
                rw [parts] at whole
                have step : pollLine line net (.arrive count :: ticks) =
                    (.line (line ++ piece.1), piece.2,
                      { net with wire := net.wire.drop (count + 1), reads := ticks }) := by
                  simp [pollLine, empty, split]
                rw [step] at found ⊢
                cases found
                exact .inl ⟨_, _, _, rfl, by simp [splitFeed_append noFeed, whole]⟩
            | none =>
                have noFeed' : 10 ∉ line ++ net.wire.take (count + 1) := by
                  simp [noFeed, not_mem_of_splitFeed_eq_none split]
                have step : pollLine line net (.arrive count :: ticks) =
                    pollLine (line ++ net.wire.take (count + 1))
                      { net with wire := net.wire.drop (count + 1), reads := ticks }
                      ticks := by
                  simp [pollLine, empty, split]
                rw [step] at found ⊢
                rcases inductionHypothesis noFeed' found with ⟨buffer, wire, reads, polled, next⟩ | torn
                · rw [List.append_assoc, parts] at next
                  exact .inl ⟨buffer, wire, reads, polled, next⟩
                · exact .inr torn

/-- A wait finds the next line of what is pending, or what is left at the end. -/
theorem readUntil_line
    {transport after : Transport σ}
    {bytes : List UInt8}
    (wait : readUntil transport = (.line bytes, after)) :
    (∃ buffer wire reads, after =
        { transport with buffer, net := { transport.net with wire, reads } } ∧
      splitFeed transport.pending = some (bytes, buffer ++ wire)) ∨ 10 ∉ bytes := by
  unfold readUntil at wait
  cases buffered : splitFeed transport.buffer with
  | some split =>
      rw [buffered] at wait
      cases wait
      exact .inl ⟨split.2, transport.net.wire, transport.net.reads, rfl,
        splitFeed_append_of_eq_some buffered _⟩
  | none =>
      have noFeed := not_mem_of_splitFeed_eq_none buffered
      rw [buffered] at wait
      dsimp only at wait
      split at wait
      · cases wait
      · cases polled : pollLine transport.buffer transport.net transport.net.reads with
        | mk read rest =>
            rw [polled] at wait
            cases wait
            rcases pollLine_line noFeed (congrArg Prod.fst polled) with
              ⟨buffer, wire, reads, same, next⟩ | torn
            · rw [polled] at same
              cases same
              exact .inl ⟨buffer, wire, reads, rfl, next⟩
            · exact .inr torn

end Transport

/-! ## Reading while nothing fails -/

/-- The transport shows the view of an open connection, and since the observation all
these bytes have been consumed or are pending. -/
structure Flows (start : List Event) (all : List UInt8) (transport : Transport σ)
    (view : View σ) : Prop where
  shows : Shows stormy transport view
  isOpen : view.isOpen = true
  since : ∃ events, transport.net.trace = start ++ events ∧
    consumedBytes events ++ transport.pending = all

/-- A read may fail, and a line may be torn. -/
def faults (start : List Event) : Escapes Pop3Error (Transport σ) where
  stuck error _ := isIoLevel error = true
  gone := Torn start

theorem ReadTick.within_stormy (tick : ReadTick) : tick.Within stormy := by
  cases tick <;> simp [ReadTick.Within, stormy]

/-- A line that was found is consumed, whatever it says. -/
theorem Transport.afterWait_line (bytes : List UInt8) (transport : Transport σ) :
    (finalState (afterWait (.line bytes, transport))).net.trace =
        transport.net.trace ++ [.consumed bytes] ∧
      (finalState (afterWait (.line bytes, transport))).pending = transport.pending := by
  unfold afterWait
  dsimp only
  split
  · exact ⟨rfl, rfl⟩
  · split <;> exact ⟨rfl, rfl⟩

theorem View.isOpen_readLine (view : View σ) :
    (finalState view.readLine).isOpen = view.isOpen := by
  unfold readLine
  split
  · rfl
  · rfl
  · dsimp only
    split
    · rfl
    · split <;> rfl

theorem Torn.of_consumed
    {start : List Event}
    {all bytes : List UInt8}
    {transport after : Transport σ}
    {view : View σ}
    (flows : Flows start all transport view)
    (trace : after.net.trace = transport.net.trace ++ [.consumed bytes])
    (noFeed : 10 ∉ bytes)
    (nonempty : bytes ≠ []) :
    Torn start after := by
  obtain ⟨events, same, _⟩ := flows.since
  refine ⟨events ++ [.consumed bytes], bytes, by rw [trace, same, List.append_assoc], by simp,
    fun isWhole => noFeed ?_⟩
  have ending := isWhole _ (List.getLast?_eq_some_getLast nonempty)
  exact ending ▸ List.getLast_mem nonempty

/-- A transport reads the line its view reads, or fails, or tears it. -/
theorem readLine_flows (start : List Event) (all : List UInt8) :
    Follows (Flows start all) (faults start) (Transport.readLine : TransportM σ Str)
      View.readLine := by
  intro view transport flows
  rw [Transport.readLine_eq]
  cases wait : Transport.readUntil transport with
  | mk read after =>
      have trace : after.net.trace = transport.net.trace := by
        have same := Transport.readUntil_trace transport
        rwa [wait] at same
      cases read with
      | timedOut lost => exact .inr (.inl ⟨_, rfl, rfl⟩)
      | failed error => exact .inr (.inl ⟨_, rfl, rfl⟩)
      | line bytes =>
          rcases Transport.readUntil_line wait with ⟨buffer, wire, reads, rfl, next⟩ | noFeed
          · obtain ⟨front, _, rfl, pending⟩ := Transport.splitFeed_eq_some next
            have nextLine : View.nextLine view.isOpen view.pending =
                (.line (front ++ [10]), buffer ++ wire) := by
              rw [← flows.shows.pending, View.nextLine, next]
            have within : ∀ tick ∈ reads, tick.Within stormy := fun tick _ => tick.within_stormy
            have shown := Shows.afterWait nextLine (flows.shows.consume rfl within)
            obtain ⟨logged, left⟩ := Transport.afterWait_line (front ++ [10])
              { transport with buffer, net := { transport.net with wire, reads } }
            obtain ⟨events, same, all_eq⟩ := flows.since
            refine .inl ⟨shown.1, shown.2, (View.isOpen_readLine view).trans flows.isOpen,
              events ++ [.consumed (front ++ [10])], ?_, ?_⟩
            · rw [logged, trace, same, List.append_assoc]
            · rw [left, consumedBytes_append, ← all_eq, pending]
              simp [consumedBytes, Transport.pending]
          · by_cases empty : bytes = []
            · subst empty
              exact .inr (.inl ⟨.connectionClosed, rfl, rfl⟩)
            · refine .inr (.inr (Torn.of_consumed flows ?_ noFeed empty))
              rw [(Transport.afterWait_line bytes after).1, trace]

/-! ## Reading replies -/

/-- How a client may leave the view of its connection when anything may fail. -/
def clientFaults (start : List Event) : Escapes Pop3Error (Pop3Client σ) where
  stuck error _ := isIoLevel error = true
  gone client := Torn start client.transport

section Replies

variable {start : List Event} {all : List UInt8}

/-- What a transport reads, its client reads. -/
theorem Gives.onFlow
    {action : TransportM σ α}
    {before after : View σ}
    {result : Except Pop3Error α}
    (gives : Gives (Flows start all) (faults start) action before result after) :
    Gives (fun client => Flows start all client.transport) (clientFaults start)
      (transportField.run action) before result after :=
  gives.field
    (fun _ flows => flows)
    (fun _ _ _ flows => flows)
    (fun _ _ _ stuck => stuck)
    (fun _ _ gone => gone)

theorem torn_readLine :
    Preserves (Torn start) (Transport.readLine : TransportM σ Str) := by
  intro transport torn
  have lasting : Observed _ _ (finalState (Transport.readLine transport)) :=
    (lasting_torn start).readLine transport ⟨trivial, torn⟩
  exact lasting.trace

theorem readMultiline_flows (start : List Event) (all : List UInt8) :
    Follows (Flows start all) (faults start) (Transport.readMultiline : TransportM σ Str)
      View.readMultiline := by
  have rounds : ∀ rounds body, Follows (Flows start all) (faults start)
      (Transport.readMultilineUpTo rounds body : TransportM σ Str)
      (View.readMultilineUpTo rounds body) := by
    intro rounds
    induction rounds with
    | zero => exact fun _ => .throw _
    | succ rounds inductionHypothesis =>
        intro body
        refine .bind (readLine_flows start all) (fun line => ?_) fun line => ?_
        · dsimp only
          split
          · exact .pure body
          · exact inductionHypothesis _
        · dsimp only
          split
          · exact .pure body
          · exact preserves_readMultilineUpTo torn_readLine _ _
  intro view transport flows
  have lengths : transport.pending.length = view.pending.length := by
    rw [flows.shows.pending]
  have follows := rounds (view.pending.length + 1) [] view transport flows
  unfold Transport.readMultiline
  rw [gets_bind_apply, lengths]
  exact follows

theorem clientReadLine_flows (start : List Event) (all : List UInt8) :
    Follows (fun client => Flows start all client.transport) (clientFaults start)
      (transportField.run Transport.readLine : ClientM σ Str) View.readLine :=
  fun view => Gives.onFlow (readLine_flows start all view)

theorem readDeleResponse_flows (start : List Event) (all : List UInt8) :
    Follows (fun client => Flows start all client.transport) (clientFaults start)
      (readDeleResponse : ClientM σ Unit) View.readDeleResponse := by
  refine (clientReadLine_flows start all).bind (fun line => ?_) fun line => ?_
  · exact .bind (.ofResult _) (fun _ => .pure _) fun _ => .pure _
  · exact .bind (.ofResult _) fun _ => .pure _

theorem readRetrResponse_flows (start : List Event) (all : List UInt8) :
    Follows (fun client => Flows start all client.transport) (clientFaults start)
      (readRetrResponse : ClientM σ Message) View.readRetrResponse := by
  have reads : Follows (fun client => Flows start all client.transport) (clientFaults start)
      (readBody : ClientM σ Str) View.readMultiline :=
    fun view => Gives.onFlow (readMultiline_flows start all view)
  have keeps : Preserves (clientFaults start).gone
      (do
        let data ← readBody
        return { data } : ClientM σ Message) :=
    .bind (Preserves.onTransport (preserves_readMultiline torn_readLine)) fun _ => .pure _
  refine (clientReadLine_flows start all).bind (fun line => ?_) fun line => ?_
  · exact .bind (.ofResult _) (fun _ => reads.bind (fun _ => .pure _) fun _ => .pure _)
      fun _ => keeps
  · exact .bind (.ofResult _) fun _ => keeps

end Replies

/-- A line that is read is gone from what is pending. -/
theorem Transport.readLine_shorter
    {before after : Transport σ}
    {line : Str}
    (read : readLine before = .ok line after) :
    after.pending.length < before.pending.length := by
  obtain ⟨bytes, middle, wait, _, nonempty, rfl⟩ := exists_of_readLine_ok read
  obtain ⟨fewer, _⟩ := readUntil_sublist before
  rw [wait] at fewer
  have lengths : (bytes ++ middle.pending).length ≤ before.pending.length := fewer.length_le
  rw [List.length_append] at lengths
  have positive := List.length_pos_iff.mpr nonempty
  change middle.pending.length < before.pending.length
  omega

end Pop3
