import Pop3.Connection.Invariants
import Pop3.Connection.Reading

/-!
# What an observer has seen

The observation of a connection only grows, and the client's bytes go to the
stream it has.
-/

namespace Pop3

open Rust

/-- All bytes the server has sent. -/
def repliedBytes (trace : List Event) : List UInt8 :=
  trace.flatMap fun event =>
    match event with
    | .answered _ reply => reply
    | _ => []

/-- All bytes that reads have taken. -/
def consumedBytes (trace : List Event) : List UInt8 :=
  trace.flatMap fun event =>
    match event with
    | .consumed bytes => bytes
    | _ => []

theorem consumedBytes_append (first second : List Event) :
    consumedBytes (first ++ second) = consumedBytes first ++ consumedBytes second :=
  List.flatMap_append

theorem repliedBytes_append (first second : List Event) :
    repliedBytes (first ++ second) = repliedBytes first ++ repliedBytes second :=
  List.flatMap_append

section Consuming

variable [Server σ]

theorem consumedBytes_receive (net : Net σ) (bytes : List UInt8) :
    consumedBytes (net.receive bytes).trace = consumedBytes net.trace := by
  refine Net.receive_induction
    (motive := fun after => consumedBytes after.trace = consumedBytes net.trace)
    (fun _ _ same _ _ => same) ?_ rfl bytes
  intro after same isOpen
  rw [Net.receiveByte_feed isOpen, consumedBytes_append, same]
  exact List.append_nil _

/-- Writing consumes nothing. -/
theorem survivesWrites_consumed (consumed : List UInt8) :
    SurvivesWrites fun transport : Transport σ =>
      consumedBytes transport.net.trace = consumed := by
  refine .of_emit (fun _ _ same => same) ?_ (fun _ same => same)
  intro transport bytes same
  refine (consumedBytes_receive _ _).trans ?_
  exact (consumedBytes_append _ _).trans ((List.append_nil _).trans same)

end Consuming

/-- The client writes to none but the allowed streams. -/
def Event.On (allowed : InnerStream → Bool → Prop) : Event → Prop
  | .wrote stream _ => ∃ encrypted, allowed stream encrypted
  | _ => True

/-- Nothing that is observed on the allowed streams ends the property. -/
def Lasting (allowed : InnerStream → Bool → Prop) (property : List Event → Prop) : Prop :=
  ∀ trace event, event.On allowed → property trace → property (trace ++ [event])

/-- The stream and its encryption flag are allowed, and the observation so far
has the property. -/
structure Observed (allowed : InnerStream → Bool → Prop) (property : List Event → Prop)
    (transport : Transport σ) : Prop where
  stream : allowed transport.stream transport.encrypted
  trace : property transport.net.trace

section Observing

variable {allowed : InnerStream → Bool → Prop} {property : List Event → Prop}

theorem Lasting.receive [Server σ]
    (lasting : Lasting allowed property)
    {net : Net σ}
    (holds : property net.trace)
    (bytes : List UInt8) :
    property (net.receive bytes).trace := by
  refine Net.receive_induction (motive := fun after => property after.trace)
    (fun _ _ held _ _ => held) ?_ holds bytes
  intro after held isOpen
  rw [Net.receiveByte_feed isOpen]
  exact lasting _ _ trivial held

/-- Writing goes on with what lasts. -/
theorem Lasting.survivesWrites [Server σ] (lasting : Lasting allowed property) :
    SurvivesWrites (Observed allowed property : Transport σ → Prop) := by
  refine .of_emit (fun _ _ observed => ⟨observed.stream, observed.trace⟩) ?_
    (fun _ observed => ⟨observed.stream, observed.trace⟩)
  intro transport bytes observed
  have wrote : property (transport.net.trace ++ [.wrote transport.stream bytes]) :=
    lasting _ _ ⟨_, observed.stream⟩ observed.trace
  exact ⟨observed.stream, lasting.receive wrote bytes⟩

theorem Transport.pollLine_trace
    (line : List UInt8)
    (net : Net σ)
    (ticks : List ReadTick) :
    (pollLine line net ticks).2.2.trace = net.trace := by
  rcases pollLine_net line net ticks with ⟨wire, reads, _, same⟩ | ⟨loss, reads, _, same⟩
  · rw [same]
  · rw [same]
    rfl

/-- Waiting for a line is no event. -/
theorem Transport.readUntil_trace (transport : Transport σ) :
    (readUntil transport).2.net.trace = transport.net.trace := by
  unfold readUntil
  split
  · rfl
  · split
    · rfl
    · exact pollLine_trace _ _ _

/-- A line that has been read has been observed. -/
theorem Transport.trace_of_readLine
    {transport after : Transport σ}
    {line : Str}
    (reads : readLine transport = .ok line after) :
    ∃ bytes, after.net.trace = transport.net.trace ++ [.consumed bytes] := by
  obtain ⟨bytes, middle, found, _, _, rfl⟩ := exists_of_readLine_ok reads
  have silent := readUntil_trace transport
  rw [found] at silent
  exact ⟨bytes, congrArg (· ++ [Event.consumed bytes]) silent⟩

/-- The bytes that a wait for a line has found. -/
def Transport.LineRead.taken : Transport.LineRead → List UInt8
  | .line bytes => bytes
  | .timedOut _ | .failed _ => []

/-- A poll loop finds, and leaves, only what was on its way. -/
theorem Transport.pollLine_sublist
    (line : List UInt8)
    (net : Net σ)
    (ticks : List ReadTick) :
    ((pollLine line net ticks).1.taken ++
      ((pollLine line net ticks).2.1 ++ (pollLine line net ticks).2.2.wire)).Sublist
        (line ++ net.wire) := by
  induction ticks generalizing line net with
  | nil =>
      unfold pollLine
      dsimp only
      split
      · rename_i head rest split
        obtain ⟨front, _, rfl, same⟩ := splitFeed_eq_some split
        simp [LineRead.taken, same]
      · split <;> simp [LineRead.taken]
  | cons tick ticks inductionHypothesis =>
      cases tick with
      | deadline => simp [pollLine, LineRead.taken]
      | drop loss => cases loss <;> simp [pollLine, LineRead.taken, Net.lose]
      | arrive count =>
          unfold pollLine
          dsimp only
          have parts := List.take_append_drop (count + 1) net.wire
          split
          · rename_i nothing
            split <;> simp [LineRead.taken, nothing]
          · split
            · rename_i head rest split
              obtain ⟨front, _, rfl, same⟩ := splitFeed_eq_some split
              rw [same, List.append_assoc, List.cons_append] at parts
              have whole : line ++ net.wire =
                  line ++ (front ++ 10 :: (rest ++ net.wire.drop (count + 1))) :=
                congrArg (line ++ ·) parts.symm
              rw [whole]
              simp [LineRead.taken]
            · refine (inductionHypothesis _ _).trans ?_
              simp

theorem Transport.readUntil_sublist (transport : Transport σ) :
    ((readUntil transport).1.taken ++ (readUntil transport).2.pending).Sublist
      transport.pending ∧
      (readUntil transport).2.net.trace = transport.net.trace := by
  unfold readUntil
  split
  · rename_i line rest split
    obtain ⟨front, _, rfl, same⟩ := splitFeed_eq_some split
    refine ⟨?_, rfl⟩
    simp [LineRead.taken, pending, same]
  · split
    · refine ⟨?_, rfl⟩
      simp [LineRead.taken, pending]
    · exact ⟨pollLine_sublist _ _ _, pollLine_trace _ _ _⟩

theorem Observed.readUntil
    {transport : Transport σ}
    (observed : Observed allowed property transport) :
    Observed allowed property (Transport.readUntil transport).2 := by
  unfold Transport.readUntil
  split
  · exact ⟨observed.stream, observed.trace⟩
  · split
    · exact ⟨observed.stream, observed.trace⟩
    · refine ⟨observed.stream, ?_⟩
      dsimp only
      rw [Transport.pollLine_trace]
      exact observed.trace

theorem Observed.log
    (lasting : Lasting allowed property)
    {transport : Transport σ}
    (observed : Observed allowed property transport)
    {event : Event}
    (onStream : event.On allowed) :
    Observed allowed property (transport.log event) :=
  ⟨observed.stream, lasting _ _ onStream observed.trace⟩

/-- Reading goes on with what lasts. -/
theorem Lasting.readLine (lasting : Lasting allowed property) :
    Preserves (Observed allowed property) (Transport.readLine : TransportM σ Str) := by
  intro transport observed
  exact Transport.finalState_afterWait (motive := Observed allowed property)
    (fun _ _ waited => waited.log lasting trivial)
    (fun _ _ waited => waited.log lasting trivial)
    (fun _ waited => ⟨waited.stream, waited.trace⟩) observed.readUntil

/-- What lasts is kept by each step of an operation. -/
theorem Lasting.steps [Server σ] (lasting : Lasting allowed property) :
    SurvivesSteps (Observed allowed property : Transport σ → Prop) :=
  lasting.survivesWrites.steps lasting.readLine

theorem lasting_true : Lasting allowed fun _ => True := fun _ _ _ _ => trivial

/-- What has been observed stays observed. -/
theorem lasting_begins (start : List Event) : Lasting allowed fun trace => start <+: trace :=
  fun _ _ _ begins => begins.trans (List.prefix_append _ _)

/-- The stream is gone. -/
abbrev IsGone : Transport σ → Prop :=
  Observed (fun stream _ => stream = .upgrading) fun _ => True

end Observing

/-- Upgrading is no event. -/
theorem trace_upgradeInPlace (hostname : Str) (transport : Transport σ) :
    (finalState (Transport.upgradeInPlace hostname transport)).net.trace =
      transport.net.trace := by
  rcases Transport.upgradeInPlace_cases hostname transport with
    ⟨error, run, _⟩ | ⟨error, run, _⟩ | ⟨run, _⟩
  all_goals
    rw [run]
    rfl

end Pop3
