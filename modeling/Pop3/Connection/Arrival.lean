import Pop3.Connection.Loss

/-!
# What a reader meets

However the bytes in flight are cut into pieces, a reader meets some of them, in
order, and behind them an end: the end of file, an error, or silence until the
deadline.  Until that end, reading depends on nothing else.
-/

namespace Pop3

open Rust

/-- The bytes in flight that the schedule brings, and what comes behind them. -/
def arriving (isOpen : Bool) : List ReadTick → List UInt8 → List UInt8 × Loss
  | [], wire => (wire, if isOpen then .silence else .endOfFile)
  | .deadline :: _, _ => ([], .silence)
  | .drop loss :: _, _ => ([], loss)
  | .arrive count :: ticks, wire =>
      if wire = [] then ([], if isOpen then .silence else .endOfFile)
      else
        let later := arriving isOpen ticks (wire.drop (count + 1))
        (wire.take (count + 1) ++ later.1, later.2)

/-- What the schedule brings to the network's reader. -/
def Net.arriving (net : Net σ) : List UInt8 × Loss :=
  Pop3.arriving net.isOpen net.reads net.wire

/-- The schedule brings a beginning of what is in flight. -/
theorem arriving_begins (isOpen : Bool) (ticks : List ReadTick) (wire : List UInt8) :
    (arriving isOpen ticks wire).1 <+: wire := by
  induction ticks generalizing wire with
  | nil => exact List.prefix_rfl
  | cons tick ticks inductionHypothesis =>
      cases tick with
      | deadline => exact List.nil_prefix
      | drop loss => exact List.nil_prefix
      | arrive count =>
          unfold arriving
          split
          · exact List.nil_prefix
          · conv_rhs => rw [← List.take_append_drop (count + 1) wire]
            exact (List.prefix_append_right_inj _).mpr (inductionHypothesis _)

namespace Transport

/-- A poll loop finds the first line of what arrives, or the end behind it. -/
theorem pollLine_arriving (line : List UInt8) (net : Net σ) (ticks : List ReadTick) :
    match splitFeed (arriving net.isOpen ticks net.wire).1 with
    | some (head, rest) => ∃ buffer after,
        pollLine line net ticks = (.line (line ++ head), buffer, after) ∧
          rest = buffer ++ after.arriving.1 ∧
          after.arriving.2 = (arriving net.isOpen ticks net.wire).2
    | none =>
        match (arriving net.isOpen ticks net.wire).2 with
        | .endOfFile => ∃ after, pollLine line net ticks =
            (.line (line ++ (arriving net.isOpen ticks net.wire).1), [], after) ∧
              after.isOpen = false ∧ after.wire = []
        | .error error => (pollLine line net ticks).1 = .failed error
        | .silence => ∃ lost, (pollLine line net ticks).1 = .timedOut lost := by
  induction ticks generalizing line net with
  | nil =>
      unfold pollLine arriving
      dsimp only
      cases found : splitFeed net.wire with
      | some split => exact ⟨_, _, rfl, (List.append_nil _).symm, rfl⟩
      | none =>
          cases isOpen : net.isOpen with
          | true => exact ⟨_, rfl⟩
          | false => exact ⟨_, rfl, rfl, rfl⟩
  | cons tick ticks inductionHypothesis =>
      cases tick with
      | deadline => exact ⟨_, rfl⟩
      | drop loss =>
          cases loss with
          | endOfFile =>
              refine ⟨{ net with reads := ticks }.lose, ?_, rfl, rfl⟩
              simp [pollLine, arriving]
          | error error => rfl
          | silence => exact ⟨_, rfl⟩
      | arrive count =>
          by_cases empty : net.wire = []
          · simp only [pollLine, arriving, empty, ↓reduceIte, splitFeed]
            cases isOpen : net.isOpen with
            | true => exact ⟨_, rfl⟩
            | false =>
                refine ⟨{ net with wire := [], reads := ticks }, ?_, isOpen, rfl⟩
                simp [isOpen]
          · have later : arriving net.isOpen (.arrive count :: ticks) net.wire =
                (net.wire.take (count + 1) ++
                  (arriving net.isOpen ticks (net.wire.drop (count + 1))).1,
                  (arriving net.isOpen ticks (net.wire.drop (count + 1))).2) := by
              rw [arriving, if_neg empty]
            rw [later]
            dsimp only
            cases found : splitFeed (net.wire.take (count + 1)) with
            | some split =>
                rw [splitFeed_append_of_eq_some found]
                exact ⟨split.2, { net with wire := net.wire.drop (count + 1), reads := ticks },
                  by simp [pollLine, empty, found], rfl, rfl⟩
            | none =>
                have step : pollLine line net (.arrive count :: ticks) =
                    pollLine (line ++ net.wire.take (count + 1))
                      { net with wire := net.wire.drop (count + 1), reads := ticks }
                      ticks := by
                  simp [pollLine, empty, found]
                have rest := inductionHypothesis (line ++ net.wire.take (count + 1))
                  { net with wire := net.wire.drop (count + 1), reads := ticks }
                dsimp only at rest
                rw [step, splitFeed_append (not_mem_of_splitFeed_eq_none found)]
                cases split : splitFeed
                    (arriving net.isOpen ticks (net.wire.drop (count + 1))).1 with
                | some parts =>
                    rw [split] at rest
                    obtain ⟨buffer, after, polled, same, ending⟩ := rest
                    exact ⟨buffer, after, by rw [polled, List.append_assoc], same, ending⟩
                | none =>
                    rw [split] at rest
                    rw [Option.map_none]
                    dsimp only at rest ⊢
                    rw [← List.append_assoc]
                    exact rest

end Transport

/-! ## Streams -/

/-- A stream as its reader meets it. -/
structure Incoming where
  /-- The bytes that lines were made of. -/
  taken : List UInt8
  /-- The bytes that still arrive. -/
  bytes : List UInt8
  /-- What comes behind them. -/
  ending : Loss

namespace Incoming

/-- The line that these bytes are. -/
def decode (bytes : List UInt8) : Action Pop3Error Incoming Str := fun incoming =>
  let after := { incoming with taken := incoming.taken ++ bytes }
  match fromUtf8 bytes with
  | none => .error (.io invalidUtf8) after
  | some line => if bytes.length = 0 then .error .connectionClosed after else .ok line after

/-- Read a single line. -/
def readLine : Action Pop3Error Incoming Str := fun incoming =>
  match Transport.splitFeed incoming.bytes with
  | some (line, rest) => decode line { incoming with bytes := rest }
  | none =>
      match incoming.ending with
      | .endOfFile => decode incoming.bytes { incoming with bytes := [] }
      | .error error => .error (.io error) { incoming with bytes := [] }
      | .silence => .error .timeout { incoming with bytes := [] }

/-- Read the lines of a body, at most `rounds` of them. -/
def readMultilineUpTo : Nat → Str → Action Pop3Error Incoming Str
  | 0, _ => throw .connectionClosed
  | rounds + 1, body => do
      let line ← readLine
      let trimmed := Transport.trimLine line
      if trimmed = ".".toList then return body
      else readMultilineUpTo rounds (body ++ Transport.unstuff trimmed ++ "\n".toList)

end Incoming

/-- The call has failed at the level of the connection. -/
def FailsIo (result : Except Pop3Error α) : Prop :=
  ∃ error, result = .error error ∧ Pop3Client.isIoLevel error = true

/-- The transport meets this stream; since the start it has consumed what was
taken from it. -/
structure Meets (start transport : Transport σ) (incoming : Incoming) : Prop where
  consumed : consumedBytes transport.net.trace =
    consumedBytes start.net.trace ++ incoming.taken
  isClosed : transport.isClosed = start.isClosed
  meets : transport.stream ≠ .upgrading ∧
      transport.buffer ++ transport.net.arriving.1 = incoming.bytes ∧
      transport.net.arriving.2 = incoming.ending ∨
    Dead transport ∧ incoming.bytes = [] ∧ incoming.ending = .endOfFile

/-- The transport does what is done to its stream, or both fail at the level of the
connection. -/
def Agree (start : Transport σ) (result : EStateM.Result Pop3Error (Transport σ) α)
    (expected : EStateM.Result Pop3Error Incoming α) : Prop :=
  returned result = returned expected ∧ Meets start (finalState result) (finalState expected) ∨
    FailsIo (returned result) ∧ FailsIo (returned expected)

/-- What is buffered and what arrives is a beginning of what is pending. -/
theorem Transport.arriving_begins_pending (transport : Transport σ) :
    transport.buffer ++ transport.net.arriving.1 <+: transport.pending :=
  (List.prefix_append_right_inj _).mpr (arriving_begins _ _ _)

section Meeting

variable {start transport : Transport σ} {incoming : Incoming}

/-- A transport that has not been read meets what is buffered and what arrives. -/
theorem meets_self (stream : transport.stream ≠ .upgrading) :
    Meets transport transport
      ⟨[], transport.buffer ++ transport.net.arriving.1, transport.net.arriving.2⟩ where
  consumed := (List.append_nil _).symm
  isClosed := rfl
  meets := .inl ⟨stream, rfl, rfl⟩

/-- What still arrives at a transport is what its stream still holds. -/
theorem Meets.arrives (meets : Meets start transport incoming) :
    transport.buffer ++ transport.net.arriving.1 = incoming.bytes := by
  rcases meets.meets with ⟨_, arrives, _⟩ | ⟨dead, nothing, _⟩
  · exact arrives
  · have begins := transport.arriving_begins_pending
    rw [dead.pending] at begins
    rw [nothing]
    exact List.prefix_nil.mp begins

/-- More rounds are granted than there are bytes to come. -/
theorem Meets.length_lt (meets : Meets start transport incoming) :
    incoming.bytes.length < transport.pending.length + 1 := by
  rw [← meets.arrives]
  exact Nat.lt_succ_of_le transport.arriving_begins_pending.length_le

/-- What the transport makes of a line that has arrived. -/
theorem Meets.line (meets : Meets start transport incoming) (bytes : List UInt8) :
    Agree start (Transport.afterWait (.line bytes, transport))
      (Incoming.decode bytes incoming) := by
  have logged : Meets start (transport.log (.consumed bytes))
      { incoming with taken := incoming.taken ++ bytes } :=
    { consumed := by
        refine (consumedBytes_append _ _).trans ?_
        rw [meets.consumed]
        simp [consumedBytes]
      isClosed := meets.isClosed
      meets := by
        rcases meets.meets with arrives | ⟨dead, ends⟩
        · exact .inl arrives
        · exact .inr ⟨⟨dead.isOpen, dead.pending⟩, ends⟩ }
  unfold Transport.afterWait Incoming.decode
  dsimp only
  cases fromUtf8 bytes with
  | none => exact .inr ⟨⟨_, rfl, rfl⟩, _, rfl, rfl⟩
  | some text =>
      dsimp only
      split
      · exact .inr ⟨⟨_, rfl, rfl⟩, _, rfl, rfl⟩
      · exact .inl ⟨rfl, logged⟩

/-- At the end of file there is no line. -/
theorem Incoming.failsIo_decode_nil (incoming : Incoming) :
    FailsIo (returned (decode [] incoming)) := by
  unfold decode
  dsimp only
  cases fromUtf8 [] with
  | none => exact ⟨_, rfl, rfl⟩
  | some text => exact ⟨_, rfl, rfl⟩

/-- Reading a line from the transport is reading it from its stream. -/
theorem Meets.readLine (meets : Meets start transport incoming) :
    Agree start (Transport.readLine transport) (Incoming.readLine incoming) := by
  rcases meets.meets with ⟨stream, bytes, ending⟩ | ⟨dead, nothing, ending⟩
  swap
  · obtain ⟨error, after, run, isIo, _⟩ := dead.readLine
    rw [run]
    refine .inr ⟨⟨error, rfl, isIo⟩, ?_⟩
    rw [Incoming.readLine, nothing, ending]
    exact Incoming.failsIo_decode_nil _
  rw [Transport.readLine_eq]
  unfold Transport.readUntil Incoming.readLine
  rw [← bytes]
  cases buffered : Transport.splitFeed transport.buffer with
  | some split =>
      rw [Transport.splitFeed_append_of_eq_some buffered]
      have after : Meets start { transport with buffer := split.2 }
          { incoming with bytes := split.2 ++ transport.net.arriving.1 } :=
        { consumed := meets.consumed
          isClosed := meets.isClosed
          meets := .inl ⟨stream, rfl, ending⟩ }
      exact after.line split.1
  | none =>
      dsimp only
      rw [if_neg stream]
      have polled := Transport.pollLine_arriving transport.buffer transport.net
        transport.net.reads
      have trace := Transport.pollLine_trace transport.buffer transport.net transport.net.reads
      rw [show arriving transport.net.isOpen transport.net.reads transport.net.wire =
        transport.net.arriving from rfl] at polled
      rw [Transport.splitFeed_append
        (Transport.not_mem_of_splitFeed_eq_none buffered)]
      cases found : Transport.splitFeed transport.net.arriving.1 with
      | some split =>
          rw [found] at polled
          obtain ⟨buffer, net, run, rest, same⟩ := polled
          rw [run] at trace ⊢
          have after : Meets start { transport with buffer, net }
              { incoming with bytes := split.2 } :=
            { consumed := (congrArg consumedBytes trace).trans meets.consumed
              isClosed := meets.isClosed
              meets := .inl ⟨stream, rest.symm, same.trans ending⟩ }
          exact after.line (transport.buffer ++ split.1)
      | none =>
          rw [found] at polled
          rw [ending] at polled
          rw [Option.map_none]
          generalize Transport.pollLine transport.buffer transport.net
            transport.net.reads = wait at polled trace ⊢
          obtain ⟨read, buffer, net⟩ := wait
          cases kind : incoming.ending with
          | endOfFile =>
              rw [kind] at polled
              obtain ⟨net, run, closed, nothing⟩ := polled
              cases run
              have after : Meets start { transport with buffer := [], net }
                  { taken := incoming.taken, bytes := [], ending := .endOfFile } :=
                { consumed := (congrArg consumedBytes trace).trans meets.consumed
                  isClosed := meets.isClosed
                  meets := .inr ⟨⟨closed, nothing⟩, rfl, rfl⟩ }
              exact after.line (transport.buffer ++ transport.net.arriving.1)
          | error error =>
              rw [kind] at polled
              obtain rfl : read = .failed error := polled
              exact .inr ⟨⟨.io error, rfl, rfl⟩, _, rfl, rfl⟩
          | silence =>
              rw [kind] at polled
              obtain ⟨lost, polled⟩ := polled
              obtain rfl : read = .timedOut lost := polled
              exact .inr ⟨⟨.timeout, rfl, rfl⟩, _, rfl, rfl⟩

/-! ## Programs that read -/

theorem Agree.pure
    (meets : Meets start transport incoming)
    (value : α) :
    Agree start ((Pure.pure value : TransportM σ α) transport)
      ((Pure.pure value : Action Pop3Error Incoming α) incoming) :=
  .inl ⟨rfl, meets⟩

theorem Agree.bind
    {action : TransportM σ α}
    {expected : Action Pop3Error Incoming α}
    (agree : Agree start (action transport) (expected incoming))
    {next : α → TransportM σ β}
    {expectedNext : α → Action Pop3Error Incoming β}
    (rest : ∀ value transport incoming, Meets start transport incoming →
      Agree start (next value transport) (expectedNext value incoming)) :
    Agree start ((action >>= next) transport) ((expected >>= expectedNext) incoming) := by
  rcases agree with ⟨same, meets⟩ | ⟨⟨error, fails, isIo⟩, error', fails', isIo'⟩
  · cases run : action transport with
    | ok value middle =>
        rw [run] at same meets
        rw [bind_of_ok run, bind_of_ok (eq_ok_of_returned same.symm)]
        exact rest value _ _ meets
    | error error middle =>
        rw [run] at same meets
        rw [bind_of_error run, bind_of_error (eq_error_of_returned same.symm)]
        exact .inl ⟨rfl, meets⟩
  · rw [bind_of_error (eq_error_of_returned fails), bind_of_error (eq_error_of_returned fails')]
    exact .inr ⟨⟨error, rfl, isIo⟩, error', rfl, isIo'⟩

theorem Meets.readMultilineUpTo
    (meets : Meets start transport incoming)
    (rounds : Nat)
    (body : Str) :
    Agree start (Transport.readMultilineUpTo rounds body transport)
      (Incoming.readMultilineUpTo rounds body incoming) := by
  induction rounds generalizing body transport incoming with
  | zero => exact .inl ⟨rfl, meets⟩
  | succ rounds inductionHypothesis =>
      refine meets.readLine.bind fun line transport incoming meets => ?_
      by_cases ends : Transport.trimLine line = ".".toList
      · simp only [ends, ↓reduceIte]
        exact .pure meets body
      · simp only [ends, ↓reduceIte]
        exact inductionHypothesis meets _

end Meeting

end Pop3
