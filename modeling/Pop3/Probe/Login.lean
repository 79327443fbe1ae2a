import Pop3.Connection.Readiness
import Pop3.Probe.Reply

/-!
# What a login leaves behind

After a login the capabilities are probed, and an error of the probe is ignored,
whatever it is.  The connection is left usable exactly when the probe gets one
whole reply in time.
-/

namespace Pop3

open Rust Pop3Client

/-! ## Everything read -/

/-- Between these states everything was consumed that was unread before or that the
server has sent since. -/
def ReadAll (before after : Transport σ) : Prop :=
  ∃ replied, repliedBytes after.net.trace = repliedBytes before.net.trace ++ replied ∧
    consumedBytes after.net.trace =
      consumedBytes before.net.trace ++ (before.pending ++ replied)

/-- Between these states nothing was lost: what was consumed and what is unread is what
was unread before with what the server has sent since. -/
def Balanced (before after : Transport σ) : Prop :=
  ∃ replied consumed, repliedBytes after.net.trace = repliedBytes before.net.trace ++ replied ∧
    consumedBytes after.net.trace = consumedBytes before.net.trace ++ consumed ∧
    consumed ++ after.pending = before.pending ++ replied

/-- Nothing waits to be written, and the server has nothing of a command. -/
structure Flushed (transport : Transport σ) : Prop where
  unflushed : transport.unflushed = []
  stream : transport.stream ≠ .upgrading
  inbound : transport.net.isOpen = true → transport.net.inbound = []

theorem Balanced.trans
    {before middle after : Transport σ}
    (balanced : Balanced before middle)
    (then_balanced : Balanced middle after) :
    Balanced before after := by
  obtain ⟨replied, consumed, sent, read, same⟩ := balanced
  obtain ⟨replied', consumed', sent', read', same'⟩ := then_balanced
  refine ⟨replied ++ replied', consumed ++ consumed', ?_, ?_, ?_⟩
  · rw [sent', sent, List.append_assoc]
  · rw [read', read, List.append_assoc]
  · rw [List.append_assoc, same', ← List.append_assoc, same, List.append_assoc]

/-! ## Sending -/

section Sending

variable [Server σ]

/-- What the server sends is behind what was in flight. -/
theorem Net.replied_receive (net : Net σ) (bytes : List UInt8) :
    ∃ replied, (net.receive bytes).wire = net.wire ++ replied ∧
      repliedBytes (net.receive bytes).trace = repliedBytes net.trace ++ replied := by
  refine receive_induction
    (motive := fun after => ∃ replied, after.wire = net.wire ++ replied ∧
      repliedBytes after.trace = repliedBytes net.trace ++ replied)
    (fun _ _ sent _ _ => sent) ?_
    ⟨[], (List.append_nil _).symm, (List.append_nil _).symm⟩ bytes
  rintro after ⟨replied, wire, sent⟩ isOpen
  rw [receiveByte_feed isOpen]
  refine ⟨replied ++ (Server.respond after.server (commandOf after.inbound)).2.bytes, ?_, ?_⟩
  · rw [wire, List.append_assoc]
  · rw [repliedBytes_append, sent, List.append_assoc]
    simp [repliedBytes]

/-- At LF a server that stays connected has reacted. -/
theorem Net.inbound_receive_feed
    {net : Net σ}
    (bytes : List UInt8)
    (isOpen : (net.receive (bytes ++ [10])).isOpen = true) :
    (net.receive (bytes ++ [10])).inbound = [] := by
  rw [receive_append] at isOpen ⊢
  generalize net.receive bytes = middle at isOpen ⊢
  change (middle.receiveByte 10).inbound = []
  change (middle.receiveByte 10).isOpen = true at isOpen
  cases wasOpen : middle.isOpen with
  | false =>
      rw [receiveByte_of_closed wasOpen, wasOpen] at isOpen
      cases isOpen
  | true => rw [receiveByte_feed wasOpen]

omit [Server σ] in
theorem repliedBytes_noted (trace : List Event) :
    repliedBytes (trace.filter Event.isNoted) = repliedBytes trace := by
  induction trace with
  | nil => rfl
  | cons event trace inductionHypothesis =>
      rw [List.filter_cons]
      cases event with
      | answered command reply =>
          exact congrArg (reply ++ ·) inductionHypothesis
      | timedOut lost => exact inductionHypothesis
      | wrote | consumed => exact inductionHypothesis

/-- A command that was sent has been answered, and nothing else has changed. -/
theorem sent_sendCommand
    {command : Str}
    {before after : Transport σ}
    (sent : Transport.sendCommand command before = .ok () after) :
    Balanced before after ∧ Flushed after ∧ after.isClosed = before.isClosed ∧
      after.buffer = before.buffer ∧ after.net.quiet =
        (before.net.receive (before.unflushed ++ (utf8 command ++ [13, 10]))).quiet := by
  have stream : before.stream ≠ .upgrading := by
    intro upgrading
    obtain ⟨error, failed⟩ := failsWhenGone_sendCommand command before ⟨upgrading, trivial⟩
    rw [sent] at failed
    cases failed
  have consumed := (survivesWrites_consumed (consumedBytes before.net.trace)).sendCommand
    command before rfl
  rw [sent, finalState_ok] at consumed
  rcases writes_command command before stream
      (fun tick _ => by
        cases tick <;> simp [WriteTick.Within] : ∀ tick ∈ before.net.writes,
          tick.Within { lossy := true }) with
    ⟨last, run, wrote, flushed⟩ | ⟨_, error, last, run, _⟩
  · rw [Transport.sendCommand, mapError_of_ok run] at sent
    injection sent with _ same
    subst same
    have outlook := wrote.outlook
    rw [Transport.outlook, Transport.outlook, flushed, Net.receive_nil, ← Net.receive_append]
      at outlook
    obtain ⟨replied, wire, sent⟩ := before.net.quiet.replied_receive
      (before.unflushed ++ (utf8 command ++ [13, 10]))
    rw [← outlook] at wire sent
    refine ⟨⟨replied, [], ?_, ?_, ?_⟩, ⟨flushed, wrote.stream ▸ stream, ?_⟩, wrote.isClosed,
      wrote.buffer, outlook.trans (Net.quiet_receive _ _).symm⟩
    · have sent' : repliedBytes (last.net.trace.filter Event.isNoted) =
          repliedBytes (before.net.trace.filter Event.isNoted) ++ replied := sent
      rwa [repliedBytes_noted, repliedBytes_noted] at sent'
    · rw [consumed, List.append_nil]
    · have wire' : last.net.wire = before.net.wire ++ replied := wire
      rw [List.nil_append, Transport.pending, Transport.pending, wrote.buffer, wire',
        List.append_assoc]
    · intro isOpen
      have ending : before.unflushed ++ (utf8 command ++ [13, 10]) =
          (before.unflushed ++ utf8 command ++ [13]) ++ [10] := by simp
      rw [ending] at outlook
      change last.net.quiet.inbound = []
      change last.net.quiet.isOpen = true at isOpen
      rw [outlook] at isOpen ⊢
      exact Net.inbound_receive_feed _ isOpen
  · rw [Transport.sendCommand, mapError_of_error run] at sent
    cases sent

end Sending

/-! ## Reading -/

theorem replied_log
    {event : Event}
    (noReply : repliedBytes [event] = [])
    (transport : Transport σ) :
    repliedBytes (transport.log event).net.trace = repliedBytes transport.net.trace := by
  refine (repliedBytes_append _ _).trans ?_
  rw [noReply, List.append_nil]

/-- Reading makes the server send nothing. -/
theorem preserves_replied_readLine (replied : List UInt8) :
    Preserves (fun transport : Transport σ => repliedBytes transport.net.trace = replied)
      (Transport.readLine : TransportM σ Str) := by
  intro transport same
  have waited : repliedBytes (Transport.readUntil transport).2.net.trace = replied := by
    rw [Transport.readUntil_trace, same]
  exact Transport.finalState_afterWait
    (motive := fun after => repliedBytes after.net.trace = replied)
    (fun _ after waited => (replied_log rfl after).trans waited)
    (fun _ after waited => (replied_log rfl after).trans waited)
    (fun _ waited => waited) waited

theorem replied_readWhole (transport : Transport σ) :
    repliedBytes (finalState (readWhole transport)).net.trace =
      repliedBytes transport.net.trace := by
  have keeps : Preserves (fun after : Transport σ =>
      repliedBytes after.net.trace = repliedBytes transport.net.trace) readWhole :=
    .bind (preserves_replied_readLine _) fun _ => .bind (.ofResult _) fun _ =>
      preserves_readMultiline (preserves_replied_readLine _)
  exact keeps transport rfl

/-- Waiting for a line that comes loses nothing, unless the connection is lost. -/
theorem waited_readUntil
    {transport after : Transport σ}
    {bytes : List UInt8}
    (wait : Transport.readUntil transport = (.line bytes, after)) :
    after.net.trace = transport.net.trace ∧ after.unflushed = transport.unflushed ∧
      after.stream = transport.stream ∧ after.isClosed = transport.isClosed ∧
      (transport.pending = bytes ++ after.pending ∧
        after.net.isOpen = transport.net.isOpen ∧
        after.net.inbound = transport.net.inbound ∨ Dead after) := by
  unfold Transport.readUntil at wait
  cases buffered : Transport.splitFeed transport.buffer with
  | some split =>
      rw [buffered] at wait
      simp only [Prod.mk.injEq, Transport.LineRead.line.injEq] at wait
      obtain ⟨rfl, rfl⟩ := wait
      obtain ⟨front, _, line, all⟩ := Transport.splitFeed_eq_some buffered
      refine ⟨rfl, rfl, rfl, rfl, .inl ⟨?_, rfl, rfl⟩⟩
      simp [Transport.pending, all, line]
  | none =>
      rw [buffered] at wait
      dsimp only at wait
      split at wait
      · cases wait
      · have trace := Transport.pollLine_trace transport.buffer transport.net
          transport.net.reads
        rcases Transport.pollLine_cases
            (fun tick _ => by
              cases tick <;> simp [ReadTick.Within] : ∀ tick ∈ transport.net.reads,
                tick.Within { late := true, lossy := true })
            (Transport.not_mem_of_splitFeed_eq_none buffered) transport.net with
          ⟨read, buffer, wire, reads, polled, next, _⟩ |
          ⟨_, lost, net, polled, _⟩ | ⟨_, read, net, polled, closed, nothing⟩
        · rw [polled] at wait trace
          simp only [Prod.mk.injEq] at wait
          obtain ⟨rfl, rfl⟩ := wait
          exact ⟨trace, rfl, rfl, rfl, .inl ⟨View.append_of_nextLine next, rfl, rfl⟩⟩
        · rw [polled] at wait
          cases wait
        · rw [polled] at wait trace
          simp only [Prod.mk.injEq] at wait
          obtain ⟨rfl, rfl⟩ := wait
          exact ⟨trace, rfl, rfl, rfl, .inr ⟨closed, nothing⟩⟩

/-- Reading a line loses nothing, unless the connection is lost. -/
theorem read_readLine
    {before after : Transport σ}
    {line : Str}
    (read : Transport.readLine before = .ok line after)
    (flushed : Flushed before) :
    (Balanced before after ∨ Dead after) ∧ Flushed after := by
  obtain ⟨bytes, middle, wait, _, _, rfl⟩ := Transport.exists_of_readLine_ok read
  obtain ⟨trace, unflushed, stream, _, kept⟩ := waited_readUntil wait
  constructor
  · rcases kept with ⟨pending, _⟩ | dead
    · refine .inl ⟨[], bytes, ?_, ?_, ?_⟩
      · rw [replied_log rfl, trace, List.append_nil]
      · refine (consumedBytes_append _ _).trans ?_
        rw [trace]
        simp [consumedBytes]
      · rw [List.append_nil]
        exact pending.symm
    · exact .inr ⟨dead.isOpen, dead.pending⟩
  · refine ⟨unflushed.trans flushed.unflushed, stream ▸ flushed.stream, fun isOpen => ?_⟩
    rcases kept with ⟨_, wasOpen, inbound⟩ | dead
    · exact inbound.trans (flushed.inbound (wasOpen.symm.trans isOpen))
    · exact absurd (dead.isOpen.symm.trans isOpen) Bool.false_ne_true

/-! ## Before the probe -/

section Identifying

variable [Server σ]

/-- An action after whose success nothing was lost, unless the connection was, and
everything is flushed. -/
def LosesNothing (action : ClientM σ α) : Prop :=
  ∀ client value after, action client = .ok value after →
    (Balanced client.transport after.transport ∨ Dead after.transport) ∧
      Flushed after.transport

theorem losesNothing_sendAndCheck (command : Str) :
    LosesNothing (sendAndCheck command : ClientM σ Str) := by
  intro client text after run
  rw [sendAndCheck] at run
  obtain ⟨_, middle, sends, run⟩ := exists_of_bind_ok run
  obtain ⟨line, last, reads, run⟩ := exists_of_bind_ok run
  obtain ⟨same, _⟩ := eq_of_ofResult_ok run
  subst same
  obtain ⟨_, sent, rfl⟩ := Field.eq_of_run_ok sends
  obtain ⟨_, read, rfl⟩ := Field.eq_of_run_ok reads
  obtain ⟨balanced, flushed, _⟩ := sent_sendCommand sent
  obtain ⟨kept, flushed'⟩ := read_readLine read flushed
  exact ⟨kept.imp_left balanced.trans, flushed'⟩

omit [Server σ] in
/-- Where two actions follow each other, what the first one loses stays lost. -/
theorem LosesNothing.bind
    {action : ClientM σ α}
    {next : α → ClientM σ β}
    (first : LosesNothing action)
    (second : ∀ value, LosesNothing (next value))
    (staysDead : ∀ value, Preserves (fun client => Dead client.transport) (next value)) :
    LosesNothing (action >>= next) := by
  intro client result after run
  obtain ⟨value, middle, runFirst, runNext⟩ := exists_of_bind_ok run
  obtain ⟨kept, _⟩ := first client value middle runFirst
  obtain ⟨kept', flushed⟩ := second value middle result after runNext
  refine ⟨?_, flushed⟩
  rcases kept with balanced | dead
  · exact kept'.imp_left balanced.trans
  · have dead' := staysDead value middle dead
    rw [runNext] at dead'
    exact .inr dead'

omit [Server σ] in
theorem LosesNothing.mapError
    {action : ClientM σ α}
    (losesNothing : LosesNothing action)
    (convert : Pop3Error → Pop3Error) :
    LosesNothing (Rust.mapError convert action) :=
  fun client value after run => losesNothing client value after (eq_of_mapError_ok run)

omit [Server σ] in
theorem LosesNothing.gets_bind
    {read : Pop3Client σ → α}
    {next : α → ClientM σ β}
    (losesNothing : ∀ value, LosesNothing (next value)) :
    LosesNothing (gets read >>= next) :=
  fun client value after run => losesNothing (read client) client value after run

omit [Server σ] in
theorem LosesNothing.ofResult_bind
    {result : Except Pop3Error α}
    {next : α → ClientM σ β}
    (losesNothing : ∀ value, LosesNothing (next value)) :
    LosesNothing (ofResult result >>= next) := by
  cases result with
  | ok value => exact losesNothing value
  | error error => exact fun client value after run => nomatch run

theorem preserves_dead_sendAndCheck (command : Str) :
    Preserves (fun client => Dead client.transport) (sendAndCheck command : ClientM σ Str) :=
  (program_sendAndCheck command).preserves survivesSteps_dead

/-- `login` as far as its password. -/
def sendPassword (username password : Str) : ClientM σ Str := do
  let state ← gets Pop3Client.state
  ofResult (if state ≠ .connected then .error .notAuthenticated else .ok ())
  ofResult (checkNoCrlf username)
  ofResult (checkNoCrlf password)
  let _ ← Rust.mapError authError (sendAndCheck ("USER ".toList ++ username))
  Rust.mapError authError (sendAndCheck ("PASS ".toList ++ password))

/-- `apop` as far as its digest. -/
def sendDigest [Md5] (username password : Str) : ClientM σ Str := do
  let state ← gets Pop3Client.state
  ofResult (if state ≠ .connected then .error .notAuthenticated else .ok ())
  ofResult (checkNoCrlf username)
  ofResult (checkNoCrlf password)
  let greeting ← gets Pop3Client.greeting
  let timestamp ← ofResult (okOr (extractApopTimestamp greeting) (.serverError
    "server does not support APOP (no timestamp in greeting)".toList))
  let digest := computeApopDigest timestamp password
  Rust.mapError authError
    (sendAndCheck ("APOP ".toList ++ username ++ " ".toList ++ digest))

theorem login_eq (username password : Str) :
    (login username password : ClientM σ Unit) =
      sendPassword username password >>= fun _ => authenticated := by
  simp only [login, sendPassword, bind_assoc]

theorem apop_eq [Md5] (username password : Str) :
    (apop username password : ClientM σ Unit) =
      sendDigest username password >>= fun _ => authenticated := by
  simp only [apop, sendDigest, bind_assoc]

theorem losesNothing_sendPassword (username password : Str) :
    LosesNothing (sendPassword username password : ClientM σ Str) :=
  .gets_bind fun _ => .ofResult_bind fun _ => .ofResult_bind fun _ => .ofResult_bind fun _ =>
    .bind ((losesNothing_sendAndCheck _).mapError authError)
      (fun _ => (losesNothing_sendAndCheck _).mapError authError)
      fun _ => .mapError (preserves_dead_sendAndCheck _)

theorem losesNothing_sendDigest [Md5] (username password : Str) :
    LosesNothing (sendDigest username password : ClientM σ Str) :=
  .gets_bind fun _ => .ofResult_bind fun _ => .ofResult_bind fun _ => .ofResult_bind fun _ =>
    .gets_bind fun _ => .ofResult_bind fun _ => (losesNothing_sendAndCheck _).mapError authError

end Identifying

/-! ## The probe -/

section Probing

variable [Server σ]

/-- A login promises that the transport is not known to be closed, that all replies
were read, and that nothing but a refusal of the probe was ignored. -/
structure LeavesUsable (before after : Transport σ) (probe : Except Pop3Error α) : Prop where
  notClosed : after.isClosed = false
  readAll : ReadAll before after
  notFailed : SucceedsOrRefused probe

/-- The network once the server has received the probe. -/
def asked (transport : Transport σ) : Net σ :=
  transport.net.receive (utf8 "CAPA".toList ++ [13, 10])

/-- The probe gets its answer: the stream takes it, and what the server has sent by
then all arrives before any deadline or loss and is one reply. -/
structure ProbeAnswered (transport : Transport σ) : Prop where
  notClosed : transport.isClosed = false
  accepted : ∀ count error, transport.net.writes.head? ≠ some (.drop count error)
  arrives : (asked transport).arriving.1 = (asked transport).wire
  isReply : IsReply (asked transport).arriving.2 (transport.buffer ++ (asked transport).wire)

/-- Bytes that fit the buffer wait in it. -/
theorem writeAll_of_fits
    {bytes : List UInt8}
    (nonempty : bytes ≠ [])
    {transport : Transport σ}
    (fits : transport.unflushed.length + bytes.length < bufferCapacity) :
    Transport.writeAll bytes transport =
      .ok () { transport with unflushed := transport.unflushed ++ bytes } := by
  have room : Transport.makeRoom bytes.length transport = .ok () transport := by
    rw [Transport.makeRoom, gets_bind_apply, if_neg (by omega)]
    rfl
  rw [Transport.writeAll, if_neg nonempty, bind_of_ok room, Transport.store,
    if_neg (by omega)]
  rfl

/-- A poll takes everything unless the connection is lost. -/
theorem pollWrite_error
    {transport : Transport σ}
    (stream : transport.stream ≠ .upgrading)
    (bytes : List UInt8) :
    (Transport.pollWrite bytes transport).2.2.stream = transport.stream ∧
      ((Transport.pollWrite bytes transport).2.1 = none ∧
          (∀ count error, transport.net.writes.head? ≠ some (.drop count error)) ∨
        ∃ count error, (Transport.pollWrite bytes transport).2.1 = some error ∧
          transport.net.writes.head? = some (.drop count error)) := by
  unfold Transport.pollWrite
  split
  · rename_i upgrading
    exact absurd upgrading stream
  · dsimp only
    split
    · rename_i dropped
      exact ⟨rfl, .inr ⟨_, _, rfl, dropped⟩⟩
    · rename_i accepted
      exact ⟨rfl, .inl ⟨rfl, accepted⟩⟩

/-- A flush succeeds unless the connection is lost. -/
theorem flush_cases
    {transport : Transport σ}
    (waiting : transport.unflushed ≠ [])
    (stream : transport.stream ≠ .upgrading) :
    (∃ after, Transport.flush transport = .ok () after) ∧
        (∀ count error, transport.net.writes.head? ≠ some (.drop count error)) ∨
      (∃ error after, Transport.flush transport = .error error after) ∧
        ∃ count error, transport.net.writes.head? = some (.drop count error) := by
  obtain ⟨same, outcome⟩ := pollWrite_error stream transport.unflushed
  rcases outcome with ⟨accepts, accepted⟩ | ⟨count, error, drops, dropped⟩
  · have flushed : ∃ after, Transport.flushBuf transport = .ok () after ∧
        after.stream = transport.stream := by
      unfold Transport.flushBuf
      rw [if_neg waiting]
      generalize Transport.pollWrite transport.unflushed transport = polled at same accepts
      obtain ⟨sent, found, after⟩ := polled
      obtain rfl : found = none := accepts
      exact ⟨_, rfl, same⟩
    obtain ⟨after, flushed, stays⟩ := flushed
    refine .inl ⟨?_, accepted⟩
    rw [Transport.flush, bind_of_ok flushed, gets_bind_apply, if_neg (stays ▸ stream)]
    exact ⟨_, rfl⟩
  · have broken : ∃ after, Transport.flushBuf transport = .error error after := by
      unfold Transport.flushBuf
      rw [if_neg waiting]
      generalize Transport.pollWrite transport.unflushed transport = polled at drops
      obtain ⟨sent, found, after⟩ := polled
      obtain rfl : found = some error := drops
      exact ⟨_, rfl⟩
    obtain ⟨after, broken⟩ := broken
    refine .inr ⟨?_, count, error, dropped⟩
    rw [Transport.flush, bind_of_error broken]
    exact ⟨_, _, rfl⟩

/-- The probe is sent unless the connection is lost while it is written. -/
theorem sendCommand_capa
    {transport : Transport σ}
    (flushed : Flushed transport) :
    (∃ after, Transport.sendCommand "CAPA".toList transport = .ok () after) ∧
        (∀ count error, transport.net.writes.head? ≠ some (.drop count error)) ∨
      (∃ error after, Transport.sendCommand "CAPA".toList transport =
          .error (.io error) after) ∧
        ∃ count error, transport.net.writes.head? = some (.drop count error) := by
  let filled (bytes : List UInt8) : Transport σ := { transport with unflushed := bytes }
  have command : Transport.writeAll (utf8 "CAPA".toList) transport =
      .ok () (filled (transport.unflushed ++ utf8 "CAPA".toList)) :=
    writeAll_of_fits (by decide) (by rw [flushed.unflushed]; decide)
  rw [flushed.unflushed] at command
  have ending : Transport.writeAll (utf8 "\r\n".toList) (filled ([] ++ utf8 "CAPA".toList)) =
      .ok () (filled ([] ++ utf8 "CAPA".toList ++ utf8 "\r\n".toList)) :=
    writeAll_of_fits (by decide) (by dsimp only [filled]; decide)
  have waiting : (filled ([] ++ utf8 "CAPA".toList ++ utf8 "\r\n".toList)).unflushed ≠ [] := by
    dsimp only [filled]
    decide
  rw [Transport.sendCommand]
  rcases flush_cases waiting flushed.stream with
    ⟨⟨after, run⟩, accepted⟩ | ⟨⟨error, after, run⟩, dropped⟩
  · refine .inl ⟨⟨after, mapError_of_ok ?_⟩, accepted⟩
    rw [bind_of_ok command, bind_of_ok ending]
    exact run
  · refine .inr ⟨⟨error, after, mapError_of_error ?_⟩, dropped⟩
    rw [bind_of_ok command, bind_of_ok ending]
    exact run

/-- The probe on the transport. -/
def probe : TransportM σ Str := do
  Transport.sendCommand "CAPA".toList
  readWhole

/-- The connection is left usable exactly when the probe gets its answer. -/
theorem probe_iff
    {start transport : Transport σ}
    (kept : Balanced start transport ∨ Dead transport)
    (flushed : Flushed transport) :
    LeavesUsable start (finalState (probe transport)) (returned (probe transport)) ↔
      ProbeAnswered transport := by
  rcases sendCommand_capa flushed with
    ⟨⟨sent, run⟩, accepted⟩ | ⟨⟨error, after, run⟩, count, lost, dropped⟩
  swap
  · rw [probe, bind_of_error run]
    refine iff_of_false (fun usable => ?_) fun answered => answered.accepted count lost dropped
    exact not_failsIo_of_succeedsOrRefused usable.notFailed ⟨_, rfl, rfl⟩
  obtain ⟨balanced, flushed', isClosed, buffer, quiet⟩ := sent_sendCommand run
  rw [flushed.unflushed, List.nil_append] at quiet
  have arriving : sent.net.quiet.arriving = (asked transport).quiet.arriving :=
    congrArg Net.arriving quiet
  have wire : sent.net.quiet.wire = (asked transport).quiet.wire := congrArg Net.wire quiet
  change sent.net.arriving = (asked transport).arriving at arriving
  change sent.net.wire = (asked transport).wire at wire
  have self := meets_self flushed'.stream
  rw [arriving, buffer] at self
  have pending : sent.pending = transport.buffer ++ (asked transport).wire := by
    rw [Transport.pending, buffer, wire]
  have begins : (asked transport).arriving.1 <+: (asked transport).wire :=
    arriving_begins _ _ _
  rw [probe, bind_of_ok run]
  rcases readWhole_cases self with
    ⟨failed, noReply⟩ | ⟨outcome, taken, left, arrived, consumed, closed, whole⟩
  · exact iff_of_false (fun usable => failed usable.notFailed) fun answered =>
      noReply (answered.arrives ▸ answered.isReply)
  rcases kept with kept | dead
  swap
  · -- On a lost connection nothing arrives, and that is no reply.
    have dead' := survivesSteps_dead.send "CAPA".toList transport dead
    rw [run, finalState_ok] at dead'
    obtain ⟨noBuffer, noWire⟩ := List.append_eq_nil_iff.mp (pending.symm.trans dead'.pending)
    rw [noWire, List.prefix_nil] at begins
    rw [noBuffer, begins, List.nil_append] at arrived whole
    have nothing := (List.append_eq_nil_iff.mp arrived.symm).2
    exact absurd (whole.mp nothing) (not_isReply_nil _)
  obtain ⟨replied, before, sent', consumed', same⟩ := kept.trans balanced
  rw [consumed', List.nil_append] at consumed
  constructor
  · intro usable
    obtain ⟨replied', sent'', consumed''⟩ := usable.readAll
    rw [replied_readWhole, sent', List.append_cancel_left_eq] at sent''
    subst sent''
    rw [consumed, ← same, List.append_assoc, List.append_cancel_left_eq,
      List.append_cancel_left_eq] at consumed''
    subst consumed''
    rw [pending, List.append_assoc, List.append_cancel_left_eq] at arrived
    have nothing : left = [] ∧ (asked transport).arriving.1 = (asked transport).wire := by
      have shorter := begins.length_le
      rw [arrived, List.length_append] at shorter
      have empty : left = [] := List.length_eq_zero_iff.mp (by omega)
      exact ⟨empty, by rw [arrived, empty, List.append_nil]⟩
    exact
      { notClosed := (closed.trans isClosed).symm.trans usable.notClosed
        accepted
        arrives := nothing.2
        isReply := nothing.2 ▸ whole.mp nothing.1 }
  · intro answered
    have isReply := answered.isReply
    rw [← answered.arrives] at isReply
    have nothing := whole.mpr isReply
    rw [nothing, List.append_nil, answered.arrives, ← pending] at arrived
    refine ⟨(closed.trans isClosed).trans answered.notClosed, ⟨replied, ?_, ?_⟩, outcome⟩
    · rw [replied_readWhole, sent']
    · rw [consumed, ← arrived, ← same, List.append_assoc]

/-! ## The login -/

theorem capa_eq :
    (capa : ClientM σ (List Capability)) =
      (do return parseCapa (← transportField.run probe)) := by
  simp only [capa, sendAndCheck, readBody, probe, readWhole, Field.run_bind,
    Field.run_ofResult, bind_assoc]

omit [Server σ] in
theorem succeedsOrRefused_map_iff (result : Except Pop3Error α) (wrap : α → β) :
    SucceedsOrRefused (result.map wrap) ↔ SucceedsOrRefused result := by
  cases result with
  | ok value => exact iff_of_true (.inl ⟨_, rfl⟩) (.inl ⟨_, rfl⟩)
  | error error =>
      constructor
      · rintro (⟨_, same⟩ | ⟨message, same⟩)
        · cases same
        · injection same with same
          exact .inr ⟨message, congrArg Except.error same⟩
      · rintro (⟨_, same⟩ | ⟨message, same⟩)
        · cases same
        · injection same with same
          exact .inr ⟨message, congrArg Except.error same⟩

/-- Whatever the probe comes to, the login succeeds. -/
theorem authenticated_eq (client : Pop3Client σ) :
    returned (authenticated client) = .ok () ∧
      (finalState (authenticated client)).transport =
        finalState (probe client.transport) := by
  have probed : (finalState (capa { client with state := .authenticated })).transport =
      finalState (probe client.transport) := by
    rw [capa_eq, finalState_bind_pure, Field.finalState_run]
    rfl
  rw [← probed, authenticated, modify_bind_apply, bind_of_ok (attempt_apply _ _)]
  exact ⟨rfl, rfl⟩

/-- A login whose credentials went through is usable exactly when its probe gets its
answer. -/
theorem identified_iff
    {identify : ClientM σ Str}
    (losesNothing : LosesNothing identify)
    (client : Pop3Client σ) :
    (returned ((identify >>= fun _ => authenticated) client) = .ok () →
      LeavesUsable client.transport
        (finalState ((identify >>= fun _ => authenticated) client)).transport
        (returned (capa { finalState (identify client) with state := .authenticated }))) ↔
    ∀ text start, identify client = .ok text start → ProbeAnswered start.transport := by
  cases run : identify client with
  | error error middle =>
      rw [bind_of_error run]
      exact iff_of_true (fun succeeds => nomatch succeeds) fun _ _ succeeds => nomatch succeeds
  | ok text start =>
      obtain ⟨kept, flushed⟩ := losesNothing client text start run
      obtain ⟨succeeds, transport⟩ := authenticated_eq start
      have outcome : SucceedsOrRefused (returned (capa { start with state := .authenticated })) ↔
          SucceedsOrRefused (returned (probe start.transport)) := by
        rw [capa_eq, returned_bind_pure, succeedsOrRefused_map_iff, Field.returned_run]
        rfl
      have answered := probe_iff kept flushed
      rw [bind_of_ok run, transport]
      constructor
      · intro promise _ _ same
        injection same with _ same
        obtain ⟨notClosed, readAll, notFailed⟩ := promise succeeds
        exact same ▸ answered.mp ⟨notClosed, readAll, outcome.mp notFailed⟩
      · intro probes _
        obtain ⟨notClosed, readAll, notFailed⟩ := answered.mpr (probes text start rfl)
        exact ⟨notClosed, readAll, outcome.mpr notFailed⟩

/-- A login, with either command, keeps its promise exactly when, once the credentials
were accepted, the probe of the capabilities gets its answer. -/
theorem login_leaves_usable_iff [Md5] (username password : Str) (client : Pop3Client σ) :
    ((returned (login username password client) = .ok () →
      LeavesUsable client.transport (finalState (login username password client)).transport
        (returned (capa { finalState (sendPassword username password client) with
          state := .authenticated }))) ↔
      ∀ text start, sendPassword username password client = .ok text start →
        ProbeAnswered start.transport) ∧
    ((returned (apop username password client) = .ok () →
      LeavesUsable client.transport (finalState (apop username password client)).transport
        (returned (capa { finalState (sendDigest username password client) with
          state := .authenticated }))) ↔
      ∀ text start, sendDigest username password client = .ok text start →
        ProbeAnswered start.transport) := by
  rw [login_eq, apop_eq]
  exact ⟨identified_iff (losesNothing_sendPassword username password) client,
    identified_iff (losesNothing_sendDigest username password) client⟩

end Probing

/-- A server that accepts a password and hangs up when it is asked for its
capabilities. -/
def hangingUp : Pop3Client Script where
  transport :=
    { stream := .plain
      encrypted := false
      net := { server := { replies := [
        { bytes := utf8 "+OK\r\n".toList },
        { bytes := utf8 "+OK\r\n".toList },
        { bytes := [], close := true }] } } }
  greeting := []
  state := .connected
  isPipelining := false

/-- It gets a login that succeeds on a connection that is known to be closed. -/
theorem exists_login_not_usable :
    ¬∀ (client : Pop3Client Script) (username password : Str),
      returned (login username password client) = .ok () →
        LeavesUsable client.transport (finalState (login username password client)).transport
          (returned (capa { finalState (sendPassword username password client) with
            state := .authenticated })) := by
  intro promise
  have succeeds : returned (login "u".toList "p".toList hangingUp) = .ok () := by
    decide +kernel
  have closed : (finalState (login "u".toList "p".toList hangingUp)).transport.isClosed =
      true := by
    decide +kernel
  have usable := promise hangingUp "u".toList "p".toList succeeds
  exact Bool.false_ne_true (usable.notClosed.symm.trans closed)

end Pop3
