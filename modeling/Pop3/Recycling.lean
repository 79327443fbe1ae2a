import Pop3.Manager
import Pop3.Authentication
import Pop3.Attribution.Runs

/-!
# Recycled connections

The pool hands a connection out again when it is not marked as closed and a
`NOOP` succeeds.  Neither test looks at what is still in flight: a connection
that comes back with an unread reply passes, and hands its backlog on.
-/

namespace Pop3

open Rust Pop3Client

/-! ## Whole lines -/

/-- An answer ends with LF. -/
theorem Answer.isWhole_encode (multiLine : Bool) (answer : Answer) :
    IsWhole (answer.encode multiLine) := by
  have ending : ∀ bytes : List UInt8, IsWhole (bytes ++ [13, 10]) := by simp [IsWhole]
  have status : IsWhole (utf8 (answer.status ++ Framing.crlf)) := by
    rw [utf8_append, show utf8 Framing.crlf = [13, 10] from by decide]
    exact ending _
  unfold Answer.encode
  refine status.append ?_
  split
  · rw [Framing.encodeBody, show utf8 Framing.terminator = [46] ++ [13, 10] from by decide,
      ← List.append_assoc]
    exact ending _
  · exact isWhole_nil

theorem Answer.encode_ne_nil (multiLine : Bool) (answer : Answer) :
    answer.encode multiLine ≠ [] := by
  rw [Answer.encode, utf8_append, show utf8 Framing.crlf = [13, 10] from by decide]
  simp

/-! ## Connections on loan -/

/-- The server is connected, and every reply in flight will arrive whole. -/
structure Lent (transport : Transport σ) : Prop where
  ready : Ready late transport
  isOpen : transport.net.isOpen = true
  isWhole : IsWhole transport.pending

theorem Lent.of_inSync
    {client : Pop3Client σ}
    {dialogue : Dialogue σ}
    (inSync : InSync late client dialogue) :
    Lent client.transport where
  ready := inSync.shows.ready
  isOpen := inSync.shows.isOpen
  isWhole := by
    rw [inSync.shows.pending]
    exact isWhole_nil

section Lending

variable [AnsweringServer σ]

/-- The server only adds whole lines to what is in flight. -/
theorem Net.receive_whole
    {net : Net σ}
    (isOpen : net.isOpen = true)
    (bytes : List UInt8) :
    (net.receive bytes).isOpen = true ∧
      ∃ replied, (net.receive bytes).wire = net.wire ++ replied ∧ IsWhole replied := by
  refine receive_induction
    (motive := fun after => after.isOpen = true ∧
      ∃ replied, after.wire = net.wire ++ replied ∧ IsWhole replied)
    (fun _ _ still _ _ => still) ?_ ⟨isOpen, [], (List.append_nil _).symm, isWhole_nil⟩ bytes
  rintro after ⟨_, replied, wire, isWhole⟩ isOpen'
  rw [receiveByte_feed isOpen']
  have whole : IsWhole (Server.respond after.server (commandOf after.inbound)).2.bytes :=
    Answer.isWhole_encode _ _
  refine ⟨rfl, _, ?_, isWhole.append whole⟩
  rw [wire, List.append_assoc]

/-- Whole command lines leave a connection as it is lent. -/
theorem Lent.finalState_of_writes
    {transport : Transport σ}
    (lent : Lent transport)
    {commands : List Str}
    {action : WriterM σ Unit}
    (writes : Transport.Writes late (commandLines commands) action transport
      fun after => after.unflushed = []) :
    Lent (finalState (action transport)) := by
  have ready := lent.ready.finalState_of_writes rfl writes
  rcases writes lent.ready.stream lent.ready.writes with ⟨after, run, wrote, flushed⟩ | ⟨lossy, _⟩
  · rw [run] at ready ⊢
    have outlook := wrote.outlook
    simp only [Transport.outlook, flushed, lent.ready.unflushed, Net.receive_nil] at outlook
    obtain ⟨isOpen, replied, wire, isWhole⟩ :=
      @Net.receive_whole σ _ transport.net.quiet lent.isOpen (commandLines commands)
    rw [← outlook] at isOpen wire
    have wire' : after.net.wire = transport.net.wire ++ replied := wire
    refine ⟨ready, isOpen, ?_⟩
    rw [finalState_ok, Transport.pending, wrote.buffer, wire', ← List.append_assoc]
    exact lent.isWhole.append isWhole
  · cases lossy

omit [AnsweringServer σ] in
/-- A line that is read, or lost, leaves whole lines. -/
theorem preserves_lent_readLine :
    Preserves Lent (Transport.readLine : TransportM σ Str) := by
  intro transport lent
  obtain ⟨isOpen, taken, pending⟩ := Transport.readLine_kept lent.ready rfl
  refine ⟨preserves_ready_readLine rfl transport lent.ready, isOpen.trans lent.isOpen, ?_⟩
  have isWhole := lent.isWhole
  rw [pending] at isWhole
  exact isWhole.of_append

theorem survivesSteps_lent : SurvivesSteps (Lent : Transport σ → Prop) where
  send command := by
    refine .mapError fun transport lent => ?_
    have line : utf8 command ++ [13, 10] = commandLines [command] := (List.append_nil _).symm
    have writes : Transport.Writes late _ _ transport _ := writes_command command transport
    rw [line] at writes
    exact lent.finalState_of_writes writes
  window verb ids transport lent := lent.finalState_of_writes (writes_window verb ids transport)
  read := preserves_lent_readLine

omit [AnsweringServer σ] in
/-- An upgrade drops what was in flight, or the stream. -/
theorem preserves_lent_upgradeInPlace (hostname : Str) :
    Preserves (fun transport : Transport σ => Lent transport ∨ IsGone transport)
      (Transport.upgradeInPlace hostname) := by
  intro transport lent
  rcases Transport.upgradeInPlace_cases hostname transport with
    ⟨error, run, _⟩ | ⟨error, run, _⟩ | ⟨run, _, plain⟩
  · rw [run]
    exact lent
  · rw [run]
    exact .inr ⟨rfl, trivial⟩
  · rw [run]
    rcases lent with ⟨ready, isOpen, _⟩ | ⟨upgrading, _⟩
    · exact .inl
        { ready :=
            { stream := InnerStream.noConfusion
              unflushed := rfl
              inbound := rfl
              reads := ready.reads
              writes := ready.writes }
          isOpen
          isWhole := isWhole_nil }
    · rw [plain] at upgrading
      cases upgrading

/-- Whatever its holder calls, a connection stays as it was lent, or its stream is gone. -/
theorem lent_runAll [Md5]
    (calls : List Call)
    {client : Pop3Client σ}
    (lent : Lent client.transport) :
    Lent (Call.runAll calls client).transport ∨ IsGone (Call.runAll calls client).transport :=
  Call.preserves_runAll (survivesSteps_lent.or lasting_true.steps)
    preserves_lent_upgradeInPlace calls (.inl lent)

/-! ## The tests of the pool -/

/-- The connection has passed both tests of the pool: on its return, and before it
is handed out again. -/
structure Recycled (back next : Pop3Client σ) : Prop where
  unbroken : Pop3ConnectionManager.hasBroken back = false
  isValid : Pop3ConnectionManager.isValid back = .ok () next

/-- Nothing is unread, and every status line that is read answers the command
that was just sent. -/
structure Synchronized (client : Pop3Client σ) : Prop where
  inSync : InSync late client client.dialogue
  ownReply : ∀ command, '\n' ∉ command →
    returned (sendAndCheck command client) = (client.dialogue.ask command).1.statusResult ∨
      returned (sendAndCheck command client) = .error .timeout

theorem ownReply_of_inSync
    {client : Pop3Client σ}
    {dialogue : Dialogue σ}
    (inSync : InSync late client dialogue)
    {command : Str}
    (noFeed : '\n' ∉ command) :
    returned (sendAndCheck command client) = (dialogue.ask command).1.statusResult ∨
      returned (sendAndCheck command client) = .error .timeout := by
  have answered : returned ((View.partner : Partner (View σ)).status command dialogue.view) =
      (dialogue.ask command).1.statusResult := by
    change returned (View.readStatus (dialogue.view.hear command)) = _
    rw [Dialogue.readStatus_hear]
    cases (dialogue.ask command).1.statusResult <;> rfl
  rcases sendAndCheck_gives noFeed (fun _ => rfl) client inSync with
    ⟨same, _⟩ | ⟨error, failed, _, rfl, _⟩ | ⟨lossy, _⟩
  · exact .inl (same.trans answered)
  · exact .inr failed
  · cases lossy

/-- On a connection with a backlog the reply to a command stays behind. -/
theorem backlog_readStatus
    {view after : View σ}
    {text : Str}
    (isOpen : view.isOpen = true)
    (isWhole : IsWhole view.pending)
    (nonempty : view.pending ≠ [])
    {command : Str}
    (read : View.readStatus (view.hear command) = .ok text after) :
    after.pending ≠ [] := by
  obtain ⟨first, rest, split⟩ := isWhole.exists_line nonempty
  obtain ⟨line, middle, reads, status⟩ := exists_of_bind_ok read
  obtain ⟨rfl, _⟩ := eq_of_ofResult_ok status
  have next := Transport.splitFeed_append_of_eq_some split
    ((AnsweringServer.answer view.server (utf8 command)).2.encode (isMultiLine (utf8 command)))
  unfold View.readLine View.nextLine View.hear at reads
  rw [if_pos isOpen] at reads
  dsimp only [Server.respond] at reads
  rw [next] at reads
  dsimp only at reads
  split at reads
  · cases reads
  · split at reads
    · cases reads
    · injection reads with _ same
      rw [← same]
      simp [Answer.encode_ne_nil]

/-- A `NOOP` that succeeds was sent, and a positive status line was read. -/
theorem sent_of_isValid
    {back next : Pop3Client σ}
    (isValid : Pop3ConnectionManager.isValid back = .ok () next) :
    back.state = .authenticated ∧
      ∃ text, sendAndCheck "NOOP".toList back = .ok text next := by
  obtain ⟨_, passed, required, checked⟩ := exists_of_bind_ok isValid
  obtain ⟨state, same, looked, allowed⟩ := exists_of_bind_ok required
  injection looked with isState isSame
  subst isState isSame
  obtain ⟨rfl, permitted⟩ := eq_of_ofResult_ok allowed
  obtain ⟨text, last, sent, done⟩ := exists_of_bind_ok checked
  injection done with _ same
  subst same
  refine ⟨?_, text, sent⟩
  by_contra other
  rw [if_pos other] at permitted
  cases permitted

/-- A connection that passes the tests has a stream. -/
theorem Recycled.lent_back
    {back next : Pop3Client σ}
    (lent : Lent back.transport ∨ IsGone back.transport)
    (recycled : Recycled back next) :
    Lent back.transport := by
  refine lent.resolve_right fun gone => ?_
  obtain ⟨_, _, sent⟩ := sent_of_isValid recycled.isValid
  obtain ⟨_, _, written, _⟩ := exists_of_bind_ok sent
  obtain ⟨_, reached, _⟩ := Field.eq_of_run_ok written
  obtain ⟨error, failed⟩ := failsWhenGone_sendCommand "NOOP".toList back.transport gone
  rw [show Transport.sendCommand _ back.transport = _ from reached] at failed
  cases failed

/-- A connection that is handed out again can be lent like any other. -/
theorem Recycled.lent_next
    {back next : Pop3Client σ}
    (lent : Lent back.transport)
    (recycled : Recycled back next) :
    Lent next.transport := by
  have valid : noop back = .ok () next := recycled.isValid
  have kept := program_noop.preserves survivesSteps_lent back lent
  rwa [valid, finalState_ok] at kept

/-- A connection that passes the tests is in sync exactly if nothing was unread
when it came back. -/
theorem Recycled.inSync_iff
    {back next : Pop3Client σ}
    (lent : Lent back.transport)
    (recycled : Recycled back next) :
    InSync late next next.dialogue ↔ back.transport.pending = [] := by
  obtain ⟨authenticated, text, sent⟩ := sent_of_isValid recycled.isValid
  have serves : Serves late back back.transport.view := ⟨lent.ready.shows, authenticated⟩
  constructor
  · intro inSync
    have gives : Gives (Serves late) (clientMishaps late) (sendAndCheck "NOOP".toList)
        back.transport.view _ _ :=
      sendAndCheck_gives (by decide) (by simp [late])
    rcases gives back serves with ⟨same, served⟩ | ⟨_, failed, _⟩ | ⟨lossy, _⟩
    · rw [sent] at same served
      by_contra nonempty
      have unread := backlog_readStatus lent.isOpen lent.isWhole nonempty
        (eq_ok_of_returned same.symm)
      exact unread (served.shows.pending.symm.trans inSync.shows.pending)
    · rw [sent] at failed
      cases failed
    · cases lossy
  · intro nothing
    have inSync : InSync late back back.dialogue := by
      have view : back.transport.view = back.dialogue.view := by
        have closed : back.transport.isClosed = false := recycled.unbroken
        simp [Transport.view, Dialogue.view, Pop3Client.dialogue, Pop3Client.noted,
          nothing, lent.isOpen, closed]
      rwa [view] at serves
    have valid : noop back = .ok () next := recycled.isValid
    rcases (exchanges_dialogue late).noop back.dialogue back inSync with
      ⟨_, inSync'⟩ | ⟨_, failed, _⟩ | ⟨lossy, _⟩
    · rw [valid, finalState_ok] at inSync'
      rwa [dialogue_of_inSync inSync']
    · rw [valid] at failed
      cases failed
    · cases lossy

/-- After any calls of its holder, a connection that passes the tests of the pool is
synchronized exactly if no reply was unread when it came back. -/
theorem synchronized_iff_nothing_unread [Md5]
    {client : Pop3Client σ}
    (lent : Lent client.transport)
    (calls : List Call)
    {next : Pop3Client σ}
    (recycled : Recycled (Call.runAll calls client) next) :
    Synchronized next ↔ (Call.runAll calls client).transport.pending = [] := by
  have inSync_iff := recycled.inSync_iff (recycled.lent_back (lent_runAll calls lent))
  rw [← inSync_iff]
  exact ⟨fun synchronized => synchronized.inSync,
    fun inSync => ⟨inSync, fun _ noFeed => ownReply_of_inSync inSync noFeed⟩⟩

end Lending

/-- A server that says `+OK 2 320` to every command. -/
def agreeing : SameAnswer where
  answer := { isPositive := true, text := ⟨"2 320".toList, by decide, by decide⟩, body := [] }

/-- The reply to a `STAT` that timed out answers the `NOOP`, whose own reply is left to
the next holder. -/
theorem exists_recycled_not_synchronized :
    ¬∀ (client : Pop3Client SameAnswer) (dialogue : Dialogue SameAnswer),
      InSync late client dialogue → ∀ (calls : List Call) (next : Pop3Client SameAnswer),
        Recycled (@Call.runAll _ _ emptyDigest calls client) next → Synchronized next := by
  intro always
  have synchronized := always (.idle agreeing [.deadline] false) _
    (inSync_idle (by simp [ReadTick.Within, late]) agreeing false) [.stat] _
    ⟨by decide +kernel, eq_ok_of_returned (by decide +kernel)⟩
  have unread := synchronized.inSync.shows.pending
  exact absurd unread (by decide +kernel)

/-- A `STAT` that is answered in time leaves a connection to hand on. -/
theorem synchronized_agreeing :
    Synchronized (finalState (Pop3ConnectionManager.isValid
      (@Call.runAll _ _ emptyDigest [.stat] (.idle agreeing [.arrive 3] false)))) :=
  (@synchronized_iff_nothing_unread _ _ emptyDigest (.idle agreeing [.arrive 3] false)
    (.of_inSync (inSync_idle (by simp [ReadTick.Within]) agreeing false)) [.stat] _
    ⟨by decide +kernel, eq_ok_of_returned (by decide +kernel)⟩).mpr (by decide +kernel)

end Pop3
