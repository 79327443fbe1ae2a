import Pop3.Octets.Backlog

/-!
# Consuming whole replies

Whatever octets the replies carry, a call leaves nothing unread exactly when
all that was replied to it is text.
-/

namespace Pop3

open Rust Framing Pop3Client

/-! ## What has been replied -/

/-- What the server replied is text. -/
def Event.IsText : Event → Prop
  | .answered _ reply => IsUtf8 reply
  | _ => True

/-- Since the log was this, only text has been replied. -/
def SpokenSince (start log : List Event) : Prop :=
  ∃ new, log = start ++ new ∧ ∀ event ∈ new, event.IsText

/-- Since the log was this, something that is not good has happened. -/
def MetSince (good : Event → Prop) (start log : List Event) : Prop :=
  ∃ new, log = start ++ new ∧ ∃ event ∈ new, ¬good event

/-- Since the log was this, something else has been replied. -/
abbrev GarbledSince (start log : List Event) : Prop := MetSince Event.IsText start log

theorem spokenSince_self (start : List Event) : SpokenSince start start :=
  ⟨[], by simp, by simp⟩

theorem SpokenSince.append
    {start log : List Event}
    (spoken : SpokenSince start log)
    {events : List Event}
    (texts : ∀ event ∈ events, event.IsText) :
    SpokenSince start (log ++ events) := by
  obtain ⟨new, rfl, isText⟩ := spoken
  refine ⟨new ++ events, by rw [List.append_assoc], fun event member => ?_⟩
  exact (List.mem_append.mp member).elim (isText event) (texts event)

theorem SpokenSince.met
    {good : Event → Prop}
    {start log : List Event}
    (spoken : SpokenSince start log)
    {events : List Event}
    {event : Event}
    (member : event ∈ events)
    (notGood : ¬good event) :
    MetSince good start (log ++ events) := by
  obtain ⟨new, rfl, _⟩ := spoken
  exact ⟨new ++ events, by rw [List.append_assoc], event, List.mem_append_right _ member, notGood⟩

theorem MetSince.append
    {good : Event → Prop}
    {start log : List Event}
    (met : MetSince good start log)
    (events : List Event) :
    MetSince good start (log ++ events) := by
  obtain ⟨new, rfl, event, member, notGood⟩ := met
  exact ⟨new ++ events, by rw [List.append_assoc], event, List.mem_append_left _ member, notGood⟩

/-! ## Clients -/

section Clients

variable [AnsweringServer σ]

/-- Nothing is unread, and only text has been replied. -/
structure InStep (start : List Event) (client : Pop3Client σ) (dialogue : Dialogue σ) :
    Prop where
  inSync : InSync calm client dialogue
  spoken : SpokenSince start dialogue.log

/-- Something is unread on a connection that is still open. -/
structure Trails (start : List Event) (view : View σ) : Prop where
  isOpen : view.isOpen = true
  isClosed : view.isClosed = false
  backlog : IsBacklog view.pending
  garbled : GarbledSince start view.log

/-- The client has stopped in a reply that is not text. -/
def FallsBehind (start : List Event) (client : Pop3Client σ) : Prop :=
  ∃ view, Serves calm client view ∧ Trails start view

/-- A call may stop in a reply. -/
def octetMishaps (start : List Event) : Escapes Pop3Error (Pop3Client σ) where
  stuck _ client := FallsBehind start client
  gone _ := False

omit [AnsweringServer σ] in
/-- Leaving a backlog on a connection where something was not text is to trail. -/
theorem Trails.of_leavesBacklog
    {start : List Event}
    {view : View σ}
    {result : EStateM.Result Pop3Error (View σ) α}
    (isOpen : view.isOpen = true)
    (isClosed : view.isClosed = false)
    (garbled : GarbledSince start view.log)
    (leaves : LeavesBacklog result view) :
    Trails start (finalState result) := by
  obtain ⟨pending, backlog, same⟩ := leaves
  rw [same]
  exact ⟨isOpen, isClosed, backlog, garbled⟩

/-- A positive reply whose body is not text is left behind. -/
theorem trails_of_unreadable
    {start : List Event}
    {dialogue : Dialogue σ}
    (spoken : SpokenSince start dialogue.log)
    {command : Str}
    (multi : isMultiLine (utf8 command) = true)
    (plain : (dialogue.ask command).1.IsPlain)
    (unreadable : ¬(dialogue.ask command).1.IsReadable true) :
    (∃ error, returned (View.partner.body command dialogue.view) = .error error) ∧
      Trails start (finalState (View.partner.body command dialogue.view)) := by
  have status := Dialogue.readStatus_hear dialogue command
  have garbled : GarbledSince start (dialogue.view.hear command).log := by
    have noText : ¬(Event.answered (utf8 command)
        ((dialogue.ask command).1.encode (isMultiLine (utf8 command)))).IsText := by
      rw [multi, Event.IsText, plain.isUtf8_iff]
      exact unreadable
    rw [Dialogue.hear_view]
    exact spoken.met List.mem_cons_self noText
  have positive : (dialogue.ask command).1.isPositive = true := by
    by_contra negative
    exact unreadable fun both => absurd both (by simp [negative])
  have noText : ¬(dialogue.ask command).1.IsText :=
    fun isText => unreadable fun _ => ⟨isText, plain.harmless⟩
  change (∃ error, returned (View.readReply (dialogue.view.hear command)) = .error error) ∧
    Trails start (finalState (View.readReply (dialogue.view.hear command)))
  rw [multi, positive, Answer.statusResult, if_pos positive] at status
  rw [Dialogue.hear_view] at garbled
  unfold View.readReply
  rw [bind_of_ok status]
  have pending : ({ (dialogue.ask command).2.view with
      pending := encodeBody (dialogue.ask command).1.body } : View σ).pending =
        encodeBody (dialogue.ask command).1.body ++ [] :=
    (List.append_nil _).symm
  obtain ⟨left, plainLeft, stops⟩ := View.readMultiline_of_unreadable plain pending noText
  simp only [Bool.and_self, ↓reduceIte]
  rw [stops]
  have behind := isBacklog_body plainLeft (List.forall_mem_nil Answer.IsPlain)
  exact ⟨⟨_, rfl⟩, rfl, rfl, behind, garbled⟩

/-- A readable reply goes on what has been said. -/
theorem spoken_ask
    {start : List Event}
    {dialogue : Dialogue σ}
    (spoken : SpokenSince start dialogue.log)
    {command : Str}
    (readable : (dialogue.ask command).1.IsReadable (isMultiLine (utf8 command))) :
    SpokenSince start (dialogue.ask command).2.log := by
  refine spoken.append fun event member => ?_
  rw [List.mem_singleton] at member
  rw [member]
  exact (Answer.isUtf8_encode _ _).mpr fun both => (readable both).isText

/-- Up to a stop in a reply, commands are exchanged as with the server itself. -/
theorem talks_octets
    (plain : ∀ (server : σ) command, (AnsweringServer.answer server command).2.IsPlain)
    (start : List Event) :
    Talks (octetMishaps start) (InStep start) (Dialogue.partner : Partner (Dialogue σ)) where
  keeps _ _ gone := gone
  authenticated _ _ inStep := inStep.inSync.authenticated
  status command noFeed single dialogue client inStep := by
    have follows : Follows (InSync calm) (clientMishaps calm) (sendAndCheck command)
        ((Dialogue.partner : Partner (Dialogue σ)).status command) :=
      status_follows noFeed single
    rw [clientMishaps_calm] at follows
    obtain ⟨same, inSync⟩ := (follows dialogue).of_none inStep.inSync
    refine .inl ⟨same, inSync, ?_⟩
    change SpokenSince start (finalState (Dialogue.take _ command dialogue)).log
    rw [Dialogue.finalState_take]
    apply spoken_ask inStep.spoken
    rw [single]
    exact Answer.isReadable_single _
  body command noFeed multi dialogue client inStep := by
    by_cases readable : (dialogue.ask command).1.IsReadable true
    · have gives : Gives (InSync calm) (clientMishaps calm) _ dialogue _ _ :=
        body_gives noFeed multi readable
      rw [clientMishaps_calm] at gives
      obtain ⟨same, inSync⟩ := gives.of_none inStep.inSync
      refine .inl ⟨same, inSync, ?_⟩
      change SpokenSince start (finalState (Dialogue.take _ command dialogue)).log
      rw [Dialogue.finalState_take]
      apply spoken_ask inStep.spoken
      rwa [multi]
    · have gives : Gives (Serves calm) (clientMishaps calm) (do
          let _ ← sendAndCheck command
          readBody) dialogue.view _ _ :=
        sendAndReadBody_gives noFeed fun _ => rfl
      rw [clientMishaps_calm] at gives
      obtain ⟨same, served⟩ := gives.of_none inStep.inSync
      obtain ⟨⟨error, failed⟩, trails⟩ := trails_of_unreadable inStep.spoken multi (plain _ _) readable
      exact .inr (.inl ⟨error, same.trans failed, _, served, trails⟩)

/-! ## Batches of `RETR` -/

/-- Nothing is unread of what was text, or the client has stopped in a reply. -/
def Ends (start : List Event) (client : Pop3Client σ) : Prop :=
  (∃ dialogue, InStep start client dialogue) ∨ FallsBehind start client

omit [AnsweringServer σ] in
/-- Up to stops in replies, what follows the server ends so. -/
theorem ends_of_follows
    {start : List Event}
    {action : ClientM σ α}
    {ideal : Action Pop3Error (Dialogue σ) α}
    (follows : Follows (InStep start) (octetMishaps start) action ideal)
    {client : Pop3Client σ}
    {dialogue : Dialogue σ}
    (inStep : InStep start client dialogue) :
    Ends start (finalState (action client)) := by
  rcases follows dialogue client inStep with ⟨_, inStep'⟩ | ⟨_, _, behind⟩ | gone
  · exact .inl ⟨_, inStep'⟩
  · exact .inr behind
  · exact gone.elim

theorem View.hear_of_isOpen
    {view : View σ}
    (isOpen : view.isOpen = true)
    (command : Str) :
    view.hear command =
      { view with
        server := (AnsweringServer.answer view.server (utf8 command)).1
        pending := view.pending ++ (AnsweringServer.answer view.server (utf8 command)).2.encode
          (isMultiLine (utf8 command))
        isOpen := true
        log := view.log ++ [.answered (utf8 command)
          ((AnsweringServer.answer view.server (utf8 command)).2.encode
            (isMultiLine (utf8 command)))] } := by
  simp [View.hear, isOpen, Server.respond]

/-- Another exchange leaves something unread again. -/
theorem Trails.retr
    (plain : ∀ (server : σ) command, (AnsweringServer.answer server command).2.IsPlain)
    {start : List Event}
    {view : View σ}
    (trails : Trails start view)
    (messageId : UInt32) :
    Trails start (finalState ((View.partner : Partner (View σ)).retr messageId view)) := by
  unfold Partner.retr
  cases validateMessageId messageId with
  | error error => exact trails
  | ok _ =>
      rw [ofResult_ok_bind, finalState_bind_pure]
      change Trails start (finalState (View.readReply (view.hear _)))
      rw [View.hear_of_isOpen trails.isOpen, isMultiLine_retr]
      obtain ⟨left, answers, pending, plainly, enough⟩ := trails.backlog.append
        (plain view.server (utf8 (commandFor "RETR ".toList messageId)))
      refine Trails.of_leavesBacklog ?_ ?_ ?_ (View.readReply_leavesBacklog plainly ?_ enough)
      · rfl
      · exact trails.isClosed
      · exact trails.garbled.append _
      · exact pending

theorem preserves_ends_retr
    (plain : ∀ (server : σ) command, (AnsweringServer.answer server command).2.IsPlain)
    (start : List Event)
    (messageId : UInt32) :
    Preserves (Ends start) (retr messageId : ClientM σ Message) := by
  rintro client (⟨dialogue, inStep⟩ | ⟨view, served, trails⟩)
  · exact ends_of_follows ((talks_octets plain start).retr messageId) inStep
  · have follows : Follows (Serves calm) (clientMishaps calm) (retr messageId)
        ((View.partner : Partner (View σ)).retr messageId) :=
      (talks_view rfl).retr messageId
    rw [clientMishaps_calm] at follows
    exact .inr ⟨_, ((follows view).of_none served).2, trails.retr plain messageId⟩

/-! ## Windows of `RETR` -/

omit [AnsweringServer σ] in
theorem readRetrResponse_of_unreadable
    {view : View σ}
    {answer : Answer}
    {answers : List Answer}
    (plain : answer.IsPlain)
    (plainAnswers : ∀ answer ∈ answers, answer.IsPlain)
    (pending : view.pending = answer.encode true ++ Dialogue.replies true answers)
    (unreadable : ¬answer.IsReadable true) :
    ∃ left, IsBacklog left ∧ View.readRetrResponse view =
      .error (.io invalidUtf8) { view with pending := left } := by
  have positive : answer.isPositive = true := by
    by_contra negative
    exact unreadable fun both => absurd both (by simp [negative])
  have noText : ¬answer.IsText :=
    fun isText => unreadable fun _ => ⟨isText, plain.harmless⟩
  have framed : view.pending = utf8 (answer.status ++ crlf) ++
      (encodeBody answer.body ++ Dialogue.replies true answers) := by
    rw [pending, Answer.encode, positive]
    simp
  have behind : ({ view with
      pending := encodeBody answer.body ++ Dialogue.replies true answers } : View σ).pending =
        encodeBody answer.body ++ Dialogue.replies true answers := rfl
  obtain ⟨left, plainLeft, stops⟩ := View.readMultiline_of_unreadable plain behind noText
  refine ⟨_, isBacklog_body plainLeft plainAnswers, ?_⟩
  rw [View.readRetrResponse, bind_of_ok (View.readLine_of_status framed),
    Answer.parseStatusLine_status, Answer.statusResult, if_pos positive, ofResult_ok_bind,
    bind_of_error stops]

omit [AnsweringServer σ] in
/-- The receive phase takes all replies that are text, or stops in the first other. -/
theorem drainWindow_octets
    {window : List UInt32}
    {answers : List Answer}
    (plain : ∀ answer ∈ answers, answer.IsPlain)
    (lengths : answers.length = window.length)
    {view : View σ}
    (pending : view.pending = Dialogue.replies true answers) :
    (∀ answer ∈ answers, answer.IsReadable true) ∨
      (∃ answer ∈ answers, ¬answer.IsReadable true) ∧
      ∃ items left, drainWindow View.readRetrResponse window view =
        .ok (items, false) { view with pending := left } ∧ IsBacklog left := by
  induction window generalizing answers view with
  | nil =>
      have none_left : answers = [] := List.length_eq_zero_iff.mp lengths
      subst none_left
      exact .inl (by simp)
  | cons messageId window inductionHypothesis =>
      obtain ⟨answer, answers, rfl⟩ := List.exists_cons_of_length_eq_add_one lengths
      obtain ⟨plainFirst, plainRest⟩ := List.forall_mem_cons.mp plain
      have pendingFirst : view.pending =
          answer.encode true ++ Dialogue.replies true answers := by
        rw [pending, Dialogue.replies, List.flatMap_cons]
        rfl
      by_cases readable : answer.IsReadable true
      · obtain ⟨same, after⟩ := receives_retr.takes view answer _ readable pendingFirst
        rcases inductionHypothesis plainRest (Nat.succ.inj lengths)
            (show ({ view with pending := Dialogue.replies true answers } : View σ).pending = _
              from rfl) with
          others | ⟨⟨other, member, unreadable⟩, items, left, stops, behind⟩
        · exact .inl (List.forall_mem_cons.mpr ⟨readable, others⟩)
        · refine .inr ⟨⟨other, List.mem_cons_of_mem _ member, unreadable⟩,
            retrResult answer :: items, left, ?_, behind⟩
          rw [drainWindow, bind_of_ok (attempt_apply _ _), same, after]
          cases given : retrResult answer with
          | ok value =>
              dsimp only
              rw [bind_of_ok stops]
              rfl
          | error error =>
              dsimp only
              have serverLevel := (receives_retr : Receives true (View.readRetrResponse :
                Action Pop3Error (View σ) Message) retrResult).isServerLevel
              rw [serverLevel answer error given]
              simp only [Bool.false_eq_true, ↓reduceIte]
              rw [bind_of_ok stops]
              rfl
      · obtain ⟨left, behind, fails⟩ := readRetrResponse_of_unreadable plainFirst plainRest pendingFirst readable
        refine .inr ⟨⟨answer, List.mem_cons_self, readable⟩, [], left, ?_, behind⟩
        rw [drainWindow, bind_of_ok (attempt_of_error fails)]
        rfl

theorem askAll_log (commands : List Str) (dialogue : Dialogue σ) :
    ∃ events, (Dialogue.askAll commands dialogue).2.log = dialogue.log ++ events := by
  induction commands generalizing dialogue with
  | nil => exact ⟨[], by simp [Dialogue.askAll]⟩
  | cons command commands inductionHypothesis =>
      obtain ⟨events, same⟩ := inductionHypothesis (dialogue.ask command).2
      refine ⟨_, same.trans (List.append_assoc _ _ _)⟩

/-- Whether only text has been said is decided by the answers. -/
theorem spoken_or_garbled_askAll
    (plain : ∀ (server : σ) command, (AnsweringServer.answer server command).2.IsPlain)
    {start : List Event}
    {multiLine : Bool}
    {commands : List Str}
    (kind : ∀ command ∈ commands, isMultiLine (utf8 command) = multiLine)
    {dialogue : Dialogue σ}
    (spoken : SpokenSince start dialogue.log) :
    ((∀ answer ∈ (Dialogue.askAll commands dialogue).1, answer.IsReadable multiLine) →
      SpokenSince start (Dialogue.askAll commands dialogue).2.log) ∧
    ((∃ answer ∈ (Dialogue.askAll commands dialogue).1, ¬answer.IsReadable multiLine) →
      GarbledSince start (Dialogue.askAll commands dialogue).2.log) := by
  induction commands generalizing dialogue with
  | nil => exact ⟨fun _ => spoken, by simp [Dialogue.askAll]⟩
  | cons command commands inductionHypothesis =>
      have first := kind command List.mem_cons_self
      have kindRest : ∀ other ∈ commands, isMultiLine (utf8 other) = multiLine :=
        fun other member => kind other (List.mem_cons_of_mem _ member)
      by_cases readable : (dialogue.ask command).1.IsReadable multiLine
      · have spoken' := spoken_ask spoken (first.symm ▸ readable)
        obtain ⟨speaks, garbles⟩ := inductionHypothesis kindRest spoken'
        refine ⟨fun all => speaks (List.forall_mem_cons.mp all).2, fun unreadable => garbles ?_⟩
        exact (List.exists_mem_cons_iff _ _ _).mp unreadable |>.resolve_left (· readable)
      · refine ⟨fun all => absurd (List.forall_mem_cons.mp all).1 readable, fun _ => ?_⟩
        have plainFirst : (dialogue.ask command).1.IsPlain := plain _ _
        have noText : ¬(Event.answered (utf8 command)
            ((dialogue.ask command).1.encode (isMultiLine (utf8 command)))).IsText := by
          rw [first, Event.IsText, plainFirst.isUtf8_iff]
          exact readable
        have garbled : GarbledSince start (dialogue.ask command).2.log :=
          spoken.met List.mem_cons_self noText
        obtain ⟨events, same⟩ := askAll_log commands (dialogue.ask command).2
        change GarbledSince start (Dialogue.askAll commands (dialogue.ask command).2).2.log
        rw [same]
        exact garbled.append events

/-- Window by window, replies are taken up to the first that is not text. -/
theorem pipelined_ends
    (plain : ∀ (server : σ) command, (AnsweringServer.answer server command).2.IsPlain)
    {start : List Event}
    (windows : List (List UInt32))
    {client : Pop3Client σ}
    {dialogue : Dialogue σ}
    (inStep : InStep start client dialogue) :
    Ends start (finalState (pipelined
      (fun window => transportField.run (sendWindow "RETR ".toList window)) readRetrResponse
      windows client)) := by
  induction windows generalizing client dialogue with
  | nil => exact .inl ⟨dialogue, inStep⟩
  | cons window windows inductionHypothesis =>
      have kinds : ∀ command ∈ window.map (commandFor "RETR ".toList),
          isMultiLine (utf8 command) = true := by
        simpa using fun messageId _ => isMultiLine_retr messageId
      have sends : Gives (Serves calm) (clientMishaps calm) _ dialogue.view _ _ :=
        attempt_sendWindow_asks (by decide) isMultiLine_retr window dialogue
      have lengths := Dialogue.askAll_length (window.map (commandFor "RETR ".toList)) dialogue
      have plainAnswers := Dialogue.askAll_forall plain
        (window.map (commandFor "RETR ".toList)) dialogue
      obtain ⟨speaks, garbles⟩ := spoken_or_garbled_askAll plain kinds inStep.spoken
      rw [List.length_map] at lengths
      rw [clientMishaps_calm] at sends
      generalize Dialogue.askAll (window.map (commandFor "RETR ".toList)) dialogue = asked
        at lengths speaks garbles sends plainAnswers
      obtain ⟨sent, served⟩ := sends.of_none inStep.inSync
      have drains := drainWindow_follows (neverStuck_of_punctual rfl)
        (program_readRetrResponse.keeps calm) (readRetrResponse_follows calm) window
        { asked.2.view with pending := Dialogue.replies true asked.1 }
      rw [clientMishaps_calm] at drains
      obtain ⟨drained, served'⟩ := drains.of_none served
      rw [pipelined, bind_of_ok (eq_ok_of_returned sent)]
      dsimp only
      have pending : ({ asked.2.view with pending := Dialogue.replies true asked.1 } :
          View σ).pending = Dialogue.replies true asked.1 := rfl
      rcases drainWindow_octets plainAnswers lengths pending with
        readable | ⟨unreadable, items, left, stops, behind⟩
      · rw [drainWindow_view receives_retr readable lengths (List.append_nil _).symm]
          at drained served'
        have inStep' : InStep start _ asked.2 := ⟨served', speaks readable⟩
        rw [bind_of_ok (eq_ok_of_returned drained)]
        simp only [↓reduceIte]
        rw [finalState_bind_pure]
        exact inductionHypothesis inStep'
      · rw [stops] at drained served'
        rw [bind_of_ok (eq_ok_of_returned drained)]
        simp only [Bool.false_eq_true, ↓reduceIte]
        exact .inr ⟨_, served', rfl, rfl, behind, garbles unreadable⟩

/-! ## Calls -/

theorem retrMany_ends
    (plain : ∀ (server : σ) command, (AnsweringServer.answer server command).2.IsPlain)
    {start : List Event}
    (ids : List UInt32)
    {client : Pop3Client σ}
    {dialogue : Dialogue σ}
    (inStep : InStep start client dialogue) :
    Ends start (finalState (retrMany ids client)) := by
  have ends : Ends start client := .inl ⟨dialogue, inStep⟩
  rw [retrMany, many, requireAuth_bind inStep.inSync.authenticated]
  cases validateMessageIds ids with
  | error error => exact ends
  | ok _ =>
      rw [ofResult_ok_bind]
      split
      · exact ends
      · rw [gets_bind_apply]
        split
        · exact pipelined_ends plain _ inStep
        · exact preserves_sequentially (preserves_ends_retr plain start) ids client ends

/-- A batch of `DELE` has replies without bodies. -/
theorem deleMany_ends
    {start : List Event}
    (ids : List UInt32)
    {client : Pop3Client σ}
    {dialogue : Dialogue σ}
    (inStep : InStep start client dialogue) :
    Ends start (finalState (deleMany ids client)) := by
  have follows : Follows (InSync calm) (clientMishaps calm) (deleMany ids)
      (Partner.many (Partner.dele (Dialogue.partner : Partner (Dialogue σ))) ids) :=
    deleMany_follows rfl ids
  have speaks : Preserves (fun dialogue : Dialogue σ => SpokenSince start dialogue.log)
      (Partner.many (Partner.dele Dialogue.partner) ids) := by
    refine .bind (.ofResult _) fun _ => preserves_sequentially (fun messageId => ?_) ids
    refine .bind (.ofResult _) fun _ => .bind (fun before spoken => ?_) fun _ => .pure _
    change SpokenSince start (finalState (Dialogue.take _ _ before)).log
    rw [Dialogue.finalState_take]
    apply spoken_ask spoken
    rw [isMultiLine_dele]
    exact Answer.isReadable_single _
  rw [clientMishaps_calm] at follows
  obtain ⟨_, inSync⟩ := (follows dialogue).of_none inStep.inSync
  exact .inl ⟨_, inSync, speaks dialogue inStep.spoken⟩

/-- However a call of a client in step ends, the client is in step or behind. -/
theorem Call.ends [Md5]
    (plain : ∀ (server : σ) command, (AnsweringServer.answer server command).2.IsPlain)
    {start : List Event}
    {call : Call}
    (command : call.isCommand = true)
    {client : Pop3Client σ}
    {dialogue : Dialogue σ}
    (inStep : InStep start client dialogue) :
    Ends start (finalState (call.run client)) := by
  by_cases single : call.isSingle = true
  · exact ends_of_follows ((talks_octets plain start).perform call single) inStep
  · cases call with
    | retrMany ids =>
        rw [Call.run, finalState_bind_pure]
        exact retrMany_ends plain ids inStep
    | deleMany ids =>
        rw [Call.run, finalState_bind_pure]
        exact deleMany_ends ids inStep
    | _ => exact absurd command single

/-- When a call returns on a connection without faults, and no line of a body has a CR
or LF of its own, the connection is marked closed or nothing is unread, exactly when all
that was replied to the call is text. -/
theorem consumed_iff_isUtf8 [Md5]
    (plain : ∀ (server : σ) command, (AnsweringServer.answer server command).2.IsPlain)
    {client : Pop3Client σ}
    {dialogue : Dialogue σ}
    (inSync : InSync calm client dialogue)
    {call : Call}
    (command : call.isCommand = true) :
    ∃ events, (finalState (call.run client)).noted = client.noted ++ events ∧
      ((finalState (call.run client)).transport.isClosed = true ∨
          (finalState (call.run client)).transport.pending = [] ↔
        ∀ command reply, .answered command reply ∈ events → IsUtf8 reply) := by
  have start : client.noted = dialogue.log := inSync.shows.log
  have inStep : InStep client.noted client dialogue :=
    ⟨inSync, start ▸ spokenSince_self dialogue.log⟩
  rcases Call.ends plain command inStep with
    ⟨last, inSync', events, same, isText⟩ | ⟨view, served, trails⟩
  · refine ⟨events, inSync'.shows.log.trans same, fun _ command reply => isText _, fun _ => ?_⟩
    exact .inr inSync'.shows.pending
  · obtain ⟨events, same, event, member, noText⟩ := trails.garbled
    refine ⟨events, served.shows.log.trans same, fun either => ?_, fun isText => ?_⟩
    · rcases either with closed | nothing
      · rw [served.shows.isClosed, trails.isClosed] at closed
        cases closed
      · exact absurd (served.shows.pending.symm.trans nothing) trails.backlog.ne_nil
    · cases event with
      | answered command reply => exact absurd (isText command reply member) noText
      | _ => exact absurd trivial noText

end Clients

/-- A message with a letter in Latin-1. -/
def latinMessage : SameAnswer where
  answer :=
    { isPositive := true
      text := .blank
      body := [⟨[99, 97, 102, 233], by decide⟩] }

/-- A message in Latin-1 is not consumed. -/
theorem exists_reply_not_consumed :
    ¬∀ (client : Pop3Client SameAnswer) (dialogue : Dialogue SameAnswer),
      InSync calm client dialogue → ∀ call : Call, call.isCommand = true →
        (finalState (@Call.run _ _ emptyDigest call client)).transport.isClosed = true ∨
          (finalState (@Call.run _ _ emptyDigest call client)).transport.pending = [] := by
  intro always
  have consumed := always (.idle latinMessage [] false) _
    (inSync_idle (by simp) latinMessage false) (.retr 1) rfl
  revert consumed
  decide +kernel

theorem consumed_iff_isUtf8_latinMessage :
    ∃ events, (finalState (@Call.run _ _ emptyDigest (.retr 1)
        (.idle latinMessage [] false))).noted = [] ++ events ∧
      ((finalState (@Call.run _ _ emptyDigest (.retr 1)
            (.idle latinMessage [] false))).transport.isClosed = true ∨
          (finalState (@Call.run _ _ emptyDigest (.retr 1)
            (.idle latinMessage [] false))).transport.pending = [] ↔
        ∀ command reply, .answered command reply ∈ events → IsUtf8 reply) :=
  @consumed_iff_isUtf8 _ _ emptyDigest (fun server _ => server.plain) _ _
    (inSync_idle (by simp) latinMessage false) (.retr 1) rfl

end Pop3
