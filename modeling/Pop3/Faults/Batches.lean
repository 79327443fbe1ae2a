import Pop3.Agreement.Modes
import Pop3.Faults.Stopping

/-!
# Pipelined batches under faults

Wherever a write or a read fails, a pipelined batch returns one result for each id:
those of the replies it has read, and transport errors from there on.  It stops
right at the failure, and never has more than one window of commands in flight.
-/

namespace Pop3

open Rust Framing Pop3Client

/-! ## Servers that reply -/

section Replying

variable [Server σ] {multiLine : Bool}

/-- The server stays connected and replies to each of the commands with one of these
replies. -/
def RepliesWith (isReply : List UInt8 → Prop) : List (List UInt8) → List Str → σ → Prop
  | [], [], _ => True
  | reply :: replies, command :: commands, server =>
      isReply reply ∧
        (Server.respond server (utf8 command)).2 = { bytes := reply } ∧
        RepliesWith isReply replies commands (Server.respond server (utf8 command)).1
  | _, _, _ => False

theorem RepliesWith.imp
    {isReply other : List UInt8 → Prop}
    {replies : List (List UInt8)}
    {commands : List Str}
    {server : σ}
    (repliesWith : RepliesWith isReply replies commands server)
    (imp : ∀ reply ∈ replies, other reply) :
    RepliesWith other replies commands server := by
  induction replies generalizing commands server with
  | nil =>
      cases commands with
      | nil => trivial
      | cons command commands => exact repliesWith.elim
  | cons reply replies inductionHypothesis =>
      cases commands with
      | nil => exact repliesWith.elim
      | cons command commands =>
          obtain ⟨_, responds, more⟩ := repliesWith
          obtain ⟨first, rest⟩ := List.forall_mem_cons.mp imp
          exact ⟨first, responds, inductionHypothesis more rest⟩

/-- The server hears some commands, and has sent their replies. -/
theorem RepliesWith.hearAll
    {replies : List (List UInt8)}
    {first second : List Str}
    {view : View σ}
    (repliesWith : RepliesWith (IsSeenReply multiLine) replies (first ++ second) view.server)
    (isOpen : view.isOpen = true) :
    ∃ now later, replies = now ++ later ∧ now.length = first.length ∧
      (∀ reply ∈ now, IsSeenReply multiLine reply) ∧
      (view.hearAll first).pending = view.pending ++ now.flatten ∧
      (view.hearAll first).isOpen = true ∧
      RepliesWith (IsSeenReply multiLine) later second (view.hearAll first).server := by
  induction first generalizing replies view with
  | nil => exact ⟨[], replies, rfl, rfl, by simp, (List.append_nil _).symm, isOpen, repliesWith⟩
  | cons command first inductionHypothesis =>
      cases replies with
      | nil => exact repliesWith.elim
      | cons reply replies =>
          obtain ⟨whole, responds, more⟩ := repliesWith
          have heard : view.hear command =
              { view with
                server := (Server.respond view.server (utf8 command)).1
                pending := view.pending ++ reply
                log := view.log ++ [.answered (utf8 command) reply] } := by
            simp [View.hear, isOpen, responds]
          have more' : RepliesWith (IsSeenReply multiLine) replies (first ++ second)
              (view.hear command).server := by
            rw [heard]
            exact more
          obtain ⟨now, later, rfl, lengths, wholes, pending, isOpen', rest⟩ :=
            inductionHypothesis more' (by rw [heard]; exact isOpen)
          refine ⟨reply :: now, later, rfl, congrArg Nat.succ lengths,
            List.forall_mem_cons.mpr ⟨whole, wholes⟩, ?_, isOpen', rest⟩
          refine pending.trans ?_
          rw [heard]
          simp

end Replying

/-! ## Moments -/

/-- How many command lines have been written to the end. -/
def commandsWritten (events : List Event) : Nat := (writtenBytes events).count 10

/-- At this moment all but a window of the commands that were written have had their
replies read to the end. -/
def WithinWindow (replies : List (List UInt8)) (moment : List Event) : Prop :=
  ∃ count, (replies.take count).flatten <+: consumedBytes moment ∧
    commandsWritten moment ≤ count + pipelineWindow

theorem count_commandLines
    {verb : Str}
    (noFeed : '\n' ∉ verb)
    (window : List UInt32) :
    (commandLines (window.map (commandFor verb))).count 10 = window.length := by
  induction window with
  | nil => rfl
  | cons messageId window inductionHypothesis =>
      have absent : (utf8 (commandFor verb messageId)).count 10 = 0 :=
        List.count_eq_zero.mpr fun member =>
          noFeed_commandFor noFeed messageId ((feed_mem_utf8 _).mp member)
      rw [commandLines] at inductionHypothesis
      rw [commandLines, List.map_cons, List.flatMap_cons, List.count_append, List.count_append,
        absent, inductionHypothesis]
      simp
      omega

theorem commandsWritten_append (first second : List Event) :
    commandsWritten (first ++ second) = commandsWritten first + commandsWritten second := by
  rw [commandsWritten, writtenBytes_append, List.count_append]
  rfl

/-- It has been so at every moment. -/
def KeepsWindow (replies : List (List UInt8)) (events : List Event) : Prop :=
  ∀ moment, moment <+: events → WithinWindow replies moment

/-- While no more than a window is written behind the replies that were read, the
window is kept. -/
theorem KeepsWindow.append
    {done later : List (List UInt8)}
    {events more : List Event}
    (keeps : KeepsWindow (done ++ later) events)
    (read : consumedBytes events = done.flatten)
    (written : commandsWritten (events ++ more) ≤ done.length + pipelineWindow) :
    KeepsWindow (done ++ later) (events ++ more) := by
  intro moment begins
  rcases List.prefix_or_prefix_of_prefix begins (List.prefix_append events more) with
    early | ⟨between, rfl⟩
  · exact keeps moment early
  · obtain ⟨behind, same⟩ := begins
    refine ⟨done.length, ?_, ?_⟩
    · rw [List.take_left, consumedBytes_append, read]
      exact List.prefix_append _ _
    · rw [← same, commandsWritten_append] at written
      omega

/-! ## The two phases of a window -/

section Phases

variable [Server σ] {multiLine : Bool} {receive : ClientM σ α}
  {ideal : Action Pop3Error (View σ) α} {result : List UInt8 → Except Pop3Error α}
  {start : List Event} {all : List UInt8} {client : Pop3Client σ} {view : View σ}

/-- Whatever fails, a send phase consumes nothing and writes a beginning of its
commands. -/
theorem sendWindow_writes
    (unflushed : client.transport.unflushed = [])
    (verb : Str)
    (window : List UInt32) :
    ∃ sent, (finalState (sendWindow verb window client.transport)).net.trace =
        client.transport.net.trace ++ sent ∧
      consumedBytes sent = [] ∧
      ∃ part, part <+: commandLines (window.map (commandFor verb)) ∧
        writtenBytes sent ++ (finalState (sendWindow verb window client.transport)).unflushed =
          part ∧
        (returned (sendWindow verb window client.transport) = .ok () →
          part = commandLines (window.map (commandFor verb))) := by
  have grows : Lasting (fun _ _ => True) fun trace => client.transport.net.trace <+: trace :=
    lasting_begins _
  have grown := (grows.survivesWrites.sendWindow verb window client.transport
    ⟨trivial, List.prefix_rfl⟩).trace
  have consumed : consumedBytes (finalState (sendWindow verb window client.transport)).net.trace =
      consumedBytes client.transport.net.trace :=
    (survivesWrites_consumed _).sendWindow verb window client.transport rfl
  obtain ⟨part, begins, handed, whole⟩ :=
    Transport.hands_sendWindow verb window client.transport
  obtain ⟨sent, same⟩ := grown
  refine ⟨sent, same.symm, ?_, part, begins, ?_, whole ()⟩
  · rw [← same, consumedBytes_append] at consumed
    exact List.append_right_eq_self.mp consumed
  · rw [Transport.handed, Transport.handed, ← same, writtenBytes_append, unflushed,
      List.append_nil, List.append_assoc] at handed
    exact List.append_cancel_left handed

/-- A reader of replies that says when it fails. -/
structure ReadsReplies (multiLine : Bool) (receive : ClientM σ α)
    (ideal : Action Pop3Error (View σ) α) (result : List UInt8 → Except Pop3Error α) :
    Prop where
  takes : TakesReplies multiLine ideal result
  follows : ∀ start all, Follows (fun client => Flows start all client.transport)
    (clientFaults start) receive ideal
  program : Program True receive
  silent : ∀ handed, Preserves (fun client => client.transport.handed = handed) receive
  halts : HaltsAtFault receive

/-- A reply is taken off the stream, or the reader fails. -/
theorem ReadsReplies.reads
    (reader : ReadsReplies multiLine receive ideal result)
    (flows : Flows start all client.transport view)
    {reply rest : List UInt8}
    (pending : view.pending = reply ++ rest)
    (whole : IsSeenReply multiLine reply)
    (clean : ¬Torn start (finalState (receive client)).transport) :
    (returned (receive client) = result reply ∧
      Flows start all (finalState (receive client)).transport { view with pending := rest }) ∨
    ∃ error, returned (receive client) = .error error ∧ isIoLevel error = true := by
  rcases reader.follows start all view client flows with ⟨same, flows'⟩ | stuck | torn
  · by_cases isText : IsUtf8 reply
    · obtain ⟨returns, after⟩ := reader.takes.text reply whole isText view rest pending
      rw [returns] at same
      rw [after] at flows'
      exact .inl ⟨same, flows'⟩
    · rw [reader.takes.octets reply whole isText view rest pending] at same
      exact .inr ⟨_, same, rfl⟩
  · exact .inr stuck
  · exact absurd torn clean

/-- A receive phase takes the replies of its window, or those up to a read that fails. -/
theorem ReadsReplies.drains
    (reader : ReadsReplies multiLine receive ideal result)
    {window : List UInt32}
    {replies : List (List UInt8)}
    (whole : ∀ reply ∈ replies, IsSeenReply multiLine reply)
    (lengths : replies.length = window.length)
    (flows : Flows start all client.transport view)
    (pending : view.pending = replies.flatten)
    (clean : ¬Torn start (finalState (drainWindow receive window client)).transport) :
    (returned (drainWindow receive window client) = .ok (replies.map result, true) ∧
      Flows start all (finalState (drainWindow receive window client)).transport
        { view with pending := [] } ∧
      RunsThrough client.transport (finalState (drainWindow receive window client)).transport) ∨
    ∃ count < replies.length,
      returned (drainWindow receive window client) =
        .ok ((replies.take count).map result, false) ∧
      StopsAtFault client.transport
        (finalState (drainWindow receive window client)).transport := by
  induction window generalizing replies client view with
  | nil =>
      have nothing : replies = [] := List.length_eq_zero_iff.mp lengths
      subst nothing
      have same : view.pending = [] := pending
      refine .inl ⟨rfl, ?_, .refl⟩
      rw [← same]
      exact flows
  | cons messageId window inductionHypothesis =>
      obtain ⟨reply, replies, rfl⟩ := List.exists_cons_of_length_eq_add_one lengths
      obtain ⟨wholeFirst, whole⟩ := List.forall_mem_cons.mp whole
      have tears : Preserves (fun client : Pop3Client σ => Torn start client.transport)
          (drainWindow receive window) :=
        Program.preserves (survivesSteps_torn start)
          (program_drainWindow trivial reader.program window)
      by_cases fails : ∃ error, returned (receive client) = .error error ∧ isIoLevel error = true
      · obtain ⟨error, failed, ioLevel⟩ := fails
        rw [drainWindow_stops failed ioLevel]
        rcases reader.halts client with ⟨_, final⟩ | ⟨stops, _⟩
        · rw [final error failed] at ioLevel
          cases ioLevel
        · exact .inr ⟨0, Nat.succ_pos _, rfl, stops⟩
      · have goesOn : ∀ error, returned (receive client) = .error error →
            isIoLevel error = false :=
          fun error failed => Bool.eq_false_iff.mpr fun ioLevel => fails ⟨error, failed, ioLevel⟩
        have first : RunsThrough client.transport (finalState (receive client)).transport := by
          rcases reader.halts client with ⟨through, _⟩ | ⟨_, failed⟩
          · exact through
          · exact absurd failed fails
        rw [drainWindow_goesOn rfl goesOn, finalState_bind_pure] at clean
        rw [drainWindow_goesOn rfl goesOn, finalState_bind_pure, returned_bind_pure]
        rcases reader.reads flows pending wholeFirst (fun torn => clean (tears _ torn)) with
          ⟨same, flows'⟩ | failed
        · rw [same]
          rcases inductionHypothesis whole (Nat.succ.inj lengths) flows' rfl clean with
            ⟨drained, left, further⟩ | ⟨count, fewer, drained, stops⟩
          · rw [drained]
            exact .inl ⟨rfl, left, first.trans further⟩
          · rw [drained]
            exact .inr ⟨count + 1, Nat.succ_lt_succ fewer, rfl, stops.behind first⟩
        · exact absurd failed fails

/-- A receive phase writes nothing. -/
theorem ReadsReplies.drainWindow_writes
    (reader : ReadsReplies multiLine receive ideal result)
    (unflushed : client.transport.unflushed = [])
    (window : List UInt32) :
    ∃ drained, (finalState (drainWindow receive window client)).transport.net.trace =
        client.transport.net.trace ++ drained ∧
      writtenBytes drained = [] := by
  have grows : Lasting (fun _ _ => True) fun trace => client.transport.net.trace <+: trace :=
    lasting_begins _
  have steps : SurvivesSteps (Observed _ _ : Transport σ → Prop) := grows.steps
  obtain ⟨drained, same⟩ := (Program.preserves steps
    (program_drainWindow trivial reader.program window) client ⟨trivial, List.prefix_rfl⟩).trace
  have handed := preserves_drainWindow (reader.silent client.transport.handed) window client rfl
  refine ⟨drained, same.symm, ?_⟩
  rw [Transport.handed, Transport.handed, ← same, writtenBytes_append, unflushed,
    List.append_nil, List.append_assoc] at handed
  exact (List.append_eq_nil_iff.mp (List.append_right_eq_self.mp handed)).1

end Phases

/-! ## Whole batches -/

/-- The batch has one item for each command: what the replies say, as many of them as
were read, and transport errors behind them.  If there are none, nothing has failed;
otherwise nothing failed up to the fault with which the batch has stopped. -/
def Accounts [Server σ] (result : List UInt8 → Except Pop3Error α)
    (replies : List (List UInt8)) (commands : Nat) (client : Pop3Client σ)
    (outcome : EStateM.Result Pop3Error (Pop3Client σ) (Items α)) : Prop :=
  ∃ items count failures, returned outcome = .ok items ∧ items.length = commands ∧
    count ≤ replies.length ∧ items = (replies.take count).map result ++ failures ∧
    (∀ failure ∈ failures, ∃ error, failure = .error error ∧ isIoLevel error = true) ∧
    (failures = [] ∧ RunsThrough client.transport (finalState outcome).transport ∨
      StopsAtFault client.transport (finalState outcome).transport)

/-- Since the observation a beginning of the command lines was written, never more than
a window behind the replies. -/
def Paced (start : List Event) (replies : List (List UInt8)) (commands : List Str)
    (transport : Transport σ) : Prop :=
  ∃ events, transport.net.trace = start ++ events ∧
    writtenBytes events <+: commandLines commands ∧ KeepsWindow replies events

section Whole

variable [Server σ] {multiLine : Bool} {receive : ClientM σ α}
  {ideal : Action Pop3Error (View σ) α} {result : List UInt8 → Except Pop3Error α}
  {start : List Event} {client : Pop3Client σ} {view : View σ} {verb : Str}

/-- Between two windows: the replies to what was asked have been read, and nothing
else is on its way. -/
structure Paused (start : List Event) (verb : Str) (done later : List (List UInt8))
    (asked : List UInt32) (transport : Transport σ) (view : View σ) : Prop where
  flows : Flows start done.flatten transport view
  nothing : view.pending = []
  lengths : done.length = asked.length
  paced : ∃ events, transport.net.trace = start ++ events ∧
    consumedBytes events = done.flatten ∧
    writtenBytes events = commandLines (asked.map (commandFor verb)) ∧
    KeepsWindow (done ++ later) events

theorem fillUp_ioLevel {error : Pop3Error} (ioLevel : isIoLevel error = true) (missing : Nat) :
    ∀ failure ∈ (fillUp missing error : Items α),
      ∃ error, failure = .error error ∧ isIoLevel error = true :=
  fun _ member => ⟨error, List.eq_of_mem_replicate member, ioLevel⟩

omit [Server σ] in
/-- What is written behind a pause keeps the window, up to one window. -/
theorem Paused.keepsWindow
    {done later : List (List UInt8)}
    {asked window : List UInt32}
    {transport : Transport σ}
    (noFeed : '\n' ∉ verb)
    (paused : Paused start verb done later asked transport view)
    (fits : window.length ≤ pipelineWindow)
    {more : List Event}
    (written : writtenBytes more <+: commandLines (window.map (commandFor verb))) :
    ∃ events, transport.net.trace = start ++ events ∧ consumedBytes events = done.flatten ∧
      writtenBytes events = commandLines (asked.map (commandFor verb)) ∧
      KeepsWindow (done ++ later) (events ++ more) := by
  obtain ⟨events, same, consumed, wrote, keeps⟩ := paused.paced
  refine ⟨events, same, consumed, wrote, keeps.append consumed ?_⟩
  have before : commandsWritten events = done.length := by
    rw [commandsWritten, wrote, count_commandLines noFeed, paused.lengths]
  have now : commandsWritten more ≤ window.length := by
    rw [← count_commandLines noFeed window]
    exact written.sublist.count_le 10
  rw [commandsWritten_append, before]
  omega

omit [Server σ] in
theorem Paused.paced_append
    {done later : List (List UInt8)}
    {asked window rest : List UInt32}
    {transport after : Transport σ}
    (noFeed : '\n' ∉ verb)
    (paused : Paused start verb done later asked transport view)
    (fits : window.length ≤ pipelineWindow)
    {more : List Event}
    (trace : after.net.trace = transport.net.trace ++ more)
    (written : writtenBytes more <+: commandLines (window.map (commandFor verb))) :
    Paced start (done ++ later) ((asked ++ (window ++ rest)).map (commandFor verb)) after := by
  obtain ⟨events, same, _, wrote, keeps⟩ := paused.keepsWindow noFeed fits written
  refine ⟨events ++ more, by rw [trace, same, List.append_assoc], ?_, keeps⟩
  rw [writtenBytes_append, wrote, List.map_append, commandLines_append, List.map_append,
    commandLines_append]
  exact (List.prefix_append_right_inj _).mpr (written.trans (List.prefix_append _ _))

/-- A window that is sent behind a pause has its replies on their way. -/
theorem Paused.sent
    {done later : List (List UInt8)}
    {asked window rest : List UInt32}
    (noFeed : '\n' ∉ verb)
    (paused : Paused start verb done later asked client.transport view)
    (repliesWith : RepliesWith (IsSeenReply multiLine) later ((window ++ rest).map (commandFor verb))
      view.server)
    {middle : Transport σ}
    (run : sendWindow verb window client.transport = .ok () middle) :
    ∃ now next view', later = now ++ next ∧ now.length = window.length ∧
      (∀ reply ∈ now, IsSeenReply multiLine reply) ∧
      Flows start (done ++ now).flatten middle view' ∧ view'.pending = now.flatten ∧
      RepliesWith (IsSeenReply multiLine) next (rest.map (commandFor verb)) view'.server ∧
      ∃ more, middle.net.trace = client.transport.net.trace ++ more ∧ consumedBytes more = [] ∧
        writtenBytes more = commandLines (window.map (commandFor verb)) := by
  have shows := paused.flows.shows
  obtain ⟨sent, trace, nothingRead, part, _, left, whole⟩ :=
    sendWindow_writes shows.unflushed verb window
  rw [run] at trace left whole
  rcases writes_window verb window client.transport shows.stream shows.writes with
    ⟨other, same, wrote, flushed⟩ | ⟨_, error, other, same, _⟩
  · rw [run] at same
    cases same
    rw [List.map_append] at repliesWith
    obtain ⟨now, next, rfl, lengths, wholes, pending, isOpen, more⟩ :=
      repliesWith.hearAll paused.flows.isOpen
    rw [List.length_map] at lengths
    rw [paused.nothing, List.nil_append] at pending
    obtain ⟨events, start_eq, consumed, _, _⟩ := paused.paced
    have shown := shows.heardWindow noFeed wrote flushed
    refine ⟨now, next, _, rfl, lengths, wholes, ⟨shown, isOpen, events ++ sent, ?_, ?_⟩, pending,
      more, sent, trace, nothingRead, ?_⟩
    · rw [← List.append_assoc, ← start_eq]
      exact trace
    · rw [consumedBytes_append, consumed, nothingRead, List.append_nil, shown.pending, pending,
        List.flatten_append]
    · rw [finalState_ok, flushed, List.append_nil] at left
      exact left.trans (whole rfl)
  · rw [run] at same
    cases same

omit [Server σ] in
/-- A window whose replies have been drained leads to the next pause. -/
theorem Paused.drained
    {done now next : List (List UInt8)}
    {asked window : List UInt32}
    {transport after : Transport σ}
    {view' : View σ}
    (noFeed : '\n' ∉ verb)
    (paused : Paused start verb done (now ++ next) asked transport view)
    (lengths : now.length = window.length)
    (fits : window.length ≤ pipelineWindow)
    {more : List Event}
    (trace : after.net.trace = transport.net.trace ++ more)
    (written : writtenBytes more = commandLines (window.map (commandFor verb)))
    (flows : Flows start (done ++ now).flatten after view')
    (nothing : view'.pending = []) :
    Paused start verb (done ++ now) next (asked ++ window) after view' := by
  obtain ⟨events, same, _, wrote, keeps⟩ :=
    paused.keepsWindow noFeed fits ⟨[], by rw [List.append_nil, written]⟩
  have trace' : after.net.trace = start ++ (events ++ more) := by
    rw [trace, same, List.append_assoc]
  obtain ⟨others, since, all⟩ := flows.since
  have events_eq : others = events ++ more := List.append_cancel_left (since.symm.trans trace')
  rw [flows.shows.pending, nothing, List.append_nil, events_eq] at all
  refine ⟨flows, nothing, by simp [lengths, paused.lengths], events ++ more, trace', all, ?_, ?_⟩
  · rw [writtenBytes_append, wrote, written, List.map_append, commandLines_append]
  · rw [List.append_assoc]
    exact keeps

/-- The pipelined batch of a verb. -/
abbrev pipelinedBatch (verb : Str) (receive : ClientM σ α) (windows : List (List UInt32)) :
    ClientM σ (Items α) :=
  pipelined (fun window => transportField.run (sendWindow verb window)) receive windows

theorem Accounts.behind
    {now later : List (List UInt8)}
    {asked rest : Nat}
    {batch : ClientM σ (Items α)}
    {before : Pop3Client σ}
    (accounts : Accounts result later rest client (batch client))
    (through : RunsThrough before.transport client.transport)
    (lengths : now.length = asked) :
    Accounts result (now ++ later) (asked + rest) before
      ((do return now.map result ++ (← batch) : ClientM σ (Items α)) client) := by
  obtain ⟨items, count, failures, returns, total, answered, same, ioLevel, reason⟩ := accounts
  refine ⟨now.map result ++ items, now.length + count, failures, ?_, ?_, ?_, ?_, ioLevel, ?_⟩
  · rw [returned_bind_pure, returns]
    rfl
  · rw [List.length_append, List.length_map, lengths, total]
  · rw [List.length_append]
    omega
  · rw [List.take_length_add_append, List.map_append, same, List.append_assoc]
  · rw [finalState_bind_pure]
    exact reason.imp (fun all => ⟨all.1, through.trans all.2⟩) fun stops => stops.behind through

/-- What is torn behind a receive phase is torn at the end. -/
theorem ReadsReplies.torn_behind
    (reader : ReadsReplies multiLine receive ideal result)
    {window : List UInt32}
    {middle : Pop3Client σ}
    (sends : transportField.run (sendWindow verb window) client = .ok () middle)
    (torn : Torn start (finalState (drainWindow receive window middle)).transport)
    (windows : List (List UInt32)) :
    Torn start (finalState (pipelinedBatch verb receive (window :: windows) client)).transport := by
  obtain ⟨⟨results, alive⟩, run⟩ := drainWindow_isOk receive window middle
  cases alive with
  | false =>
      rw [pipelinedBatch, pipelined_of_cut sends (eq_ok_of_returned run)]
      exact torn
  | true =>
      rw [pipelinedBatch, pipelined_of_drained sends (eq_ok_of_returned run),
        finalState_bind_pure]
      exact Program.preserves (survivesSteps_torn start)
        (program_pipelined trivial verb reader.program windows) _ torn

/-- Whatever fails in a batch that tears no line, its results account for all its
commands, and it keeps the pace. -/
theorem pipelined_withstands
    (reader : ReadsReplies multiLine receive ideal result)
    (noFeed : '\n' ∉ verb)
    {windows : List (List UInt32)}
    (fits : ∀ window ∈ windows, window.length ≤ pipelineWindow)
    {done later : List (List UInt8)}
    {asked : List UInt32}
    (paused : Paused start verb done later asked client.transport view)
    (repliesWith : RepliesWith (IsSeenReply multiLine) later (windows.flatten.map (commandFor verb)) view.server)
    (clean : ¬Torn start (finalState (pipelinedBatch verb receive windows client)).transport) :
    Accounts result later windows.flatten.length client
      (pipelinedBatch verb receive windows client) ∧
    Paced start (done ++ later) ((asked ++ windows.flatten).map (commandFor verb))
      (finalState (pipelinedBatch verb receive windows client)).transport := by
  induction windows generalizing done later asked client view with
  | nil =>
      cases later with
      | cons reply later => exact repliesWith.elim
      | nil =>
          refine ⟨⟨[], 0, [], rfl, rfl, le_refl 0, rfl, by simp, .inl ⟨rfl, .refl⟩⟩, ?_⟩
          have nothing : writtenBytes [] <+: commandLines ([].map (commandFor verb)) :=
            List.prefix_rfl
          exact paused.paced_append noFeed (Nat.zero_le _) (List.append_nil _).symm nothing
  | cons window windows inductionHypothesis =>
      have unflushed := paused.flows.shows.unflushed
      have small := fits window List.mem_cons_self
      cases run : sendWindow verb window client.transport with
      | error error middle =>
          obtain ⟨sent, trace, _, part, begins, left, _⟩ := sendWindow_writes unflushed verb window
          rw [run, finalState_error] at trace left
          have written : writtenBytes sent <+: commandLines (window.map (commandFor verb)) :=
            (left ▸ List.prefix_append _ _ : writtenBytes sent <+: part).trans begins
          have ends : pipelinedBatch verb receive (window :: windows) client =
              .ok (fillUp (window :: windows).flatten.length (.io error))
                { client with transport := middle } :=
            pipelined_of_unsent (Field.run_of_error run) receive windows
          rw [ends]
          refine ⟨⟨_, 0, _, rfl, List.length_replicate, Nat.zero_le _, rfl, fillUp_ioLevel rfl _,
            .inr (sendWindow_uses.2 error middle run)⟩, ?_⟩
          exact paused.paced_append noFeed small trace written
      | ok _ middle =>
          obtain ⟨now, next, view', rfl, lengths, wholes, flows, pending, more, sent, trace, _,
            written⟩ := paused.sent noFeed repliesWith run
          have sends : transportField.run (sendWindow verb window) client =
              .ok () { client with transport := middle } := Field.run_of_ok run
          have through : RunsThrough client.transport middle := sendWindow_uses.1 middle run
          let inside : Pop3Client σ := { client with transport := middle }
          have unflushed' : inside.transport.unflushed = [] := flows.shows.unflushed
          obtain ⟨drained, grown, silent⟩ := reader.drainWindow_writes unflushed' window
          generalize finals : finalState (drainWindow receive window inside) = after at grown
          have trace' : after.transport.net.trace =
              client.transport.net.trace ++ (sent ++ drained) := by
            rw [grown, ← List.append_assoc, ← trace]
          have written' : writtenBytes (sent ++ drained) =
              commandLines (window.map (commandFor verb)) := by
            rw [writtenBytes_append, silent, List.append_nil, written]
          rcases reader.drains wholes lengths flows pending
              (fun torn => clean (reader.torn_behind sends torn windows)) with
            ⟨isWhole, flows', further⟩ | ⟨count, fewer, cut, stops⟩
          · have run' := eq_ok_of_returned isWhole
            rw [finals] at run' flows' further
            have continues : pipelinedBatch verb receive (window :: windows) client = _ :=
              pipelined_of_drained sends run' windows
            rw [continues, finalState_bind_pure] at clean
            have paused' := paused.drained noFeed lengths small trace' written' flows' rfl
            obtain ⟨accounts, paced⟩ := inductionHypothesis
              (fun other member => fits other (List.mem_cons_of_mem _ member)) paused' more clean
            rw [continues, finalState_bind_pure, List.flatten_cons, List.length_append,
              ← List.append_assoc, ← List.append_assoc]
            exact ⟨accounts.behind (through.trans further) lengths, paced⟩
          · have run' := eq_ok_of_returned cut
            rw [finals] at run' stops
            have ends : pipelinedBatch verb receive (window :: windows) client = _ :=
              pipelined_of_cut sends run' windows
            rw [ends]
            refine ⟨⟨_, count, fillUp ((window :: windows).flatten.length -
              ((now.take count).map result).length) .connectionClosed, rfl, ?_, ?_, ?_,
              fillUp_ioLevel rfl _, .inr (stops.behind through)⟩, ?_⟩
            · simp only [List.length_append, List.length_map, fillUp, List.length_replicate,
                List.length_take, List.flatten_cons]
              omega
            · rw [List.length_append]
              omega
            · rw [List.take_append_of_le_length fewer.le]
            · exact paused.paced_append noFeed small trace'
                ⟨[], by rw [List.append_nil, written']⟩

end Whole

/-! ## The two batches -/

section Both

variable [Server σ]

theorem readsReplies_dele :
    ReadsReplies false (readDeleResponse : ClientM σ Unit) View.readDeleResponse deleReply where
  takes := takesReplies_dele
  follows := readDeleResponse_flows
  program := program_readDeleResponse
  silent handed := .bind (silent_readLine handed) fun _ => .bind (.ofResult _) fun _ => .pure _
  halts := HaltsAtFault.bind .readLine fun line => .bind (.status line) fun _ => .pure _

theorem readsReplies_retr :
    ReadsReplies true (readRetrResponse : ClientM σ Message) View.readRetrResponse retrReply where
  takes := takesReplies_retr
  follows := readRetrResponse_flows
  program := program_readRetrResponse
  silent handed := .bind (silent_readLine handed) fun _ => .bind (.ofResult _) fun _ =>
    .bind (silent_readBody handed) fun _ => .pure _
  halts := HaltsAtFault.bind .readLine fun line => .bind (.status line) fun _ =>
    .bind .readBody fun _ => .pure _

/-- What a batch comes to, whatever has failed: its items account for all ids, and at
every moment a window of commands at most was without its replies. -/
structure Withstands (result : List UInt8 → Except Pop3Error α) (replies : List (List UInt8))
    (commands : List Str) (client : Pop3Client σ)
    (outcome : EStateM.Result Pop3Error (Pop3Client σ) (Items α)) : Prop where
  accounts : Accounts result replies commands.length client outcome
  paced : Paced client.transport.net.trace replies commands (finalState outcome).transport

theorem pipelinedBatch_withstands
    {multiLine : Bool}
    {verb : Str}
    {receive : ClientM σ α}
    {ideal : Action Pop3Error (View σ) α}
    {result : List UInt8 → Except Pop3Error α}
    (reader : ReadsReplies multiLine receive ideal result)
    (noFeed : '\n' ∉ verb)
    {client : Pop3Client σ}
    (ready : Ready stormy client.transport)
    (isOpen : client.transport.net.isOpen = true)
    (nothing : client.transport.pending = [])
    {ids : List UInt32}
    {replies : List (List UInt8)}
    (repliesWith : RepliesWith (IsSeenReply multiLine) replies (ids.map (commandFor verb))
      client.transport.net.server)
    (clean : ¬Torn client.transport.net.trace (finalState (pipelinedBatch verb receive
      (chunks pipelineWindow ids) client)).transport) :
    Withstands result replies (ids.map (commandFor verb)) client
      (pipelinedBatch verb receive (chunks pipelineWindow ids) client) := by
  have window_nil : KeepsWindow ([] ++ replies) [] := by
    intro moment begins
    rw [List.prefix_nil.mp begins]
    exact ⟨0, List.nil_prefix, Nat.zero_le _⟩
  have paused : Paused client.transport.net.trace verb [] replies [] client.transport
      client.transport.view :=
    { flows := ⟨ready.shows, isOpen, [], (List.append_nil _).symm, nothing⟩
      nothing
      lengths := rfl
      paced := ⟨[], (List.append_nil _).symm, rfl, rfl, window_nil⟩ }
  obtain ⟨accounts, paced⟩ := pipelined_withstands reader noFeed
    (fun window member => chunks_small member) paused
    (by rw [chunks_flatten]; exact repliesWith) clean
  rw [chunks_flatten] at accounts paced
  exact ⟨by rw [List.length_map]; exact accounts, paced⟩

/-- Wherever a write, a flush or a read fails, a batch of `RETR` or `DELE` that takes no
torn line withstands it, as long as bare LFs do no harm in the replies, and never has more
results than commands. -/
theorem batches_withstand_faults
    {client : Pop3Client σ}
    (ready : Ready stormy client.transport)
    (isOpen : client.transport.net.isOpen = true)
    (nothing : client.transport.pending = [])
    (ids : List UInt32) :
    (∀ replies, RepliesWith (IsWholeReply true) replies (ids.map (commandFor "RETR ".toList))
        client.transport.net.server →
      (∀ reply ∈ replies, IsClearReply true reply) →
      ¬Torn client.transport.net.trace (finalState (retrManyPipelined ids client)).transport →
        Withstands retrReply replies (ids.map (commandFor "RETR ".toList)) client
          (retrManyPipelined ids client)) ∧
    (∀ replies, RepliesWith (IsWholeReply false) replies (ids.map (commandFor "DELE ".toList))
        client.transport.net.server →
      (∀ reply ∈ replies, IsClearReply false reply) →
      ¬Torn client.transport.net.trace (finalState (deleManyPipelined ids client)).transport →
        Withstands deleReply replies (ids.map (commandFor "DELE ".toList)) client
          (deleManyPipelined ids client)) ∧
    (∀ window (before : Pop3Client σ) results alive,
      returned (drainWindow readRetrResponse window before) = .ok (results, alive) →
        results.length ≤ window.length) ∧
    (∀ window (before : Pop3Client σ) results alive,
      returned (drainWindow readDeleResponse window before) = .ok (results, alive) →
        results.length ≤ window.length) :=
  ⟨fun _ repliesWith clear clean => pipelinedBatch_withstands readsReplies_retr (by decide) ready
      isOpen nothing (repliesWith.imp fun reply member => (clear reply member).isSeen) clean,
    fun _ repliesWith clear clean => pipelinedBatch_withstands readsReplies_dele (by decide) ready
      isOpen nothing (repliesWith.imp fun reply member => (clear reply member).isSeen) clean,
    fun _ _ _ _ => drainWindow_length, fun _ _ _ _ => drainWindow_length⟩

end Both

/-- A status line that is cut off is no transport error, and not what the reply says. -/
theorem exists_batch_not_withstanding :
    ¬∀ (client : Pop3Client SameAnswer) (ids : List UInt32) (replies : List (List UInt8)),
      Ready stormy client.transport → client.transport.net.isOpen = true →
      client.transport.pending = [] → (∀ messageId ∈ ids, messageId ≠ 0) →
      RepliesWith (IsWholeReply false) replies (ids.map (commandFor "DELE ".toList))
          client.transport.net.server →
        Withstands deleReply replies (ids.map (commandFor "DELE ".toList)) client
          (deleManyPipelined ids client) := by
  intro always
  let client : Pop3Client SameAnswer := .idle emptyMessage [.arrive 1, .drop .endOfFile] true
  have ready : Ready stormy client.transport :=
    (inSync_idle (fun tick _ => tick.within_stormy) emptyMessage true).shows.ready
  have replies : RepliesWith (IsWholeReply false) [emptyMessage.answer.encode false]
      ([1].map (commandFor "DELE ".toList)) client.transport.net.server :=
    ⟨Answer.isWholeReply_encode _ _, rfl, trivial⟩
  obtain ⟨items, count, failures, returns, _, _, shape, ioLevel, _⟩ :=
    (always client [1] _ ready rfl rfl (by simp) replies).accounts
  have found : returned (deleManyPipelined [1] client) =
      .ok [.error (.parse "unexpected response: +O".toList)] := by
    decide +kernel
  rw [found] at returns
  cases returns
  cases count with
  | zero =>
      have same : [_] = failures := shape
      obtain ⟨error, parsed, isIo⟩ := ioLevel _ (same ▸ List.mem_singleton_self _)
      cases parsed
      cases isIo
  | succ count =>
      injection shape with same
      revert same
      decide +kernel

/-- The connection ends behind the first status line. -/
theorem withstands_endOfFile :
    Withstands retrReply (List.replicate 2 (emptyMessage.answer.encode true))
        ([1, 2].map (commandFor "RETR ".toList))
        (.idle emptyMessage [.arrive 4, .drop .endOfFile] true)
        (retrManyPipelined [1, 2] (.idle emptyMessage [.arrive 4, .drop .endOfFile] true)) ∧
      Withstands deleReply (List.replicate 2 (emptyMessage.answer.encode false))
        ([1, 2].map (commandFor "DELE ".toList))
        (.idle emptyMessage [.arrive 4, .drop .endOfFile] true)
        (deleManyPipelined [1, 2] (.idle emptyMessage [.arrive 4, .drop .endOfFile] true)) := by
  have ready : Ready stormy
      (Pop3Client.idle emptyMessage [.arrive 4, .drop .endOfFile] true).transport :=
    (inSync_idle (fun tick _ => tick.within_stormy) emptyMessage true).shows.ready
  have whole : ∀ multiLine, IsWholeReply multiLine (emptyMessage.answer.encode multiLine) :=
    fun _ => Answer.isWholeReply_encode _ _
  obtain ⟨retr, dele, _⟩ := batches_withstand_faults ready rfl rfl [1, 2]
  have clear : ∀ multiLine, ∀ reply ∈ List.replicate 2 (emptyMessage.answer.encode multiLine),
      IsClearReply multiLine reply := by
    intro multiLine reply member
    rw [List.eq_of_mem_replicate member]
    exact Answer.isClearReply_encode multiLine emptyMessage.plain.harmless
  refine ⟨retr _ ⟨whole true, rfl, whole true, rfl, trivial⟩ (clear true) ?_,
    dele _ ⟨whole false, rfl, whole false, rfl, trivial⟩ (clear false) ?_⟩
  · exact not_torn_of_isWhole (by decide +kernel)
  · exact not_torn_of_isWhole (by decide +kernel)

end Pop3
