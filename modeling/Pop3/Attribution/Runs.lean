import Pop3.Attribution.LateReplies
import Pop3.Mailbox.Refinement

/-!
# Attribution over whole runs

In a disciplined run every value that is reported comes from the server's
answer to the call that reports it.
-/

namespace Pop3

open Rust Framing Pop3Client

/-- The dialogue that a client has had so far. -/
def Pop3Client.dialogue (client : Pop3Client σ) : Dialogue σ where
  server := client.transport.net.server
  log := client.noted

theorem dialogue_of_inSync
    {weather : Weather}
    {client : Pop3Client σ}
    {dialogue : Dialogue σ}
    (inSync : InSync weather client dialogue) :
    client.dialogue = dialogue := by
  obtain ⟨server, log⟩ := dialogue
  rw [Pop3Client.dialogue, noted, inSync.shows.server, inSync.shows.log]
  rfl

section Running

variable [AnsweringServer σ] [Md5]

/-- What a call reports is what it comes to when it asks the server directly. -/
def Attributed (call : Call) (client : Pop3Client σ) : Prop :=
  ∀ index value, Reports (returned (call.run client)) index value →
    Reports (returned ((Dialogue.partner : Partner (Dialogue σ)).perform call client.dialogue))
      index value

/-- Every call of a run reports only what it comes to. -/
def AllAttributed : List Call → Pop3Client σ → Prop
  | [], _ => True
  | call :: calls, client =>
      Attributed call client ∧ AllAttributed calls (finalState (call.run client))

theorem runAll_reckless
    {calls : List Call}
    (commands : ∀ call ∈ calls, call.isCommand = true)
    {client : Pop3Client σ}
    (reckless : Reckless client.transport) :
    Reckless (Call.runAll calls client).transport := by
  induction calls generalizing client with
  | nil => exact reckless
  | cons call calls inductionHypothesis =>
      have program : Program True (call.run : ClientM σ Value) :=
        call.program_run (commands call List.mem_cons_self)
      exact inductionHypothesis
        (fun other member => commands other (List.mem_cons_of_mem _ member))
        (program.preserves_reckless client reckless)

/-- What holds of a call in sync holds of its reports. -/
theorem attributed_of_endsLate
    {call : Call}
    {client : Pop3Client σ}
    (ends : EndsLate Supports (call.run client)
      ((Dialogue.partner : Partner (Dialogue σ)).perform call client.dialogue))
    (careful : ¬Reckless (finalState (call.run client)).transport) :
    Attributed call client := by
  intro index value reports
  rcases ends with reckless | ⟨same, _⟩ | ⟨_, supported⟩
  · exact absurd reckless careful
  · rwa [← same]
  · cases result : returned (call.run client) with
    | error error =>
        rw [result] at reports
        exact absurd reports (silent_error error index value)
    | ok found =>
        obtain ⟨ideal, same, supports⟩ := supported found result
        rw [result] at reports
        rw [same]
        exact supports index value reports

/-- A run goes on in sync, or with a connection that is overdue. -/
def UpToDate (client : Pop3Client σ) : Prop :=
  InSync late client client.dialogue ∨ Overdue client.transport

/-- A call that is not reckless reports only what it comes to. -/
theorem UpToDate.call
    (isClear : ∀ (server : σ) command, (AnsweringServer.answer server command).2.IsClear)
    {client : Pop3Client σ}
    (upToDate : UpToDate client)
    {call : Call}
    (command : call.isCommand = true)
    (careful : ¬Reckless (finalState (call.run client)).transport) :
    Attributed call client ∧ UpToDate (finalState (call.run client)) := by
  rcases upToDate with inSync | overdue
  · have ends := call.endsLate isClear command inSync
    refine ⟨attributed_of_endsLate ends careful, ?_⟩
    rcases ends with reckless | ⟨_, inSync'⟩ | ⟨overdue, _⟩
    · exact absurd reckless careful
    · left
      rwa [dialogue_of_inSync inSync']
    · exact .inr overdue
  · have silent := (call.fromOverdue command client overdue).resolve_left careful
    exact ⟨fun index value reports => absurd reports (silent index value),
      .inr ((call.program_run command).preserves_overdue client overdue)⟩

/-- However late replies are, in a run that writes nothing after a timeout every
call reports only the server's answers to its own commands. -/
theorem allAttributed_of_disciplined
    (isClear : ∀ (server : σ) command, (AnsweringServer.answer server command).2.IsClear)
    {client : Pop3Client σ}
    {dialogue : Dialogue σ}
    (inSync : InSync late client dialogue)
    {calls : List Call}
    (commands : ∀ call ∈ calls, call.isCommand = true)
    (disciplined : Disciplined (Call.runAll calls client).transport.net.trace) :
    AllAttributed calls client := by
  have upToDate : UpToDate client := by
    left
    rwa [dialogue_of_inSync inSync]
  clear inSync
  induction calls generalizing client with
  | nil => trivial
  | cons call calls inductionHypothesis =>
      have commandsRest : ∀ other ∈ calls, other.isCommand = true :=
        fun other member => commands other (List.mem_cons_of_mem _ member)
      have careful : ¬Reckless (finalState (call.run client)).transport :=
        fun reckless => (runAll_reckless commandsRest reckless).trace disciplined
      obtain ⟨attributed, upToDate'⟩ :=
        upToDate.call isClear (commands call List.mem_cons_self) careful
      exact ⟨attributed, inductionHypothesis commandsRest disciplined upToDate'⟩

end Running

theorem isUniqueId_a1 : IsUniqueId "a1".toList := ⟨by decide, by simp⟩

theorem noReturn_two : '\r' ∉ "two".toList := by decide

theorem noFeed_two : '\n' ∉ "two".toList := by decide

/-- A mailbox with two messages of one line each. -/
def twoMessages : MailServer where
  mailbox :=
    { mails := [
        { uniqueId := "a1".toList
          size := 5
          lines := [⟨"one".toList, by decide, by decide⟩]
          isUniqueId := isUniqueId_a1 },
        { uniqueId := "a2".toList
          size := 5
          lines := [⟨"two".toList, noReturn_two, noFeed_two⟩]
          isUniqueId := ⟨by decide, by simp⟩ } ]
      marks := ∅
      countFits := by decide
      sizeFits := by decide }
  choices _ := { positive := .blank, negative := .blank }

/-- The first message arrives too late, and is reported as the second. -/
theorem exists_misattributed :
    ¬∀ (client : Pop3Client MailServer) (dialogue : Dialogue MailServer),
      InSync late client dialogue → ∀ calls : List Call,
        (∀ call ∈ calls, call.isMailbox = true) →
          @AllAttributed _ _ emptyDigest calls client := by
  intro always
  have attributed := always (.idle twoMessages [.deadline] false) _
    (inSync_idle (by simp [ReadTick.Within, late]) twoMessages false)
    [.retr 1, .retr 2] (by decide)
  have misled : returned (@Call.run _ _ emptyDigest (.retr 2)
      (finalState (@Call.run _ _ emptyDigest (.retr 1) (.idle twoMessages [.deadline] false)))) =
        .ok (.message ⟨"one\n".toList⟩) := by decide +kernel
  have answered : returned ((Dialogue.partner : Partner (Dialogue MailServer)).perform (.retr 2)
      (finalState (@Call.run _ _ emptyDigest (.retr 1)
        (.idle twoMessages [.deadline] false))).dialogue) =
        .ok (.message ⟨"two\n".toList⟩) := by decide +kernel
  have second := attributed.2.1 0 (.message ⟨"one\n".toList⟩)
  rw [misled, answered] at second
  have wrong := second (.single (fun _ => Value.noConfusion) fun _ => Value.noConfusion)
  exact absurd wrong.eq_of_message (by decide)

/-- Two messages in pieces, the second too late: nothing wrong is reported. -/
theorem allAttributed_twoMessages :
    @AllAttributed _ _ emptyDigest [.retr 1, .retr 2]
      (.idle twoMessages [.arrive 7, .arrive 7, .deadline] false) :=
  @allAttributed_of_disciplined _ _ emptyDigest MailServer.isClear _ _
    (inSync_idle (by simp [ReadTick.Within, late]) twoMessages false) _ (by decide)
    (disciplined_of_dropLast (by decide +kernel))

end Pop3
