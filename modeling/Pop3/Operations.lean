import Pop3.Conversation

/-!
# Operations with a partner

From the exchange of one command to every operation.
-/

namespace Pop3

open Rust Framing Pop3Client

/-! ## Commands -/

/-- An authenticated client goes on. -/
theorem requireAuth_bind
    {client : Pop3Client σ}
    (isAuthenticated : client.state = .authenticated)
    (next : Unit → ClientM σ α) :
    (Pop3Client.requireAuth >>= next) client = next () client := by
  have passes : Pop3Client.requireAuth client = .ok () client := by
    simp [Pop3Client.requireAuth, isAuthenticated]
  rw [bind_of_ok passes]

theorem noFeed_commandFor
    {verb : Str}
    (noFeed : '\n' ∉ verb)
    (messageId : UInt32) :
    '\n' ∉ commandFor verb messageId := by
  have digits : '\n' ∉ decimal messageId.toNat := not_mem_decimal (by decide) _
  simp [commandFor, noFeed, digits]

theorem isMultiLine_eq (command : List UInt8) :
    isMultiLine command =
      (command == [76, 73, 83, 84] || command == [85, 73, 68, 76] ||
        command == [67, 65, 80, 65] || [82, 69, 84, 82, 32].isPrefixOf command ||
        [84, 79, 80, 32].isPrefixOf command) := by
  have list : utf8 "LIST".toList = [76, 73, 83, 84] := by decide
  have uidl : utf8 "UIDL".toList = [85, 73, 68, 76] := by decide
  have capa : utf8 "CAPA".toList = [67, 65, 80, 65] := by decide
  have retr : utf8 "RETR ".toList = [82, 69, 84, 82, 32] := by decide
  have top : utf8 "TOP ".toList = [84, 79, 80, 32] := by decide
  rw [isMultiLine, list, uidl, capa, retr, top]

theorem isMultiLine_list (messageId : UInt32) :
    isMultiLine (utf8 (commandFor "LIST ".toList messageId)) = false := by
  have verb : utf8 "LIST ".toList = [76, 73, 83, 84, 32] := by decide
  rw [isMultiLine_eq, commandFor, utf8_append, verb]
  simp [List.isPrefixOf]

theorem isMultiLine_uidl (messageId : UInt32) :
    isMultiLine (utf8 (commandFor "UIDL ".toList messageId)) = false := by
  have verb : utf8 "UIDL ".toList = [85, 73, 68, 76, 32] := by decide
  rw [isMultiLine_eq, commandFor, utf8_append, verb]
  simp [List.isPrefixOf]

theorem isMultiLine_dele (messageId : UInt32) :
    isMultiLine (utf8 (commandFor "DELE ".toList messageId)) = false := by
  have verb : utf8 "DELE ".toList = [68, 69, 76, 69, 32] := by decide
  rw [isMultiLine_eq, commandFor, utf8_append, verb]
  simp [List.isPrefixOf]

theorem isMultiLine_retr (messageId : UInt32) :
    isMultiLine (utf8 (commandFor "RETR ".toList messageId)) = true := by
  have verb : utf8 "RETR ".toList = [82, 69, 84, 82, 32] := by decide
  rw [isMultiLine_eq, commandFor, utf8_append, verb]
  simp [List.isPrefixOf]

theorem isMultiLine_top (messageId : UInt32) (rest : Str) :
    isMultiLine (utf8 (commandFor "TOP ".toList messageId ++ " ".toList ++ rest)) = true := by
  have verb : utf8 "TOP ".toList = [84, 79, 80, 32] := by decide
  rw [isMultiLine_eq, commandFor, utf8_append, utf8_append, utf8_append, verb]
  simp [List.isPrefixOf]

theorem noFeed_top (messageId lines : UInt32) :
    '\n' ∉ commandFor "TOP ".toList messageId ++ " ".toList ++ decimal lines.toNat := by
  have command : '\n' ∉ commandFor "TOP ".toList messageId :=
    noFeed_commandFor (by decide) messageId
  have digits : '\n' ∉ decimal lines.toNat := not_mem_decimal (by decide) _
  rw [List.mem_append, List.mem_append, not_or, not_or]
  exact ⟨⟨command, by decide⟩, digits⟩

/-! ## Operations -/

/-- Up to these escapes, clients in sync get status lines as the partner does. -/
structure Exchanges [Server σ] (escapes : Escapes Pop3Error (Pop3Client σ))
    (sync : Pop3Client σ → T → Prop) (partner : Partner T) : Prop where
  keeps : ∀ {α : Type} {action : ClientM σ α}, Program True action →
    Preserves escapes.gone action
  authenticated : ∀ client state, sync client state → client.state = .authenticated
  status : ∀ command, '\n' ∉ command → isMultiLine (utf8 command) = false →
    Follows sync escapes (sendAndCheck command) (partner.status command)

/-- They get bodies as the partner does, too. -/
structure Talks [Server σ] (escapes : Escapes Pop3Error (Pop3Client σ))
    (sync : Pop3Client σ → T → Prop) (partner : Partner T) : Prop
    extends Exchanges escapes sync partner where
  body : ∀ command, '\n' ∉ command → isMultiLine (utf8 command) = true →
    Follows sync escapes
      (do
        let _ ← sendAndCheck command
        readBody)
      (partner.body command)

section Talking

variable [Server σ] {escapes : Escapes Pop3Error (Pop3Client σ)}
  {sync : Pop3Client σ → T → Prop}
  {partner : Partner T}

namespace Exchanges

/-- The check of the session state passes. -/
theorem requireAuth
    (exchanges : Exchanges escapes sync partner)
    {next : Unit → ClientM σ α}
    {ideal : Action Pop3Error T α}
    (follows : Follows sync escapes (next ()) ideal) :
    Follows sync escapes (Pop3Client.requireAuth >>= next) ideal := by
  intro state client inSync
  rw [requireAuth_bind (exchanges.authenticated client state inSync)]
  exact follows state client inSync

/-- A command whose status text is used. -/
theorem status_bind
    (exchanges : Exchanges escapes sync partner)
    {command : Str}
    (noFeed : '\n' ∉ command)
    (single : isMultiLine (utf8 command) = false)
    {next : Str → ClientM σ α}
    {ideal : Str → Action Pop3Error T α}
    (follows : ∀ text, Follows sync escapes (next text) (ideal text))
    (program : ∀ text, Program True (next text)) :
    Follows sync escapes (sendAndCheck command >>= next)
      (partner.status command >>= ideal) :=
  (exchanges.status command noFeed single).bind follows
    fun text => exchanges.keeps (program text)

theorem stat (exchanges : Exchanges escapes sync partner) :
    Follows sync escapes Pop3Client.stat partner.stat := by
  apply exchanges.requireAuth
  exact exchanges.status_bind (by decide) (by decide) (fun _ => .ofResult _) fun _ => .ofResult _

theorem dele (exchanges : Exchanges escapes sync partner) (messageId : UInt32) :
    Follows sync escapes (Pop3Client.dele messageId)
      (partner.dele messageId) := by
  apply exchanges.requireAuth
  refine .bind (.ofResult _) (fun _ => ?_) fun _ => exchanges.keeps ?_
  · exact exchanges.status_bind (noFeed_commandFor (by decide) _) (isMultiLine_dele _)
      (fun _ => .pure _) fun _ => .pure _
  · exact .bind (program_sendAndCheck _) fun _ => .pure _

theorem rset (exchanges : Exchanges escapes sync partner) :
    Follows sync escapes Pop3Client.rset partner.rset := by
  apply exchanges.requireAuth
  exact exchanges.status_bind (by decide) (by decide) (fun _ => .pure _) fun _ => .pure _

theorem noop (exchanges : Exchanges escapes sync partner) :
    Follows sync escapes Pop3Client.noop partner.noop := by
  apply exchanges.requireAuth
  exact exchanges.status_bind (by decide) (by decide) (fun _ => .pure _) fun _ => .pure _

end Exchanges

namespace Talks

/-- A command whose body is used. -/
theorem body_bind
    (talks : Talks escapes sync partner)
    {command : Str}
    (noFeed : '\n' ∉ command)
    (multi : isMultiLine (utf8 command) = true)
    {next : Str → ClientM σ α}
    {ideal : Str → Action Pop3Error T α}
    (follows : ∀ body, Follows sync escapes (next body) (ideal body))
    (program : ∀ body, Program True (next body)) :
    Follows sync escapes
      (do
        let _ ← sendAndCheck command
        let body ← readBody
        next body)
      (partner.body command >>= ideal) := by
  have whole := (talks.body command noFeed multi).bind follows
    fun body => talks.keeps (program body)
  rwa [bind_assoc] at whole

theorem list (talks : Talks escapes sync partner) (messageId : Option UInt32) :
    Follows sync escapes (Pop3Client.list messageId)
      (partner.list messageId) := by
  apply talks.toExchanges.requireAuth
  cases messageId with
  | some messageId =>
      refine .bind (.ofResult _) (fun _ => ?_) fun _ => talks.keeps ?_
      · refine talks.toExchanges.status_bind (noFeed_commandFor (by decide) _) (isMultiLine_list _)
          (fun _ => ?_) fun _ => .bind (.ofResult _) fun _ => .pure _
        exact .bind (.ofResult _) (fun _ => .pure _) fun _ => Preserves.pure _
      · exact .bind (program_sendAndCheck _) fun _ => .bind (.ofResult _) fun _ => .pure _
  | none =>
      exact talks.body_bind (by decide) (by decide) (fun _ => .ofResult _)
        fun _ => .ofResult _

theorem uidl (talks : Talks escapes sync partner) (messageId : Option UInt32) :
    Follows sync escapes (Pop3Client.uidl messageId)
      (partner.uidl messageId) := by
  apply talks.toExchanges.requireAuth
  cases messageId with
  | some messageId =>
      refine .bind (.ofResult _) (fun _ => ?_) fun _ => talks.keeps ?_
      · refine talks.toExchanges.status_bind (noFeed_commandFor (by decide) _) (isMultiLine_uidl _)
          (fun _ => ?_) fun _ => .bind (.ofResult _) fun _ => .pure _
        exact .bind (.ofResult _) (fun _ => .pure _) fun _ => Preserves.pure _
      · exact .bind (program_sendAndCheck _) fun _ => .bind (.ofResult _) fun _ => .pure _
  | none =>
      exact talks.body_bind (by decide) (by decide) (fun _ => .ofResult _)
        fun _ => .ofResult _

theorem retr (talks : Talks escapes sync partner) (messageId : UInt32) :
    Follows sync escapes (Pop3Client.retr messageId)
      (partner.retr messageId) := by
  apply talks.toExchanges.requireAuth
  refine .bind (.ofResult _) (fun _ => ?_) fun _ => talks.keeps ?_
  · exact talks.body_bind (noFeed_commandFor (by decide) _) (isMultiLine_retr _)
      (fun _ => .pure _) fun _ => .pure _
  · exact .bind (program_sendAndCheck _) fun _ => .bind program_readBody fun _ => .pure _

theorem top (talks : Talks escapes sync partner) (messageId lines : UInt32) :
    Follows sync escapes (Pop3Client.top messageId lines)
      (partner.top messageId lines) := by
  apply talks.toExchanges.requireAuth
  refine .bind (.ofResult _) (fun _ => ?_) fun _ => talks.keeps ?_
  · exact talks.body_bind (noFeed_top _ _) (isMultiLine_top _ _)
      (fun _ => .pure _) fun _ => .pure _
  · exact .bind (program_sendAndCheck _) fun _ => .bind program_readBody fun _ => .pure _

theorem capa (talks : Talks escapes sync partner) :
    Follows sync escapes Pop3Client.capa partner.capa :=
  talks.body_bind (by decide) (by decide) (fun _ => .pure _) fun _ => .pure _

theorem unseenUids (talks : Talks escapes sync partner) (seen : UidSet) :
    Follows sync escapes (Pop3Client.unseenUids seen)
      (partner.unseenUids seen) :=
  (talks.uidl none).bind (fun _ => .pure _) fun _ => Preserves.pure _

theorem fetchEach (talks : Talks escapes sync partner) (entries : List UidlEntry) :
    Follows sync escapes (Pop3Client.fetchEach entries)
      (partner.fetchEach entries) := by
  induction entries with
  | nil => exact .pure []
  | cons entry entries inductionHypothesis =>
      refine (talks.retr entry.messageId).bind (fun message => ?_)
        fun message => talks.keeps ?_
      · exact inductionHypothesis.bind (fun _ => .pure _) fun _ => Preserves.pure _
      · exact .bind (program_fetchEach entries) fun _ => .pure _

theorem fetchUnseen (talks : Talks escapes sync partner) (seen : UidSet) :
    Follows sync escapes (Pop3Client.fetchUnseen seen)
      (partner.fetchUnseen seen) :=
  (talks.unseenUids seen).bind (fun entries => talks.fetchEach entries)
    fun entries => talks.keeps (program_fetchEach entries)

theorem pruneSeen (talks : Talks escapes sync partner) (seen : UidSet) :
    Follows sync escapes (Pop3Client.pruneSeen seen)
      (partner.pruneSeen seen) :=
  (talks.uidl none).bind (fun _ => .pure _) fun _ => Preserves.pure _

end Talks

end Talking

/-- An operation that is not a batch. -/
def Call.isSingle : Call → Bool
  | .retrMany _ | .deleMany _ => false
  | call => call.isCommand

/-- Every operation that is not a batch does what it comes to. -/
theorem Talks.perform [Server σ] [Md5]
    {escapes : Escapes Pop3Error (Pop3Client σ)}
    {sync : Pop3Client σ → T → Prop}
    {partner : Partner T}
    (talks : Talks escapes sync partner) :
    ∀ call : Call, call.isSingle = true →
      Follows sync escapes call.run (partner.perform call)
  | .stls _, single | .login _ _, single | .apop _ _, single
  | .retrMany _, single | .deleMany _, single => by cases single
  | .capa, _ => talks.capa.bind (fun _ => .pure _) fun _ => Preserves.pure _
  | .stat, _ => talks.stat.bind (fun _ => .pure _) fun _ => Preserves.pure _
  | .list _, _ => (talks.list _).bind (fun _ => .pure _) fun _ => Preserves.pure _
  | .uidl _, _ => (talks.uidl _).bind (fun _ => .pure _) fun _ => Preserves.pure _
  | .retr _, _ => (talks.retr _).bind (fun _ => .pure _) fun _ => Preserves.pure _
  | .top _ _, _ => (talks.top _ _).bind (fun _ => .pure _) fun _ => Preserves.pure _
  | .dele _, _ => (talks.dele _).bind (fun _ => .pure _) fun _ => Preserves.pure _
  | .rset, _ => talks.rset.bind (fun _ => .pure _) fun _ => Preserves.pure _
  | .noop, _ => talks.noop.bind (fun _ => .pure _) fun _ => Preserves.pure _
  | .unseenUids _, _ =>
      (talks.unseenUids _).bind (fun _ => .pure _) fun _ => Preserves.pure _
  | .fetchUnseen _, _ =>
      (talks.fetchUnseen _).bind (fun _ => .pure _) fun _ => Preserves.pure _
  | .pruneSeen _, _ =>
      (talks.pruneSeen _).bind (fun _ => .pure _) fun _ => Preserves.pure _

/-! ## Partners to talk to -/

/-- Where nothing is lost, every operation follows the view. -/
theorem talks_view [Server σ]
    {weather : Weather}
    (safe : weather.lossy = false) :
    Talks (clientMishaps weather) (Serves weather) (View.partner : Partner (View σ)) where
  keeps program := program.keeps weather
  authenticated _ _ served := served.authenticated
  status _ noFeed _ view := sendAndCheck_gives noFeed (by simp [safe])
  body _ noFeed _ view := sendAndReadBody_gives noFeed (by simp [safe])

/-- The client is in sync: nothing it asked for is unread. -/
def InSync (weather : Weather) (client : Pop3Client σ) (dialogue : Dialogue σ) : Prop :=
  Serves weather client dialogue.view

/-- A client that is authenticated with a server and has asked it nothing yet. -/
def Pop3Client.idle (server : σ) (reads : List ReadTick) (isPipelining : Bool) :
    Pop3Client σ where
  transport := { stream := .plain, encrypted := false, net := { server, reads } }
  greeting := []
  state := .authenticated
  isPipelining

theorem inSync_idle
    {weather : Weather}
    {reads : List ReadTick}
    (within : ∀ tick ∈ reads, tick.Within weather)
    (server : σ)
    (isPipelining : Bool) :
    InSync weather (Pop3Client.idle server reads isPipelining) { server } where
  shows :=
    { server := rfl
      pending := rfl
      isOpen := rfl
      isClosed := rfl
      log := rfl
      stream := InnerStream.noConfusion
      unflushed := rfl
      inbound := rfl
      reads := within
      writes := by simp [Pop3Client.idle] }
  authenticated := rfl

section Asking

variable [AnsweringServer σ] {weather : Weather} {command : Str}

/-- A command without a body gets the server's answer. -/
theorem status_follows
    (noFeed : '\n' ∉ command)
    (single : isMultiLine (utf8 command) = false) :
    Follows (InSync weather) (clientMishaps weather) (sendAndCheck command)
      ((Dialogue.partner : Partner (Dialogue σ)).status command) := by
  intro dialogue
  have gives : Gives (Serves weather) (clientMishaps weather) (sendAndCheck command)
      dialogue.view _ _ :=
    sendAndCheck_gives noFeed fun _ => rfl
  rw [Dialogue.status_view single, Dialogue.returned_moved, Dialogue.finalState_moved] at gives
  exact gives

/-- A command with a body gets the server's answer, if that is readable. -/
theorem body_gives
    (noFeed : '\n' ∉ command)
    (multi : isMultiLine (utf8 command) = true)
    {dialogue : Dialogue σ}
    (readable : (dialogue.ask command).1.IsReadable true) :
    Gives (InSync weather) (clientMishaps weather)
      (do
        let _ ← sendAndCheck command
        readBody)
      dialogue (returned (Dialogue.partner.body command dialogue))
      (finalState (Dialogue.partner.body command dialogue)) := by
  have gives : Gives (Serves weather) (clientMishaps weather)
      (do
        let _ ← sendAndCheck command
        readBody)
      dialogue.view _ _ :=
    sendAndReadBody_gives noFeed fun _ => rfl
  rw [Dialogue.body_view multi readable, Dialogue.returned_moved,
    Dialogue.finalState_moved] at gives
  exact gives

end Asking

/-- In any weather, the server's status lines are got. -/
theorem exchanges_dialogue [AnsweringServer σ] (weather : Weather) :
    Exchanges (clientMishaps weather) (InSync weather)
      (Dialogue.partner : Partner (Dialogue σ)) where
  keeps program := program.keeps weather
  authenticated _ _ served := served.authenticated
  status _ noFeed single := status_follows noFeed single

/-- In any weather, every operation follows a server that speaks text. -/
theorem talks_dialogue [AnsweringServer σ]
    (weather : Weather)
    (isClear : ∀ (server : σ) command, (AnsweringServer.answer server command).2.IsClear) :
    Talks (clientMishaps weather) (InSync weather) (Dialogue.partner : Partner (Dialogue σ)) where
  toExchanges := exchanges_dialogue weather
  body _ noFeed multi _ := body_gives noFeed multi ((isClear _ _).isReadable true)

end Pop3
