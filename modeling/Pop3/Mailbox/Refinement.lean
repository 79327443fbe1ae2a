import Pop3.Batches
import Pop3.Mailbox.Parsing

/-!
# The client refines the mailbox

A run of calls on a client gives what the same calls give on the mailbox behind
the server, and leaves nothing unread.
-/

namespace Pop3

open Rust Framing Pop3Client

/-! ## One request -/

/-- The operation on a dialogue with a mailbox's server does what the operation
on the mailbox does. -/
abbrev Refines (action : Action Pop3Error (Dialogue MailServer) α)
    (ideal : Action Pop3Error MailServer α) : Prop :=
  Follows (fun dialogue server => dialogue.server = server) Escapes.none action ideal

namespace MailServer

theorem isClear (server : MailServer) (command : List UInt8) :
    (AnsweringServer.answer server command).2.IsClear := by
  unfold AnsweringServer.answer instAnsweringServer
  dsimp only
  split
  · exact Answer.isClear_of_lines rfl
  · exact Answer.isClear_of_lines (List.map_nil).symm

/-- What the server grants on a request. -/
theorem granted_command (server : MailServer) (request : Request) :
    server.granted (utf8 request.command) =
      (if server.choice.refuses then none
        else server.mailbox.grant server.choice.positive request).map
          fun given => (given, Mailbox.after request server.mailbox) := by
  rw [granted, Request.parse_command]

end MailServer

/-- The result of an answer, parsed, is what was to be read of the mailbox. -/
structure Understands (request : Request) (result : Answer → Except Pop3Error Str)
    (parse : Str → Except Pop3Error α) (read : Mailbox → Option α) : Prop where
  refused : ∀ text, result (.refusing text) = .error (mappedError (trimStart text.text))
  granted : ∀ mailbox text,
    (Mailbox.grant mailbox text request).map (fun (line, body) =>
      (result (.granting line body)).bind parse) =
    (read mailbox).map .ok

/-- Asking a request and parsing the answer is requesting it of the mailbox. -/
theorem Understands.refines
    {request : Request}
    {result : Answer → Except Pop3Error Str}
    {parse : Str → Except Pop3Error α}
    {read : Mailbox → Option α}
    (understands : Understands request result parse read) :
    Refines
      (do
        let text ← Dialogue.take result request.command
        ofResult (parse text))
      (MailServer.request read (Mailbox.after request)) := by
  rintro _ dialogue rfl
  left
  have granted := dialogue.server.granted_command request
  have both : (if dialogue.server.choice.refuses then none
      else dialogue.server.mailbox.grant dialogue.server.choice.positive request).map
        (fun (line, body) => (result (.granting line body)).bind parse) =
      (if dialogue.server.choice.refuses then none
        else read dialogue.server.mailbox).map .ok := by
    split
    · rfl
    · exact understands.granted _ _
  generalize (if dialogue.server.choice.refuses then none
    else dialogue.server.mailbox.grant dialogue.server.choice.positive request) = given
      at granted both
  cases given with
  | none =>
      rw [Option.map_none, eq_comm, Option.map_eq_none_iff] at both
      have asked : result (dialogue.ask request.command).1 =
          .error (mappedError (trimStart dialogue.server.choice.negative.text)) := by
        rw [← understands.refused]
        simp only [Dialogue.ask, AnsweringServer.answer, granted, Option.map_none]
      have server : (dialogue.ask request.command).2.server =
          dialogue.server.next dialogue.server.mailbox := by
        simp only [Dialogue.ask, AnsweringServer.answer, granted, Option.map_none]
      rw [bind_of_error (Dialogue.take_of_error asked), MailServer.request_of_none both]
      exact ⟨rfl, server⟩
  | some given =>
      obtain ⟨line, body⟩ := given
      rw [Option.map_some, eq_comm, Option.map_eq_some_iff] at both
      obtain ⟨value, given, same⟩ := both
      have answer : (dialogue.ask request.command).1 = .granting line body := by
        simp only [Dialogue.ask, AnsweringServer.answer, granted, Option.map_some]
      have server : (dialogue.ask request.command).2.server =
          dialogue.server.next (Mailbox.after request dialogue.server.mailbox) := by
        simp only [Dialogue.ask, AnsweringServer.answer, granted, Option.map_some]
      dsimp only at same
      rw [← answer] at same
      cases asked : result (dialogue.ask request.command).1 with
      | error error =>
          rw [asked] at same
          cases same
      | ok text =>
          rw [asked] at same
          have parsed : parse text = .ok value := same.symm
          rw [bind_of_ok (Dialogue.take_of_ok asked), parsed,
            MailServer.request_of_some given]
          exact ⟨rfl, server⟩

/-! ## Operations -/

theorem statusResult_refusing (text : Line) :
    (Answer.refusing text).statusResult = .error (mappedError (trimStart text.text)) := by
  rw [← parseRespCode_eq]
  rfl

theorem bodyResult_refusing (text : Line) :
    (Answer.refusing text).bodyResult = .error (mappedError (trimStart text.text)) := by
  rw [Answer.bodyResult, statusResult_refusing]
  rfl

theorem bodyResult_granting (text : Line) (lines : List Line) :
    (Answer.granting text lines).bodyResult = .ok (joined (lines.map Line.text)) := by
  rw [Answer.bodyResult, Answer.granting, bodyText_encode]
  rfl

/-- An answer about one message is understood. -/
theorem understands_find
    {request : Request}
    {result : Answer → Except Pop3Error Str}
    {parse : Str → Except Pop3Error α}
    (refused : ∀ text, result (.refusing text) = .error (mappedError (trimStart text.text)))
    {messageId : UInt32}
    {line : Line → Mail → Line}
    {body : Mail → List Line}
    (grant : ∀ mailbox text, Mailbox.grant mailbox text request =
      (mailbox.find messageId).map fun mail => (line text mail, body mail))
    {value : Mail → α}
    (parses : ∀ mailbox mail text, (messageId, mail) ∈ Mailbox.present mailbox →
      (result (.granting (line text mail) (body mail))).bind parse = .ok (value mail)) :
    Understands request result parse fun mailbox => (mailbox.find messageId).map value where
  refused := refused
  granted mailbox text := by
    rw [grant]
    cases found : mailbox.find messageId with
    | none => rfl
    | some mail => exact congrArg some (parses mailbox mail text (Mailbox.find_mem found))

/-- An answer that is always granted is understood. -/
theorem understands_always
    {request : Request}
    {result : Answer → Except Pop3Error Str}
    {parse : Str → Except Pop3Error α}
    (refused : ∀ text, result (.refusing text) = .error (mappedError (trimStart text.text)))
    {line : Mailbox → Line → Line}
    {body : Mailbox → List Line}
    (grant : ∀ mailbox text, Mailbox.grant mailbox text request =
      some (line mailbox text, body mailbox))
    {value : Mailbox → α}
    (parses : ∀ mailbox text,
      (result (.granting (line mailbox text) (body mailbox))).bind parse =
        .ok (value mailbox)) :
    Understands request result parse fun mailbox => some (value mailbox) where
  refused := refused
  granted mailbox text := by
    rw [grant]
    exact congrArg some (parses mailbox text)

theorem understands_stat :
    Understands .stat Answer.statusResult parseStat fun mailbox => some mailbox.stat :=
  understands_always statusResult_refusing (fun _ _ => rfl)
    fun mailbox text => mailbox.parseStat_dropLine text

theorem understands_list (messageId : UInt32) :
    Understands (.list (some messageId)) Answer.statusResult
      (fun text => (parseListSingle text).map fun entry => [entry])
      fun mailbox => (mailbox.find messageId).map fun mail =>
        [Mailbox.listEntry messageId mail] := by
  refine understands_find statusResult_refusing (fun _ _ => rfl) fun mailbox mail _ member => ?_
  change (parseListEntry (trimStart (Mailbox.scanLine messageId mail).text)).map _ = _
  rw [Mailbox.trimStart_scanLine,
    Mailbox.parseListEntry_scanLine (Mailbox.size_lt_of_mem member)]
  rfl

theorem understands_uidl (messageId : UInt32) :
    Understands (.uidl (some messageId)) Answer.statusResult
      (fun text => (parseUidlSingle text).map fun entry => [entry])
      fun mailbox => (mailbox.find messageId).map fun mail =>
        [Mailbox.uidlEntry messageId mail] := by
  refine understands_find statusResult_refusing (fun _ _ => rfl) fun mailbox mail _ _ => ?_
  change (parseUidlEntry (trimStart (Mailbox.uidlLine messageId mail).text)).map _ = _
  rw [Mailbox.trimStart_uidlLine, Mailbox.parseUidlEntry_uidlLine]
  rfl

theorem understands_listAll :
    Understands (.list none) Answer.bodyResult parseListMulti
      fun mailbox => some mailbox.listing := by
  refine understands_always bodyResult_refusing (fun _ _ => rfl) fun mailbox text => ?_
  rw [bodyResult_granting]
  exact mailbox.parseListMulti_scanLines

theorem understands_uidlAll :
    Understands (.uidl none) Answer.bodyResult parseUidlMulti
      fun mailbox => some mailbox.uids := by
  refine understands_always bodyResult_refusing (fun _ _ => rfl) fun mailbox text => ?_
  rw [bodyResult_granting]
  exact mailbox.parseUidlMulti_uidlLines

theorem understands_retr (messageId : UInt32) :
    Understands (.retr messageId) Answer.bodyResult (fun data => .ok { data })
      fun mailbox => (mailbox.find messageId).map fun mail => messageOf mail.lines := by
  refine understands_find bodyResult_refusing (fun _ _ => rfl) fun mailbox mail text _ => ?_
  rw [bodyResult_granting]
  rfl

theorem understands_top (messageId count : UInt32) :
    Understands (.top messageId count) Answer.bodyResult (fun data => .ok { data })
      fun mailbox => (mailbox.find messageId).map fun mail =>
        messageOf (topLines count.toNat mail.lines) := by
  refine understands_find bodyResult_refusing (fun _ _ => rfl) fun mailbox mail text _ => ?_
  rw [bodyResult_granting]
  rfl

theorem understands_dele (messageId : UInt32) :
    Understands (.dele messageId) Answer.statusResult (fun _ => .ok ())
      fun mailbox => (mailbox.find messageId).map fun _ => () :=
  understands_find statusResult_refusing (fun _ _ => rfl) fun _ _ _ _ => rfl

theorem understands_rset :
    Understands .rset Answer.statusResult (fun _ => .ok ()) fun _ => some () :=
  understands_always statusResult_refusing (fun _ _ => rfl) fun _ _ => rfl

theorem understands_noop :
    Understands .noop Answer.statusResult (fun _ => .ok ()) fun _ => some () :=
  understands_always statusResult_refusing (fun _ _ => rfl) fun _ _ => rfl

namespace MailServer

/-- The server as a partner in a dialogue. -/
abbrev partner : Partner (Dialogue MailServer) := Dialogue.partner

theorem stat_refines : Refines partner.stat stat := understands_stat.refines

theorem list_refines (messageId : Option UInt32) :
    Refines (partner.list messageId) (list messageId) := by
  cases messageId with
  | none => exact understands_listAll.refines
  | some messageId =>
      refine .bind (.ofResult _) (fun _ => ?_) fun _ _ gone => gone.elim
      simp only [ofResult_bind_pure]
      exact (understands_list messageId).refines

theorem uidl_refines (messageId : Option UInt32) :
    Refines (partner.uidl messageId) (uidl messageId) := by
  cases messageId with
  | none => exact understands_uidlAll.refines
  | some messageId =>
      refine .bind (.ofResult _) (fun _ => ?_) fun _ _ gone => gone.elim
      simp only [ofResult_bind_pure]
      exact (understands_uidl messageId).refines

theorem retr_refines (messageId : UInt32) :
    Refines (partner.retr messageId) (retr messageId) :=
  .bind (.ofResult _) (fun _ => (understands_retr messageId).refines)
    fun _ _ gone => gone.elim

theorem top_refines (messageId count : UInt32) :
    Refines (partner.top messageId count) (top messageId count) :=
  .bind (.ofResult _) (fun _ => (understands_top messageId count).refines)
    fun _ _ gone => gone.elim

theorem dele_refines (messageId : UInt32) :
    Refines (partner.dele messageId) (dele messageId) :=
  .bind (.ofResult _) (fun _ => (understands_dele messageId).refines)
    fun _ _ gone => gone.elim

theorem rset_refines : Refines partner.rset rset := understands_rset.refines

theorem noop_refines : Refines partner.noop noop := understands_noop.refines

/-! ## Batches and incremental sync -/

theorem checkNumbers_eq (ids : List UInt32) :
    checkNumbers ids = ofResult (validateMessageIds ids) := by
  have checked : validateMessageIds ids =
      if 0 ∈ ids then .error .invalidInput else .ok () := by
    induction ids with
    | nil => rfl
    | cons messageId ids inductionHypothesis =>
        by_cases zero : messageId = 0
        · subst zero
          rw [if_pos List.mem_cons_self]
          rfl
        · rw [validateMessageIds, validateMessageId_of_ne zero]
          change validateMessageIds ids = _
          simpa [Ne.symm zero] using inductionHypothesis
  rw [checkNumbers, checked]

/-- Requests in a row. -/
theorem sequentially_refines
    {operation : UInt32 → Action Pop3Error (Dialogue MailServer) α}
    {ideal : UInt32 → Action Pop3Error MailServer α}
    (refines : ∀ messageId, Refines (operation messageId) (ideal messageId))
    (ids : List UInt32) :
    Refines (sequentially operation ids)
      (ids.mapM fun messageId => attempt (ideal messageId)) := by
  induction ids with
  | nil => exact .pure []
  | cons messageId ids inductionHypothesis =>
      rw [List.mapM_cons]
      refine .bind ((refines messageId).attempt fun _ _ stuck => stuck) (fun result => ?_)
        fun _ _ gone => gone.elim
      exact inductionHypothesis.bind (fun _ => .pure _) fun _ _ gone => gone.elim

theorem many_refines
    {operation : UInt32 → Action Pop3Error (Dialogue MailServer) α}
    {ideal : UInt32 → Action Pop3Error MailServer α}
    (refines : ∀ messageId, Refines (operation messageId) (ideal messageId))
    (ids : List UInt32) :
    Refines (Partner.many operation ids) (many ideal ids) := by
  rw [many, checkNumbers_eq]
  exact .bind (.ofResult _) (fun _ => sequentially_refines refines ids)
    fun _ _ gone => gone.elim

/-- What is looked up may be processed further. -/
theorem lookUp_bind_pure (read : Mailbox → Option α) (process : α → β) :
    (do
      let value ← lookUp read
      return process value) = lookUp fun mailbox => (read mailbox).map process := by
  funext server
  have processed : (if server.choice.refuses then none
      else (read server.mailbox).map process) =
        (if server.choice.refuses then none else read server.mailbox).map process := by
    split <;> rfl
  unfold lookUp
  cases found : (if server.choice.refuses then none else read server.mailbox) with
  | none =>
      rw [found] at processed
      rw [bind_of_error (request_of_none found id), request_of_none processed]
  | some value =>
      rw [found] at processed
      rw [bind_of_ok (request_of_some found id), request_of_some processed]
      rfl

theorem unseenUids_refines (seen : UidSet) :
    Refines (partner.unseenUids seen) (unseenUids seen) := by
  have follows : Refines (partner.unseenUids seen) _ :=
    (uidl_refines none).bind (fun _ => .pure _) fun _ _ gone => gone.elim
  rwa [uidl, lookUp_bind_pure] at follows

theorem pruneSeen_refines (seen : UidSet) :
    Refines (partner.pruneSeen seen) (pruneSeen seen) := by
  have follows : Refines (partner.pruneSeen seen) _ :=
    (uidl_refines none).bind (fun _ => .pure _) fun _ _ gone => gone.elim
  rwa [uidl, lookUp_bind_pure] at follows

theorem fetchEach_refines (entries : List UidlEntry) :
    Refines (partner.fetchEach entries)
      (entries.mapM fun entry => do
        let message ← retr entry.messageId
        return (entry, message)) := by
  induction entries with
  | nil => exact .pure []
  | cons entry entries inductionHypothesis =>
      rw [List.mapM_cons, bind_assoc]
      refine (retr_refines entry.messageId).bind (fun message => ?_)
        fun _ _ gone => gone.elim
      exact inductionHypothesis.bind (fun _ => .pure _) fun _ _ gone => gone.elim

theorem fetchUnseen_refines (seen : UidSet) :
    Refines (partner.fetchUnseen seen) (fetchUnseen seen) :=
  (unseenUids_refines seen).bind (fun entries => fetchEach_refines entries)
    fun _ _ gone => gone.elim

/-- A value that is wrapped at the end. -/
theorem wrapped
    {action : Action Pop3Error (Dialogue MailServer) α}
    {ideal : Action Pop3Error MailServer α}
    (refines : Refines action ideal)
    (wrap : α → Value) :
    Refines (do return wrap (← action)) (do return wrap (← ideal)) :=
  refines.bind (fun _ => .pure _) fun _ _ gone => gone.elim

/-- What a call comes to with the server is what it comes to with the mailbox. -/
theorem perform_refines :
    ∀ call : Call, call.isMailbox = true → Refines (partner.perform call) (perform call)
  | .capa, mailbox | .stls _, mailbox | .login _ _, mailbox
  | .apop _ _, mailbox => by cases mailbox
  | .stat, _ => wrapped stat_refines _
  | .list messageId, _ => wrapped (list_refines messageId) _
  | .uidl messageId, _ => wrapped (uidl_refines messageId) _
  | .retr messageId, _ => wrapped (retr_refines messageId) _
  | .top messageId count, _ => wrapped (top_refines messageId count) _
  | .dele messageId, _ => wrapped (dele_refines messageId) fun _ => .done
  | .rset, _ => wrapped rset_refines fun _ => .done
  | .noop, _ => wrapped noop_refines fun _ => .done
  | .retrMany ids, _ => wrapped (many_refines retr_refines ids) _
  | .deleMany ids, _ => wrapped (many_refines dele_refines ids) _
  | .unseenUids seen, _ => wrapped (unseenUids_refines seen) _
  | .fetchUnseen seen, _ => wrapped (fetchUnseen_refines seen) _
  | .pruneSeen seen, _ => wrapped (pruneSeen_refines seen) _

end MailServer

/-! ## Runs -/

theorem Call.isCommand_of_isMailbox {call : Call} (mailbox : call.isMailbox = true) :
    call.isCommand = true := by
  cases call with
  | stls | login | apop | capa => cases mailbox
  | _ => rfl

/-- In calm weather, whatever calls a client makes, each of them returns what the
mailbox answers, changes its marks as the mailbox says, and leaves nothing
unread. -/
theorem runs_refine_mailbox [Md5]
    {client : Pop3Client MailServer}
    {dialogue : Dialogue MailServer}
    (inSync : InSync calm client dialogue)
    {calls : List Call}
    (mailbox : ∀ call ∈ calls, call.isMailbox = true) :
    List.Forall₂
      (fun outcome expected =>
        outcome.1 = expected.1 ∧ outcome.2.transport.net.server = expected.2 ∧
          outcome.2.transport.pending = [])
      (Call.runs calls client) (MailServer.runs calls dialogue.server) := by
  induction calls generalizing client dialogue with
  | nil => exact .nil
  | cons call calls inductionHypothesis =>
      have isMailbox := mailbox call List.mem_cons_self
      have follows : Follows (InSync calm) (clientMishaps calm) call.run
          (MailServer.partner.perform call) :=
        call.follows rfl MailServer.isClear (Call.isCommand_of_isMailbox isMailbox)
      rw [clientMishaps_calm] at follows
      obtain ⟨answered, inSync'⟩ := (follows dialogue).of_none inSync
      obtain ⟨expected, server⟩ :=
        (MailServer.perform_refines call isMailbox dialogue.server).of_none rfl
      have rest := inductionHypothesis inSync'
        fun other member => mailbox other (List.mem_cons_of_mem _ member)
      rw [server] at rest
      refine .cons ⟨answered.trans expected, ?_, inSync'.shows.pending⟩ rest
      exact inSync'.shows.server.trans server

/-- A mailbox with one message, whose second line starts with a dot. -/
def smallMailbox : Mailbox where
  mails := [
    { uniqueId := "a1".toList
      size := 12
      lines := [⟨"To: me".toList, by decide, by decide⟩, ⟨".sig".toList, by decide, by decide⟩]
      isUniqueId := ⟨by decide, by simp⟩ } ]
  marks := ∅
  countFits := by decide
  sizeFits := by decide

/-- Its server, which refuses what it refuses for the time being. -/
def smallServer : MailServer where
  mailbox := smallMailbox
  choices _ :=
    { positive := ⟨"done".toList, by decide, by decide⟩
      negative := ⟨"[SYS/TEMP] later".toList, by decide, by decide⟩ }

/-- In pieces of two bytes, with pipelining, the mailbox is read, marked and read again. -/
theorem runs_refine_smallMailbox :
    let calls := [Call.stat, .retrMany [1, 2], .dele 1, .uidl none]
    List.Forall₂
      (fun outcome expected =>
        outcome.1 = expected.1 ∧ outcome.2.transport.net.server = expected.2 ∧
          outcome.2.transport.pending = [])
      (@Call.runs _ _ emptyDigest calls
        (.idle smallServer (List.replicate 20 (.arrive 1)) true))
      (MailServer.runs calls smallServer) :=
  @runs_refine_mailbox emptyDigest _ { server := smallServer }
    (inSync_idle (by simp [ReadTick.Within]) smallServer true) _ (by decide)

end Pop3
