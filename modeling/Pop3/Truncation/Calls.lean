import Pop3.Truncation.Cutting

/-!
# Calls whose reply is cut off

A call of one command, `QUIT`, or an item of a batch: each reports an error when
the connection ends inside its reply, unless what has arrived looks whole.
-/

namespace Pop3

open Rust Framing Pop3Client

/-! ## Exchanges -/

/-- One command with its reply, and what is made of that. -/
structure Exchange where
  command : Str
  multiLine : Bool
  noFeed : '\n' ∉ command
  kind : isMultiLine (utf8 command) = multiLine
  parse : Str → Except Pop3Error Value

/-- An exchange whose command has a message id, which must not be zero. -/
def Exchange.about (messageId : UInt32) (exchange : Exchange) : Option Exchange :=
  if messageId = 0 then none else some exchange

/-- The exchange that a call consists of. -/
def Call.exchange : Call → Option Exchange
  | capa => some ⟨"CAPA".toList, true, by decide, by decide,
      fun body => .ok (.capabilities (parseCapa body))⟩
  | stat => some ⟨"STAT".toList, false, by decide, by decide,
      fun text => (parseStat text).map .stat⟩
  | list none => some ⟨"LIST".toList, true, by decide, by decide,
      fun body => (parseListMulti body).map .listing⟩
  | list (some messageId) => Exchange.about messageId
      ⟨commandFor "LIST ".toList messageId, false, noFeed_commandFor (by decide) _,
        isMultiLine_list _, fun text => ((parseListSingle text).map fun entry => [entry]).map .listing⟩
  | uidl none => some ⟨"UIDL".toList, true, by decide, by decide,
      fun body => (parseUidlMulti body).map .uids⟩
  | uidl (some messageId) => Exchange.about messageId
      ⟨commandFor "UIDL ".toList messageId, false, noFeed_commandFor (by decide) _,
        isMultiLine_uidl _, fun text => ((parseUidlSingle text).map fun entry => [entry]).map .uids⟩
  | retr messageId => Exchange.about messageId
      ⟨commandFor "RETR ".toList messageId, true, noFeed_commandFor (by decide) _,
        isMultiLine_retr _, fun data => .ok (.message { data })⟩
  | top messageId lines => Exchange.about messageId
      ⟨commandFor "TOP ".toList messageId ++ " ".toList ++ decimal lines.toNat, true,
        noFeed_top _ _, isMultiLine_top _ _, fun data => .ok (.message { data })⟩
  | dele messageId => Exchange.about messageId
      ⟨commandFor "DELE ".toList messageId, false, noFeed_commandFor (by decide) _,
        isMultiLine_dele _, fun _ => .ok .done⟩
  | rset => some ⟨"RSET".toList, false, by decide, by decide, fun _ => .ok .done⟩
  | noop => some ⟨"NOOP".toList, false, by decide, by decide, fun _ => .ok .done⟩
  | _ => none

theorem Exchange.of_about
    {messageId : UInt32}
    {exchange found : Exchange}
    (about : exchange.about messageId = some found) :
    messageId ≠ 0 ∧ found = exchange := by
  unfold Exchange.about at about
  split at about
  · cases about
  · rename_i valid
    exact ⟨valid, (Option.some.inj about).symm⟩

section Exchanges

variable [Server σ]

/-- The reply of the transport to a command, behind its status line too if it has a body. -/
def Exchange.reply (exchange : Exchange) : ClientM σ Str :=
  if exchange.multiLine then do
    let _ ← sendAndCheck exchange.command
    readBody
  else sendAndCheck exchange.command

/-- The exchange itself. -/
def Exchange.run (exchange : Exchange) : ClientM σ Value := do
  let text ← exchange.reply
  ofResult (exchange.parse text)

theorem Exchange.run_of_multiLine
    {exchange : Exchange}
    (multi : exchange.multiLine = true) :
    (exchange.run : ClientM σ Value) = (do
      let _ ← sendAndCheck exchange.command
      let body ← readBody
      ofResult (exchange.parse body)) := by
  rw [run, reply, if_pos multi, bind_assoc]

theorem Exchange.run_of_single
    {exchange : Exchange}
    (single : exchange.multiLine = false) :
    (exchange.run : ClientM σ Value) = (do
      let text ← sendAndCheck exchange.command
      ofResult (exchange.parse text)) := by
  rw [run, reply, if_neg (by simp [single])]

/-- A call does its exchange. -/
theorem Call.run_eq_exchange [Md5]
    {call : Call}
    {exchange : Exchange}
    (consists : call.exchange = some exchange)
    {client : Pop3Client σ}
    (allowed : call = .capa ∨ client.state = .authenticated) :
    call.run client = exchange.run client := by
  cases call with
  | capa =>
      cases consists
      rw [Exchange.run_of_multiLine rfl, Call.run, Pop3Client.capa]
      simp only [bind_assoc]
      rfl
  | stat =>
      cases consists
      rw [Exchange.run_of_single rfl, Call.run, Pop3Client.stat, bind_assoc,
        requireAuth_bind (by simpa using allowed)]
      simp only [bind_assoc, ofResult_bind_pure]
  | list messageId =>
      rw [Call.run]
      unfold Pop3Client.list
      rw [bind_assoc, requireAuth_bind (by simpa using allowed)]
      cases messageId with
      | none =>
          cases consists
          rw [Exchange.run_of_multiLine rfl]
          simp only [bind_assoc, ofResult_bind_pure]
      | some messageId =>
          obtain ⟨valid, rfl⟩ := Exchange.of_about consists
          rw [Exchange.run_of_single rfl]
          dsimp only
          rw [validateMessageId_of_ne valid]
          simp only [ofResult_ok_bind, bind_assoc, ofResult_bind_pure]
  | uidl messageId =>
      rw [Call.run]
      unfold Pop3Client.uidl
      rw [bind_assoc, requireAuth_bind (by simpa using allowed)]
      cases messageId with
      | none =>
          cases consists
          rw [Exchange.run_of_multiLine rfl]
          simp only [bind_assoc, ofResult_bind_pure]
      | some messageId =>
          obtain ⟨valid, rfl⟩ := Exchange.of_about consists
          rw [Exchange.run_of_single rfl]
          dsimp only
          rw [validateMessageId_of_ne valid]
          simp only [ofResult_ok_bind, bind_assoc, ofResult_bind_pure]
  | retr messageId =>
      obtain ⟨valid, rfl⟩ := Exchange.of_about consists
      rw [Exchange.run_of_multiLine rfl, Call.run, Pop3Client.retr, bind_assoc,
        requireAuth_bind (by simpa using allowed), validateMessageId_of_ne valid]
      simp only [ofResult_ok_bind, bind_assoc, pure_bind]
      rfl
  | top messageId lines =>
      obtain ⟨valid, rfl⟩ := Exchange.of_about consists
      rw [Exchange.run_of_multiLine rfl, Call.run, Pop3Client.top, bind_assoc,
        requireAuth_bind (by simpa using allowed), validateMessageId_of_ne valid]
      simp only [ofResult_ok_bind, bind_assoc, pure_bind]
      rfl
  | dele messageId =>
      obtain ⟨valid, rfl⟩ := Exchange.of_about consists
      rw [Exchange.run_of_single rfl, Call.run, Pop3Client.dele, bind_assoc,
        requireAuth_bind (by simpa using allowed), validateMessageId_of_ne valid]
      simp only [ofResult_ok_bind, bind_assoc, pure_bind]
      rfl
  | rset =>
      cases consists
      rw [Exchange.run_of_single rfl, Call.run, Pop3Client.rset, bind_assoc,
        requireAuth_bind (by simpa using allowed)]
      simp only [bind_assoc, pure_bind]
      rfl
  | noop =>
      cases consists
      rw [Exchange.run_of_single rfl, Call.run, Pop3Client.noop, bind_assoc,
        requireAuth_bind (by simpa using allowed)]
      simp only [bind_assoc, pure_bind]
      rfl
  | _ => cases consists

/-- On the view, the reply is read behind the command. -/
def Exchange.read (exchange : Exchange) : Action Pop3Error (View σ) Value := do
  let text ← if exchange.multiLine then View.readReply else View.readStatus
  ofResult (exchange.parse text)

/-- Where nothing is lost, a command is sent and its status line is read. -/
theorem status_follows_view (command : Str) (noFeed : '\n' ∉ command) :
    Follows (Shows calm) (mishaps calm)
      (do
        Transport.sendCommand command
        let line ← Transport.readLine
        ofResult (parseStatusLine line))
      ((View.partner : Partner (View σ)).status command) :=
  fun _ => exchange_gives noFeed fun lossy => absurd lossy Bool.false_ne_true

omit [Server σ] in
theorem preserves_calm_gone (action : Action ε (Transport σ) α) :
    Preserves (mishaps calm).gone action :=
  fun _ gone => absurd gone.1 Bool.false_ne_true

/-- An exchange returns what is read behind its command. -/
theorem Exchange.returned_run
    (exchange : Exchange)
    {client : Pop3Client σ}
    {view : View σ}
    (shown : Shows calm client.transport view) :
    returned (exchange.run client) = returned (exchange.read (view.hear exchange.command)) := by
  have status : Follows (Shows calm) (mishaps calm) _
      ((View.partner : Partner (View σ)).status exchange.command) :=
    status_follows_view exchange.command exchange.noFeed
  unfold read
  cases multi : exchange.multiLine with
  | false =>
      have follows := status.bind (fun text => .ofResult (exchange.parse text))
        fun _ => preserves_calm_gone _
      rw [mishaps_calm] at follows
      rw [run_of_single multi, sendAndCheck_eq]
      simp only [← Field.run_ofResult transportField, ← Field.run_bind, Field.returned_run]
      exact ((follows view).of_none shown).1
  | true =>
      have follows := status.bind
        (fun _ => (readMultiline_follows calm).bind
          (fun body => .ofResult (exchange.parse body)) fun _ => preserves_calm_gone _)
        fun _ => preserves_calm_gone _
      rw [mishaps_calm] at follows
      rw [run_of_multiLine multi, sendAndCheck_eq, readBody]
      simp only [← Field.run_ofResult transportField, ← Field.run_bind, Field.returned_run]
      refine Eq.trans ((follows view).of_none shown).1 ?_
      rw [View.readReply]
      simp only [bind_assoc, ↓reduceIte]
      rfl

end Exchanges

/-! ## Cut off -/

section CutOff

variable [AnsweringServer σ] {client : Pop3Client (Cutting σ)} {dialogue : Dialogue σ}
  {complete kept : Nat}

/-- An exchange fails on a reply that is cut off, unless what has arrived looks whole. -/
theorem Exchange.isError_iff
    (shown : Shows calm client.transport (dialogue.cutting 0 kept))
    (exchange : Exchange)
    (plain : exchange.multiLine = true → (dialogue.ask exchange.command).1.IsPlain)
    (proper : kept < ((dialogue.ask exchange.command).1.encode exchange.multiLine).length) :
    IsError (returned (exchange.run client)) ↔
      ¬LooksWhole exchange.multiLine (dialogue.ask exchange.command).1
        (fun text => (exchange.parse text).isOk)
        (((dialogue.ask exchange.command).1.encode exchange.multiLine).take kept) := by
  obtain ⟨closed, left⟩ := hear_of_cut dialogue kept exchange.kind []
  rw [List.nil_append] at left
  rw [exchange.returned_run shown, read]
  cases multi : exchange.multiLine with
  | false =>
      rw [multi] at left proper
      have fails := fails_readStatus_iff closed proper left exchange.parse
      rw [left] at fails
      exact fails
  | true =>
      rw [multi] at left proper
      have fails := fails_readReply_iff (plain multi) closed proper left exchange.parse
      rw [left] at fails
      exact fails

/-- `QUIT` is an exchange, too. -/
def quitExchange : Exchange :=
  ⟨"QUIT".toList, false, by decide, by decide, fun _ => .ok .done⟩

theorem isError_quit [Server τ] (client : Pop3Client τ) :
    IsError (returned (quit client)) ↔ IsError (returned (quitExchange.run client)) := by
  have sends : (quit : ClientM τ Unit) = (do
      let _ ← sendAndCheck "QUIT".toList
      modify fun client => { client with transport := client.transport.setClosed }) := by
    simp only [quit, sendAndCheck, bind_assoc]
  have once : (quitExchange.run : ClientM τ Value) = (do
      let _ ← sendAndCheck "QUIT".toList
      ofResult (.ok .done)) := Exchange.run_of_single rfl
  rw [sends, once]
  cases run : sendAndCheck "QUIT".toList client with
  | ok text after =>
      rw [bind_of_ok run, bind_of_ok run]
      exact iff_of_false (fun failed => nomatch failed) fun failed => nomatch failed
  | error error after =>
      rw [bind_of_error run, bind_of_error run]
      exact iff_of_true ⟨error, rfl⟩ ⟨error, rfl⟩

/-- A batch reports the item whose reply is cut off. -/
theorem many_reports
    {multiLine : Bool}
    {verb : Str}
    {receive : Action Pop3Error (View (Cutting σ)) α}
    {result : Answer → Except Pop3Error α}
    {answer : Answer}
    (shown : Shows calm client.transport (dialogue.cutting complete kept))
    (isAuthenticated : client.state = .authenticated)
    (receives : Receives multiLine receive result)
    (cuts : FailsOnCuts multiLine receive)
    (kind : ∀ messageId, isMultiLine (utf8 (commandFor verb messageId)) = multiLine)
    {ideal : UInt32 → Action Pop3Error (View (Cutting σ)) α}
    {ids : List UInt32}
    (valid : ∀ messageId ∈ ids, messageId ≠ 0)
    (asks : ∀ messageId ∈ ids, ∀ view,
      ideal messageId view = receive (view.hear (commandFor verb messageId)))
    {sequential inPipeline : List UInt32 → ClientM (Cutting σ) (Items α)}
    (first : Follows (Serves calm) Escapes.none (sequential ids) (sequentially ideal ids))
    (second : Follows (Serves calm) Escapes.none (inPipeline ids)
      (pipelined (View.hearWindow verb) receive (chunks pipelineWindow ids)))
    (found : (Dialogue.askAll (ids.map (commandFor verb)) dialogue).1[complete]? = some answer)
    (readable : ∀ earlier ∈
      (Dialogue.askAll (ids.map (commandFor verb)) dialogue).1.take complete,
      earlier.IsReadable multiLine)
    (plain : multiLine = true → answer.IsPlain)
    (proper : kept < (answer.encode multiLine).length) :
    ∃ items, returned (many sequential inPipeline ids client) = .ok items ∧
      ReportsCut multiLine answer kept complete items := by
  have serves : Serves calm client (dialogue.cutting complete kept) := ⟨shown, isAuthenticated⟩
  have nonempty : ids ≠ [] := by
    rintro rfl
    simp [Dialogue.askAll] at found
  rw [many, requireAuth_bind isAuthenticated, (validateMessageIds_eq_ok_iff ids).mpr valid,
    ofResult_ok_bind, if_neg nonempty, gets_bind_apply]
  split
  · rw [((second _).of_none serves).1]
    apply pipelined_reports receives cuts kind
    · rw [chunks_flatten]
      exact found
    · rw [chunks_flatten]
      exact readable
    · exact plain
    · exact proper
  · rw [((first _).of_none serves).1]
    exact sequentially_reports receives cuts asks kind found readable plain proper

theorem retrMany_reports
    {answer : Answer}
    (shown : Shows calm client.transport (dialogue.cutting complete kept))
    (isAuthenticated : client.state = .authenticated)
    {ids : List UInt32}
    (valid : ∀ messageId ∈ ids, messageId ≠ 0)
    (found : (Dialogue.askAll (ids.map (commandFor "RETR ".toList)) dialogue).1[complete]? =
      some answer)
    (readable : ∀ earlier ∈
      (Dialogue.askAll (ids.map (commandFor "RETR ".toList)) dialogue).1.take complete,
      earlier.IsReadable true)
    (plain : answer.IsPlain)
    (proper : kept < (answer.encode true).length) :
    ∃ items, returned (retrMany ids client) = .ok items ∧
      ReportsCut true answer kept complete items := by
  exact many_reports shown isAuthenticated receives_retr failsOnCuts_retr isMultiLine_retr valid
    (fun messageId member => retr_hear (valid messageId member)) (sequentially_retr_follows ids)
    (retrManyPipelined_follows ids) found readable (fun _ => plain) proper

theorem deleMany_reports
    {answer : Answer}
    (shown : Shows calm client.transport (dialogue.cutting complete kept))
    (isAuthenticated : client.state = .authenticated)
    {ids : List UInt32}
    (valid : ∀ messageId ∈ ids, messageId ≠ 0)
    (found : (Dialogue.askAll (ids.map (commandFor "DELE ".toList)) dialogue).1[complete]? =
      some answer)
    (proper : kept < (answer.encode false).length) :
    ∃ items, returned (deleMany ids client) = .ok items ∧
      ReportsCut false answer kept complete items := by
  exact many_reports shown isAuthenticated receives_dele failsOnCuts_dele isMultiLine_dele valid
    (fun messageId member => dele_hear (valid messageId member)) (sequentially_dele_follows ids)
    (deleManyPipelined_follows ids) found (fun _ _ => Answer.isReadable_single _)
    (fun multi => nomatch multi) proper

/-- When the connection ends inside a reply whose body has no CR or LF of its own in a
line, the call, `QUIT` or the item of a batch that reads it is an error, exactly when what
has arrived does not look whole. -/
theorem reported_iff_not_looksWhole [Md5]
    (shown : Shows calm client.transport (dialogue.cutting complete kept)) :
    (complete = 0 → ∀ call exchange, Call.exchange call = some exchange →
      (call = .capa ∨ client.state = .authenticated) →
      (exchange.multiLine = true → (dialogue.ask exchange.command).1.IsPlain) →
      kept < ((dialogue.ask exchange.command).1.encode exchange.multiLine).length →
      (IsError (returned (call.run client)) ↔
        ¬LooksWhole exchange.multiLine (dialogue.ask exchange.command).1
          (fun text => (exchange.parse text).isOk)
          (((dialogue.ask exchange.command).1.encode exchange.multiLine).take kept))) ∧
    (complete = 0 → kept < ((dialogue.ask "QUIT".toList).1.encode false).length →
      (IsError (returned (quit client)) ↔
        ¬LooksWhole false (dialogue.ask "QUIT".toList).1 (fun _ => true)
          (((dialogue.ask "QUIT".toList).1.encode false).take kept))) ∧
    (client.state = .authenticated → ∀ ids answer, (∀ messageId ∈ ids, messageId ≠ 0) →
      (Dialogue.askAll (ids.map (commandFor "RETR ".toList)) dialogue).1[complete]? =
        some answer →
      (∀ earlier ∈
        (Dialogue.askAll (ids.map (commandFor "RETR ".toList)) dialogue).1.take complete,
        earlier.IsReadable true) →
      answer.IsPlain → kept < (answer.encode true).length →
      ∃ items, returned (retrMany ids client) = .ok items ∧
        ReportsCut true answer kept complete items) ∧
    (client.state = .authenticated → ∀ ids answer, (∀ messageId ∈ ids, messageId ≠ 0) →
      (Dialogue.askAll (ids.map (commandFor "DELE ".toList)) dialogue).1[complete]? =
        some answer →
      kept < (answer.encode false).length →
      ∃ items, returned (deleMany ids client) = .ok items ∧
        ReportsCut false answer kept complete items) := by
  refine ⟨?_, ?_, ?_, ?_⟩
  · rintro rfl call exchange consists allowed plain proper
    rw [Call.run_eq_exchange consists allowed]
    exact exchange.isError_iff shown plain proper
  · rintro rfl proper
    rw [isError_quit]
    exact quitExchange.isError_iff shown (fun multi => nomatch multi) proper
  · intro isAuthenticated ids answer valid found readable plain proper
    exact retrMany_reports shown isAuthenticated valid found readable plain proper
  · intro isAuthenticated ids answer valid found proper
    exact deleMany_reports shown isAuthenticated valid found proper

end CutOff

/-- A server whose reply to any command is cut off. -/
def statusCut (kept : Nat) : Cutting SameAnswer where
  server := { answer := ⟨true, ⟨"12 34".toList, by decide, by decide⟩, []⟩ }
  complete := 0
  kept

theorem shows_statusCut (kept : Nat) :
    Shows calm (Pop3Client.idle (statusCut kept) [] false).transport
      (Dialogue.cutting 0 kept { server := (statusCut kept).server }) :=
  (inSync_idle (by simp) (statusCut kept) false).shows

/-- A number that is cut off is returned as if it were complete. -/
theorem exists_cut_not_reported :
    ¬∀ (client : Pop3Client (Cutting SameAnswer)) (dialogue : Dialogue SameAnswer) (kept : Nat),
      Shows calm client.transport (dialogue.cutting 0 kept) → client.state = .authenticated →
      ∀ call exchange, Call.exchange call = some exchange →
        kept < ((dialogue.ask exchange.command).1.encode exchange.multiLine).length →
        IsError (returned (@Call.run _ _ emptyDigest call client)) := by
  intro always
  obtain ⟨error, failed⟩ :=
    always _ _ 8 (shows_statusCut 8) rfl .stat _ rfl (by decide +kernel)
  have found : returned (@Call.run _ _ emptyDigest .stat
      (Pop3Client.idle (statusCut 8) [] false)) = .ok (.stat ⟨12, 3⟩) := by
    decide +kernel
  rw [found] at failed
  cases failed

theorem reported_iff_not_looksWhole_statusCut :
    IsError (returned (@Call.run _ _ emptyDigest .stat
        (Pop3Client.idle (statusCut 8) [] false))) ↔
      ¬LooksWhole false (statusCut 8).server.answer
        (fun text => ((parseStat text).map Value.stat).isOk)
        (((statusCut 8).server.answer.encode false).take 8) :=
  (@reported_iff_not_looksWhole _ _ _ _ _ _ emptyDigest (shows_statusCut 8)).1 rfl .stat _ rfl
    (.inr rfl) (fun _ => (statusCut 8).server.plain) (by decide +kernel)

end Pop3
