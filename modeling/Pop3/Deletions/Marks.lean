import Pop3.Deletions.Sessions
import Pop3.Pruning

/-!
# Marks of a session in step

While a client is in step with its server, its results say what is marked; and a
session that is ended with success has deleted exactly that.
-/

namespace Pop3

open Rust Pop3Client

/-- The bytes of an answer say whether it is positive. -/
theorem Answer.isPositive_encode (multiLine : Bool) (answer : Answer) :
    IsPositive (answer.encode multiLine) ↔ answer.isPositive = true := by
  unfold encode status IsPositive
  cases answer.isPositive with
  | true =>
      rw [if_pos rfl, utf8_append, utf8_append, List.append_assoc, List.append_assoc]
      exact iff_of_true (List.prefix_append _ _) rfl
  | false =>
      refine iff_of_false ?_ Bool.false_ne_true
      rintro ⟨rest, same⟩
      have ok : utf8 "+OK".toList = [43, 79, 75] := by decide
      have err : utf8 "-ERR".toList = [45, 69, 82, 82] := by decide
      rw [if_neg Bool.false_ne_true, utf8_append, utf8_append, ok, err] at same
      simp at same

/-! ## Marks -/

theorem parse_quit : Request.parse (utf8 "QUIT".toList) = none :=
  Request.parse_keyword "QUIT".toList (by decide)

namespace Deletions

variable {deletions : Deletions} {command reply : List UInt8}

theorem hear_of_refused (refused : ¬IsPositive reply) :
    deletions.hear (.answered command reply) = deletions := by
  rw [hear, if_neg refused]

theorem hear_dele (positive : IsPositive reply) (messageId : UInt32) :
    deletions.hear (.answered (utf8 (commandFor "DELE ".toList messageId)) reply) =
      { deletions with marks := deletions.marks ++ [messageId] } := by
  have parsed : Request.parse (utf8 (commandFor "DELE ".toList messageId)) =
      some (.dele messageId) :=
    Request.parse_command (.dele messageId)
  have noQuit : utf8 (commandFor "DELE ".toList messageId) ≠ utf8 "QUIT".toList := by
    intro same
    rw [same, parse_quit] at parsed
    cases parsed
  rw [hear, if_pos positive, if_neg noQuit, parsed]

theorem hear_quit (positive : IsPositive reply) :
    deletions.hear (.answered (utf8 "QUIT".toList) reply) =
      { marks := [], committed := deletions.marks } := by
  rw [hear, if_pos positive, if_pos rfl]

/-- Only `RSET` and `QUIT` remove marks. -/
theorem marks_subset_hear
    (noQuit : command ≠ utf8 "QUIT".toList)
    (noRset : Request.parse command ≠ some .rset) :
    deletions.marks ⊆ (deletions.hear (.answered command reply)).marks := by
  by_cases positive : IsPositive reply
  · rw [hear, if_pos positive, if_neg noQuit]
    cases parsed : Request.parse command with
    | none => exact List.Subset.refl _
    | some request =>
        cases request with
        | dele messageId => exact List.subset_append_left _ _
        | rset => exact absurd parsed noRset
        | _ => exact List.Subset.refl _
  · rw [hear_of_refused positive]
    exact List.Subset.refl _

theorem marks_subset_ofTrace
    {trace events : List Event}
    (spared : ∀ command ∈ heardCommands events,
      command ≠ utf8 "QUIT".toList ∧ Request.parse command ≠ some .rset) :
    (ofTrace trace).marks ⊆ (ofTrace (trace ++ events)).marks := by
  induction events using List.reverseRecOn with
  | nil =>
      rw [List.append_nil]
      exact List.Subset.refl _
  | append_singleton events event inductionHypothesis =>
      have before := inductionHypothesis fun command member =>
        spared command (by rw [heardCommands_append]; exact List.mem_append_left _ member)
      rw [← List.append_assoc, ofTrace_append]
      cases event with
      | wrote | consumed | timedOut => exact before
      | answered command reply =>
          obtain ⟨noQuit, noRset⟩ := spared command (by simp [heardCommands])
          exact List.Subset.trans before (marks_subset_hear noQuit noRset)

/-- Marks are a matter of the dialogue. -/
theorem ofTrace_filter (trace : List Event) :
    ofTrace (trace.filter Event.isNoted) = ofTrace trace := by
  induction trace using List.reverseRecOn with
  | nil => rfl
  | append_singleton trace event inductionHypothesis =>
      rw [List.filter_append, ofTrace_append, ← inductionHypothesis]
      cases event with
      | wrote | consumed => exact congrArg ofTrace (List.append_nil _)
      | answered | timedOut => exact ofTrace_append _ _

end Deletions

/-- The client has the marks that were noted. -/
theorem Pop3Client.deletions_eq_of_shows
    {weather : Weather}
    {client : Pop3Client σ}
    {view : View σ}
    (shown : Shows weather client.transport view) :
    client.deletions = .ofTrace view.log := by
  rw [← shown.log, Deletions.ofTrace_filter]
  rfl

/-! ## Calls that leave the marks -/

section Calls

variable [Server σ] [Md5] {call : Call}

omit [Server σ] [Md5] in
theorem Call.Asks.spares
    {command : Str}
    (asks : call.Asks command)
    (spares : call ≠ .rset) :
    utf8 command ≠ utf8 "QUIT".toList ∧ Request.parse (utf8 command) ≠ some .rset := by
  rcases asks with rfl | ⟨request, rfl, rset, _⟩
  · rw [parse_capa]
    exact ⟨by decide, nofun⟩
  · constructor
    · intro same
      have parsed := Request.parse_command request
      rw [same, parse_quit] at parsed
      cases parsed
    · rw [Request.parse_command]
      intro same
      exact spares (rset (Option.some.inj same))

/-- Every other call leaves the marks that there are, whatever it comes to. -/
theorem Call.marks_subset
    (command : call.isCommand = true)
    (spares : call ≠ .rset)
    {client : Pop3Client σ}
    (lined : Lined client.transport) :
    client.deletions.marks ⊆ (finalState (call.run client)).deletions.marks := by
  have grows : Lasting (fun _ _ => True) fun trace => client.transport.net.trace <+: trace :=
    lasting_begins _
  have grown : Observed _ _ (finalState (call.run client)).transport :=
    (call.program_run command).preserves grows.steps client ⟨trivial, List.prefix_rfl⟩
  obtain ⟨events, all⟩ := grown.trace
  obtain ⟨commands, means, told⟩ := call.told client
  obtain ⟨_, heard, among, _, same⟩ := told.heard lined
  rw [← all, heardCommands_append] at same
  unfold deletions
  rw [← all]
  refine Deletions.marks_subset_ofTrace fun text member => ?_
  rw [List.append_cancel_left same] at member
  obtain ⟨text, isSome, rfl⟩ := List.mem_map.mp member
  exact (Call.asks_of_means command means text (among.subset isSome)).spares spares

end Calls

/-! ## Results and marks -/

/-- The messages of a batch that are marked, as its items have it. -/
def accepted : List UInt32 → Items Unit → List UInt32
  | messageId :: ids, item :: items =>
      (if item.isOk then [messageId] else []) ++ accepted ids items
  | _, _ => []

namespace Dialogue

variable [AnsweringServer σ]

/-- The messages that are marked in a dialogue. -/
def marks (dialogue : Dialogue σ) : List UInt32 := (Deletions.ofTrace dialogue.log).marks

theorem isOk_deleResult (answer : Answer) : (deleResult answer).isOk = answer.isPositive := by
  unfold deleResult Answer.statusResult
  cases answer.isPositive <;> rfl

theorem ofTrace_ask (dialogue : Dialogue σ) (command : Str) :
    Deletions.ofTrace (dialogue.ask command).2.log =
      (Deletions.ofTrace dialogue.log).hear (.answered (utf8 command)
        ((dialogue.ask command).1.encode (isMultiLine (utf8 command)))) :=
  Deletions.ofTrace_append _ _

/-- `DELE` marks its message if the answer is positive. -/
theorem marks_ask_dele (dialogue : Dialogue σ) (messageId : UInt32) :
    (dialogue.ask (commandFor "DELE ".toList messageId)).2.marks =
      dialogue.marks ++
        if (deleResult (dialogue.ask (commandFor "DELE ".toList messageId)).1).isOk then
          [messageId] else [] := by
  have positive := (dialogue.ask (commandFor "DELE ".toList messageId)).1.isPositive_encode
    (isMultiLine (utf8 (commandFor "DELE ".toList messageId)))
  rw [marks, ofTrace_ask, isOk_deleResult]
  split
  · rename_i isPositive
    rw [Deletions.hear_dele (positive.mpr isPositive)]
    rfl
  · rename_i isNegative
    rw [Deletions.hear_of_refused (isNegative ∘ positive.mp), List.append_nil]
    rfl

theorem marks_askAll_dele (ids : List UInt32) (dialogue : Dialogue σ) :
    (askAll (ids.map (commandFor "DELE ".toList)) dialogue).2.marks =
      dialogue.marks ++
        accepted ids ((askAll (ids.map (commandFor "DELE ".toList)) dialogue).1.map deleResult) := by
  induction ids generalizing dialogue with
  | nil => exact (List.append_nil _).symm
  | cons messageId ids inductionHypothesis =>
      have rest := inductionHypothesis (dialogue.ask (commandFor "DELE ".toList messageId)).2
      rw [marks_ask_dele, List.append_assoc] at rest
      exact rest

/-- A message is marked when its deletion succeeds. -/
theorem mem_marks_dele
    {messageId : UInt32}
    {dialogue : Dialogue σ}
    (succeeds : returned (partner.dele messageId dialogue) = .ok ()) :
    messageId ∈ (finalState (partner.dele messageId dialogue)).marks := by
  by_cases valid : messageId = 0
  · rw [Partner.dele, validateMessageId, if_pos valid, ofResult_error_bind] at succeeds
    cases succeeds
  · obtain ⟨result, after⟩ := asks_dele messageId valid dialogue
    rw [result] at succeeds
    rw [after, marks_ask_dele, succeeds]
    exact List.mem_append_right _ List.mem_cons_self

/-- The messages of a batch are marked whose items say so. -/
theorem accepted_subset_marks
    {ids : List UInt32}
    {dialogue : Dialogue σ}
    {items : Items Unit}
    (succeeds : returned (Partner.many partner.dele ids dialogue) = .ok items) :
    accepted ids items ⊆ (finalState (Partner.many partner.dele ids dialogue)).marks := by
  unfold Partner.many at succeeds ⊢
  cases validated : validateMessageIds ids with
  | error error =>
      rw [validated, ofResult_error_bind] at succeeds
      cases succeeds
  | ok _ =>
      have valid := (validateMessageIds_eq_ok_iff ids).mp validated
      rw [validated, ofResult_ok_bind, sequentially_eq asks_dele valid] at succeeds
      rw [ofResult_ok_bind, sequentially_eq asks_dele valid]
      injection succeeds with same
      rw [← same, finalState_ok, marks_askAll_dele]
      exact List.subset_append_right _ _

/-- The marks stay when `RSET` is refused. -/
theorem marks_rset
    {dialogue : Dialogue σ}
    {error : Pop3Error}
    (refused : returned (partner.rset dialogue) = .error error) :
    (finalState (partner.rset dialogue)).marks = dialogue.marks := by
  unfold Partner.rset partner at refused ⊢
  dsimp only at refused ⊢
  cases negative : (dialogue.ask "RSET".toList).1.statusResult with
  | ok text =>
      rw [bind_of_ok (take_of_ok negative)] at refused
      cases refused
  | error other =>
      rw [bind_of_error (take_of_error negative), finalState_error, marks, ofTrace_ask]
      rw [Deletions.hear_of_refused]
      · rfl
      · rw [Answer.isPositive_encode]
        intro positive
        rw [Answer.statusResult, if_pos positive] at negative
        cases negative

end Dialogue

/-! ## Ending the session -/

/-- A line that is read is a beginning of what is pending. -/
theorem Transport.readLine_begins
    {transport after : Transport σ}
    (stream : transport.stream ≠ .upgrading)
    {line : Str}
    (reads : readLine transport = .ok line after) :
    utf8 line <+: transport.pending := by
  have agree := (meets_self stream).readLine
  rw [reads] at agree
  obtain ⟨left, line', _⟩ := agree.of_returned_ok
  refine List.IsPrefix.trans ?_ transport.arriving_begins_pending
  rcases Incoming.whole_or_last (Incoming.starts_of_readLine line').1 with
    ⟨_, _, _, bytes⟩ | ⟨_, bytes, _⟩
  · exact bytes ▸ List.prefix_append _ _
  · exact bytes ▸ List.prefix_rfl

/-- Reading a line is not noted, unless it fails. -/
theorem Transport.deletions_readLine
    {transport after : Transport σ}
    {line : Str}
    (reads : readLine transport = .ok line after) :
    Deletions.ofTrace after.net.trace = Deletions.ofTrace transport.net.trace := by
  obtain ⟨bytes, trace⟩ := trace_of_readLine reads
  rw [trace, Deletions.ofTrace_append]
  rfl

section Quitting

variable [Server σ] {client last : Pop3Client σ}

/-- What has happened when the session was ended with success. -/
theorem exists_of_quit
    (ends : quit client = .ok () last) :
    ∃ sent line read text,
      Transport.sendCommand "QUIT".toList client.transport = .ok () sent ∧
      Transport.readLine sent = .ok line read ∧ parseStatusLine line = .ok text ∧
      last.transport = read.setClosed := by
  rw [quit] at ends
  obtain ⟨_, middle, sends, goesOn⟩ := exists_of_bind_ok ends
  obtain ⟨sent, sending, rfl⟩ := Field.eq_of_run_ok sends
  obtain ⟨line, middle, reads, goesOn⟩ := exists_of_bind_ok goesOn
  obtain ⟨read, reading, rfl⟩ := Field.eq_of_run_ok reads
  cases parsed : parseStatusLine line with
  | error error =>
      rw [parsed, ofResult_error_bind] at goesOn
      cases goesOn
  | ok text =>
      rw [parsed, ofResult_ok_bind] at goesOn
      cases goesOn
      exact ⟨sent, line, read, text, sending, reading, parsed, rfl⟩

/-- A lost session is not ended with success. -/
theorem Dead.not_quit (dead : Dead client.transport) : quit client ≠ .ok () last := by
  intro ends
  obtain ⟨sent, line, read, text, sends, reads, _⟩ := exists_of_quit ends
  have still := survivesSteps_dead.send "QUIT".toList client.transport dead
  rw [sends, finalState_ok] at still
  obtain ⟨_, _, fails, _⟩ := still.readLine
  rw [reads] at fails
  cases fails

end Quitting

/-- When a session is ended with success, what was marked is deleted. -/
theorem InSync.committed_quit [AnsweringServer σ]
    {weather : Weather}
    {client last : Pop3Client σ}
    {dialogue : Dialogue σ}
    (inSync : InSync weather client dialogue)
    (ends : quit client = .ok () last) :
    last.deletions.committed = client.deletions.marks := by
  obtain ⟨sent, line, read, text, sends, reads, positive, same⟩ := exists_of_quit ends
  have gives : Gives (Shows weather) (mishaps weather) (Transport.sendCommand "QUIT".toList)
      dialogue.view (.ok ()) (dialogue.view.hear "QUIT".toList) :=
    sendCommand_gives (by decide) fun _ => rfl
  have outcome := gives client.transport inSync.shows
  rw [sends] at outcome
  rcases outcome with ⟨_, shown⟩ | ⟨_, fails, _⟩ | ⟨_, dead⟩
  · rw [finalState_ok] at shown
    have begins := Transport.readLine_begins shown.stream reads
    rw [shown.pending, Dialogue.hear_view] at begins
    obtain ⟨behind, rfl⟩ := prefix_of_parseStatusLine positive
    rw [utf8_append] at begins
    have isPositive : IsPositive _ := (List.prefix_append _ _).trans begins
    have heard : Deletions.ofTrace sent.net.trace =
        Deletions.ofTrace (dialogue.ask "QUIT".toList).2.log := by
      rw [← Deletions.ofTrace_filter, shown.log, Dialogue.hear_view]
      rfl
    have ended : last.deletions = Deletions.ofTrace (dialogue.ask "QUIT".toList).2.log := by
      rw [Pop3Client.deletions, same, ← heard, ← Transport.deletions_readLine reads]
      rfl
    rw [ended, Dialogue.ofTrace_ask, Deletions.hear_quit isPositive,
      Pop3Client.deletions_eq_of_shows inSync.shows]
    rfl
  · cases fails
  · rw [finalState_ok] at dead
    obtain ⟨_, _, fails, _⟩ := dead.readLine
    rw [reads] at fails
    cases fails

end Pop3
