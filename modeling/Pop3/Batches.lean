import Pop3.Operations

/-!
# Batches

One command at a time or window by window, a batch comes to the same: each
command gets its own answer, in order.
-/

namespace Pop3

open Rust Framing Pop3Client

/-! ## Loops -/

section Loops

variable {S T : Type} {shows : S → T → Prop} {escapes : Escapes Pop3Error S}
  {invariant : S → Prop}

theorem preserves_sequentially
    {operation : UInt32 → Action Pop3Error S α}
    (preserves : ∀ messageId, Preserves invariant (operation messageId))
    (ids : List UInt32) :
    Preserves invariant (sequentially operation ids) := by
  induction ids with
  | nil => exact .pure []
  | cons messageId ids inductionHypothesis =>
      exact .bind (.attempt (preserves messageId)) fun _ =>
        .bind inductionHypothesis fun _ => .pure _

/-- A batch itself does not fail. -/
theorem sequentially_isOk
    (operation : UInt32 → Action Pop3Error S α)
    (ids : List UInt32)
    (state : S) :
    ∃ items, returned (sequentially operation ids state) = .ok items := by
  induction ids generalizing state with
  | nil => exact ⟨[], rfl⟩
  | cons messageId ids inductionHypothesis =>
      obtain ⟨items, rest⟩ := inductionHypothesis (finalState (operation messageId state))
      rw [sequentially, bind_of_ok (attempt_apply _ _), bind_of_ok (eq_ok_of_returned rest)]
      exact ⟨_, rfl⟩

/-- The receive phase of a window itself does not fail. -/
theorem drainWindow_isOk
    (receive : Action Pop3Error S α)
    (window : List UInt32)
    (state : S) :
    ∃ drained, returned (drainWindow receive window state) = .ok drained := by
  induction window generalizing state with
  | nil => exact ⟨_, rfl⟩
  | cons messageId window inductionHypothesis =>
      obtain ⟨drained, rest⟩ := inductionHypothesis (finalState (receive state))
      rw [drainWindow, bind_of_ok (attempt_apply _ _)]
      cases returned (receive state) with
      | ok value =>
          dsimp only
          rw [bind_of_ok (eq_ok_of_returned rest)]
          exact ⟨_, rfl⟩
      | error error =>
          dsimp only
          split
          · exact ⟨_, rfl⟩
          · rw [bind_of_ok (eq_ok_of_returned rest)]
            exact ⟨_, rfl⟩

/-- A response without an I/O-level error is recorded, and the loop goes on. -/
theorem drainWindow_goesOn
    {receive : Action Pop3Error S α}
    {result : Except Pop3Error α}
    {state : S}
    (reads : returned (receive state) = result)
    (serverLevel : ∀ error, result = .error error → isIoLevel error = false)
    (messageId : UInt32)
    (window : List UInt32) :
    drainWindow receive (messageId :: window) state =
      (do
        let drained ← drainWindow receive window
        return (result :: drained.1, drained.2) : Action Pop3Error S _)
        (finalState (receive state)) := by
  rw [drainWindow, bind_of_ok (attempt_apply _ _), reads]
  cases result with
  | ok value => rfl
  | error error =>
      dsimp only
      rw [serverLevel error rfl]
      rfl

/-- An I/O-level error ends the loop. -/
theorem drainWindow_stops
    {receive : Action Pop3Error S α}
    {error : Pop3Error}
    {state : S}
    (fails : returned (receive state) = .error error)
    (ioLevel : isIoLevel error = true)
    (messageId : UInt32)
    (window : List UInt32) :
    drainWindow receive (messageId :: window) state =
      .ok ([], false) (finalState (receive state)) := by
  rw [drainWindow, bind_of_ok (attempt_apply _ _), fails]
  dsimp only
  rw [ioLevel]
  rfl

/-- A pipelined batch itself does not fail. -/
theorem pipelined_isOk
    (send : List UInt32 → Action IoError S Unit)
    (receive : Action Pop3Error S α)
    (windows : List (List UInt32))
    (state : S) :
    ∃ items, returned (pipelined send receive windows state) = .ok items := by
  induction windows generalizing state with
  | nil => exact ⟨_, rfl⟩
  | cons window windows inductionHypothesis =>
      rw [pipelined, bind_of_ok (attempt_apply _ _)]
      cases returned (send window state) with
      | error error => exact ⟨_, rfl⟩
      | ok _ =>
          obtain ⟨drained, run⟩ := drainWindow_isOk receive window (finalState (send window state))
          dsimp only
          rw [bind_of_ok (eq_ok_of_returned run)]
          split
          · obtain ⟨more, rest⟩ := inductionHypothesis
              (finalState (drainWindow receive window (finalState (send window state))))
            rw [bind_of_ok (eq_ok_of_returned rest)]
            exact ⟨_, rfl⟩
          · exact ⟨_, rfl⟩

/-- A send phase that fails ends the batch. -/
theorem pipelined_of_unsent
    {send : List UInt32 → Action IoError S Unit}
    {window : List UInt32}
    {error : IoError}
    {state middle : S}
    (unsent : send window state = .error error middle)
    (receive : Action Pop3Error S α)
    (windows : List (List UInt32)) :
    pipelined send receive (window :: windows) state =
      .ok (fillUp (window :: windows).flatten.length (.io error)) middle := by
  rw [pipelined, bind_of_ok (attempt_of_error unsent)]
  rfl

/-- A receive phase that an I/O-level error has stopped ends the batch. -/
theorem pipelined_of_cut
    {send : List UInt32 → Action IoError S Unit}
    {receive : Action Pop3Error S α}
    {window : List UInt32}
    {results : Items α}
    {state middle after : S}
    (sent : send window state = .ok () middle)
    (cut : drainWindow receive window middle = .ok (results, false) after)
    (windows : List (List UInt32)) :
    pipelined send receive (window :: windows) state =
      .ok (results ++ fillUp ((window :: windows).flatten.length - results.length)
        .connectionClosed) after := by
  rw [pipelined, bind_of_ok (attempt_of_ok sent)]
  dsimp only
  rw [bind_of_ok cut]
  rfl

/-- Behind a window whose replies are all drained, the batch goes on. -/
theorem pipelined_of_drained
    {send : List UInt32 → Action IoError S Unit}
    {receive : Action Pop3Error S α}
    {window : List UInt32}
    {results : Items α}
    {state middle after : S}
    (sent : send window state = .ok () middle)
    (drained : drainWindow receive window middle = .ok (results, true) after)
    (windows : List (List UInt32)) :
    pipelined send receive (window :: windows) state =
      (do return results ++ (← pipelined send receive windows) : Action Pop3Error S (Items α))
        after := by
  rw [pipelined, bind_of_ok (attempt_of_ok sent)]
  dsimp only
  rw [bind_of_ok drained]
  rfl

/-- A receive phase has at most one result for each command of its window. -/
theorem drainWindow_length
    {receive : Action Pop3Error S α}
    {window : List UInt32}
    {state : S}
    {results : Items α}
    {alive : Bool}
    (drained : returned (drainWindow receive window state) = .ok (results, alive)) :
    results.length ≤ window.length := by
  induction window generalizing state results with
  | nil =>
      cases drained
      exact Nat.le_refl _
  | cons messageId window inductionHypothesis =>
      by_cases fails : ∃ error, returned (receive state) = .error error ∧ isIoLevel error = true
      · obtain ⟨error, failed, ioLevel⟩ := fails
        rw [drainWindow_stops failed ioLevel] at drained
        cases drained
        exact Nat.zero_le _
      · have goesOn : ∀ error, returned (receive state) = .error error →
            isIoLevel error = false :=
          fun error failed => Bool.eq_false_iff.mpr fun ioLevel => fails ⟨error, failed, ioLevel⟩
        obtain ⟨⟨later, alive'⟩, rest⟩ :=
          drainWindow_isOk receive window (finalState (receive state))
        rw [drainWindow_goesOn rfl goesOn, returned_bind_pure, rest] at drained
        cases drained
        exact Nat.succ_le_succ (inductionHypothesis rest)

theorem preserves_drainWindow
    {receive : Action Pop3Error S α}
    (preserves : Preserves invariant receive)
    (window : List UInt32) :
    Preserves invariant (drainWindow receive window) := by
  induction window with
  | nil => exact .pure _
  | cons messageId window inductionHypothesis =>
      refine .bind (.attempt preserves) fun result => ?_
      cases result with
      | ok value => exact .bind inductionHypothesis fun _ => .pure _
      | error error =>
          dsimp only
          split
          · exact .pure _
          · exact .bind inductionHypothesis fun _ => .pure _

theorem preserves_pipelined
    {send : List UInt32 → Action IoError S Unit}
    {receive : Action Pop3Error S α}
    (sends : ∀ window, Preserves invariant (send window))
    (preserves : Preserves invariant receive)
    (windows : List (List UInt32)) :
    Preserves invariant (pipelined send receive windows) := by
  induction windows with
  | nil => exact .pure []
  | cons window windows inductionHypothesis =>
      refine .bind (.attempt (sends window)) fun sent => ?_
      cases sent with
      | error error => exact .pure _
      | ok _ =>
          refine .bind (preserves_drainWindow preserves window) fun drained => ?_
          dsimp only
          split
          · exact .bind inductionHypothesis fun _ => .pure _
          · exact .pure _

theorem sequentially_follows
    (neverStuck : ∀ error state, ¬escapes.stuck error state)
    {operation : UInt32 → Action Pop3Error S α}
    {ideal : UInt32 → Action Pop3Error T α}
    (keeps : ∀ messageId, Preserves escapes.gone (operation messageId))
    (follows : ∀ messageId, Follows shows escapes (operation messageId) (ideal messageId))
    (ids : List UInt32) :
    Follows shows escapes (sequentially operation ids) (sequentially ideal ids) := by
  induction ids with
  | nil => exact .pure []
  | cons messageId ids inductionHypothesis =>
      refine .bind ((follows messageId).attempt neverStuck) (fun result => ?_)
        fun result => ?_
      · exact inductionHypothesis.bind (fun _ => .pure _) fun _ => .pure _
      · exact .bind (preserves_sequentially keeps ids) fun _ => .pure _

theorem drainWindow_follows
    (neverStuck : ∀ error state, ¬escapes.stuck error state)
    {receive : Action Pop3Error S α}
    {ideal : Action Pop3Error T α}
    (keeps : Preserves escapes.gone receive)
    (follows : Follows shows escapes receive ideal)
    (window : List UInt32) :
    Follows shows escapes (drainWindow receive window) (drainWindow ideal window) := by
  induction window with
  | nil => exact .pure _
  | cons messageId window inductionHypothesis =>
      refine .bind (follows.attempt neverStuck) (fun result => ?_) fun result => ?_
      · cases result with
        | ok value => exact inductionHypothesis.bind (fun _ => .pure _) fun _ => .pure _
        | error error =>
            dsimp only
            split
            · exact .pure _
            · exact inductionHypothesis.bind (fun _ => .pure _) fun _ => .pure _
      · cases result with
        | ok value =>
            exact .bind (preserves_drainWindow keeps window) fun _ => .pure _
        | error error =>
            dsimp only
            split
            · exact .pure _
            · exact .bind (preserves_drainWindow keeps window) fun _ => .pure _

theorem pipelined_follows
    (neverStuck : ∀ error state, ¬escapes.stuck error state)
    {send : List UInt32 → Action IoError S Unit}
    {idealSend : List UInt32 → Action IoError T Unit}
    (sendKeeps : ∀ window, Preserves escapes.gone (send window))
    (sends : ∀ window, Follows shows escapes
      (attempt (send window)) (attempt (idealSend window)))
    {receive : Action Pop3Error S α}
    {ideal : Action Pop3Error T α}
    (keeps : Preserves escapes.gone receive)
    (follows : Follows shows escapes receive ideal)
    (windows : List (List UInt32)) :
    Follows shows escapes (pipelined send receive windows)
      (pipelined idealSend ideal windows) := by
  induction windows with
  | nil => exact .pure []
  | cons window windows inductionHypothesis =>
      refine .bind (sends window) (fun sent => ?_) fun sent => ?_
      · cases sent with
        | error error => exact .pure _
        | ok _ =>
            refine .bind (drainWindow_follows neverStuck keeps follows window)
              (fun drained => ?_) fun drained => ?_
            · dsimp only
              split
              · exact inductionHypothesis.bind (fun _ => .pure _) fun _ => .pure _
              · exact .pure _
            · dsimp only
              split
              · exact .bind (preserves_pipelined sendKeeps keeps windows) fun _ => .pure _
              · exact .pure _
      · cases sent with
        | error error => exact .pure _
        | ok _ =>
            refine .bind (preserves_drainWindow keeps window) fun drained => ?_
            dsimp only
            split
            · exact .bind (preserves_pipelined sendKeeps keeps windows) fun _ => .pure _
            · exact .pure _

end Loops

/-! ## Asking several commands -/

namespace Dialogue

variable [AnsweringServer σ]

/-- Ask the server several commands in order. -/
def askAll : List Str → Dialogue σ → List Answer × Dialogue σ
  | [], dialogue => ([], dialogue)
  | command :: commands, dialogue =>
      let (answer, middle) := dialogue.ask command
      let (answers, after) := askAll commands middle
      (answer :: answers, after)

theorem askAll_append (first second : List Str) (dialogue : Dialogue σ) :
    askAll (first ++ second) dialogue =
      ((askAll first dialogue).1 ++ (askAll second (askAll first dialogue).2).1,
        (askAll second (askAll first dialogue).2).2) := by
  induction first generalizing dialogue with
  | nil => rfl
  | cons command first inductionHypothesis =>
      simp only [List.cons_append, askAll, inductionHypothesis]

theorem askAll_length (commands : List Str) (dialogue : Dialogue σ) :
    (askAll commands dialogue).1.length = commands.length := by
  induction commands generalizing dialogue with
  | nil => rfl
  | cons command commands inductionHypothesis =>
      exact congrArg Nat.succ (inductionHypothesis _)

theorem askAll_forall
    {property : Answer → Prop}
    (always : ∀ (server : σ) command, property (AnsweringServer.answer server command).2)
    (commands : List Str)
    (dialogue : Dialogue σ) :
    ∀ answer ∈ (askAll commands dialogue).1, property answer := by
  induction commands generalizing dialogue with
  | nil => simp [askAll]
  | cons command commands inductionHypothesis =>
      intro answer member
      rcases List.mem_cons.mp member with rfl | later
      · exact always _ _
      · exact inductionHypothesis _ answer later

/-- The bytes of several answers in order. -/
def replies (multiLine : Bool) (answers : List Answer) : List UInt8 :=
  answers.flatMap (Answer.encode multiLine)

/-- The view when the answers to several commands are about to be read. -/
theorem hearAll_view
    {multiLine : Bool}
    {commands : List Str}
    (kind : ∀ command ∈ commands, isMultiLine (utf8 command) = multiLine)
    (dialogue : Dialogue σ)
    (pending : List UInt8) :
    View.hearAll commands { dialogue.view with pending } =
      { (askAll commands dialogue).2.view with
        pending := pending ++ replies multiLine (askAll commands dialogue).1 } := by
  induction commands generalizing dialogue pending with
  | nil => simp [View.hearAll, askAll, replies]
  | cons command commands inductionHypothesis =>
      have heard : View.hear command { dialogue.view with pending } =
          { (dialogue.ask command).2.view with
            pending := pending ++ (dialogue.ask command).1.encode multiLine } := by
        have kindOf := kind command (by simp)
        simp [View.hear, view, ask, Server.respond, kindOf]
      have rest := inductionHypothesis
        (fun other member => kind other (by simp [member]))
        (dialogue.ask command).2
        (pending ++ (dialogue.ask command).1.encode multiLine)
      rw [View.hearAll, List.foldl_cons, heard]
      rw [View.hearAll] at rest
      rw [rest]
      simp [askAll, replies]

end Dialogue

/-! ## One command at a time -/

/-- The operation asks one command, and the answer decides its result. -/
def Asks [AnsweringServer σ] (verb : Str) (result : Answer → Except Pop3Error α)
    (ideal : UInt32 → Action Pop3Error (Dialogue σ) α) : Prop :=
  ∀ messageId, messageId ≠ 0 → ∀ dialogue : Dialogue σ,
    returned (ideal messageId dialogue) =
        result (dialogue.ask (commandFor verb messageId)).1 ∧
      finalState (ideal messageId dialogue) =
        (dialogue.ask (commandFor verb messageId)).2

section Asking

variable [AnsweringServer σ]

theorem Dialogue.take_of_ok
    {result : Answer → Except Pop3Error Str}
    {command : Str}
    {dialogue : Dialogue σ}
    {text : Str}
    (isOk : result (dialogue.ask command).1 = .ok text) :
    Dialogue.take result command dialogue = .ok text (dialogue.ask command).2 := by
  simp only [Dialogue.take, isOk]

theorem Dialogue.take_of_error
    {result : Answer → Except Pop3Error Str}
    {command : Str}
    {dialogue : Dialogue σ}
    {error : Pop3Error}
    (isError : result (dialogue.ask command).1 = .error error) :
    Dialogue.take result command dialogue = .error error (dialogue.ask command).2 := by
  simp only [Dialogue.take, isError]

/-- The server has been asked, whatever is made of its answer. -/
theorem Dialogue.finalState_take
    (result : Answer → Except Pop3Error Str)
    (command : Str)
    (dialogue : Dialogue σ) :
    finalState (Dialogue.take result command dialogue) = (dialogue.ask command).2 := by
  cases taken : result (dialogue.ask command).1 with
  | ok text => rw [Dialogue.take_of_ok taken, finalState_ok]
  | error error => rw [Dialogue.take_of_error taken, finalState_error]

theorem validateMessageId_of_ne
    {messageId : UInt32}
    (valid : messageId ≠ 0) :
    validateMessageId messageId = .ok () :=
  if_neg valid

/-- An operation that validates, takes one answer and wraps it. -/
theorem asks_take
    (verb : Str)
    (result : Answer → Except Pop3Error Str)
    (wrap : Str → α) :
    Asks verb (fun answer => (result answer).map wrap)
      (fun messageId => (do
        ofResult (validateMessageId messageId)
        let text ← Dialogue.take result (commandFor verb messageId)
        return wrap text : Action Pop3Error (Dialogue σ) α)) := by
  intro messageId valid dialogue
  dsimp only
  rw [validateMessageId_of_ne valid, bind_of_ok (ofResult_ok_apply () dialogue)]
  cases taken : result (dialogue.ask (commandFor verb messageId)).1 with
  | ok text =>
      rw [bind_of_ok (Dialogue.take_of_ok taken)]
      exact ⟨rfl, rfl⟩
  | error error =>
      rw [bind_of_error (Dialogue.take_of_error taken)]
      exact ⟨rfl, rfl⟩

/-- What `RETR` makes of its answer. -/
def retrResult (answer : Answer) : Except Pop3Error Message :=
  answer.bodyResult.map Message.mk

/-- What `DELE` makes of its answer. -/
def deleResult (answer : Answer) : Except Pop3Error Unit :=
  answer.statusResult.map fun _ => ()

theorem asks_retr :
    Asks "RETR ".toList retrResult
      (Partner.retr (Dialogue.partner : Partner (Dialogue σ))) :=
  asks_take "RETR ".toList Answer.bodyResult Message.mk

theorem asks_dele :
    Asks "DELE ".toList deleResult
      (Partner.dele (Dialogue.partner : Partner (Dialogue σ))) :=
  asks_take "DELE ".toList Answer.statusResult fun _ => ()

/-- A batch with a partner collects the results of its answers. -/
theorem sequentially_eq
    {verb : Str}
    {result : Answer → Except Pop3Error α}
    {ideal : UInt32 → Action Pop3Error (Dialogue σ) α}
    (asks : Asks verb result ideal)
    {ids : List UInt32}
    (valid : ∀ messageId ∈ ids, messageId ≠ 0)
    (dialogue : Dialogue σ) :
    sequentially ideal ids dialogue =
      .ok ((Dialogue.askAll (ids.map (commandFor verb)) dialogue).1.map result)
        (Dialogue.askAll (ids.map (commandFor verb)) dialogue).2 := by
  induction ids generalizing dialogue with
  | nil => rfl
  | cons messageId ids inductionHypothesis =>
      obtain ⟨same, after⟩ := asks messageId (valid messageId (by simp)) dialogue
      have first : attempt (ideal messageId) dialogue =
          (.ok (result (dialogue.ask (commandFor verb messageId)).1)
            (dialogue.ask (commandFor verb messageId)).2 :
              EStateM.Result Pop3Error (Dialogue σ) _) := by
        rw [← same, ← after]
        cases run : ideal messageId dialogue with
        | ok value state => rw [attempt_of_ok run]; rfl
        | error error state => rw [attempt_of_error run]; rfl
      have rest := inductionHypothesis
        (fun other member => valid other (by simp [member]))
        (dialogue.ask (commandFor verb messageId)).2
      rw [sequentially, bind_of_ok first, bind_of_ok rest]
      rfl

theorem validateMessageIds_eq_ok_iff (ids : List UInt32) :
    validateMessageIds ids = .ok () ↔ ∀ messageId ∈ ids, messageId ≠ 0 := by
  induction ids with
  | nil => simp [validateMessageIds]
  | cons messageId ids inductionHypothesis =>
      by_cases valid : messageId = 0
      · simp [validateMessageIds, validateMessageId, valid, bind, Except.bind]
      · rw [validateMessageIds, validateMessageId_of_ne valid]
        change validateMessageIds ids = .ok () ↔ _
        simpa [valid] using inductionHypothesis

end Asking

/-! ## Windows -/

theorem chunksUpTo_flatten
    {size : Nat}
    (positive : 0 < size)
    {rounds : Nat}
    {items : List α}
    (enough : items.length ≤ rounds) :
    (chunksUpTo size rounds items).flatten = items := by
  induction rounds generalizing items with
  | zero =>
      have empty : items = [] := List.length_eq_zero_iff.mp (by omega)
      subst empty
      rfl
  | succ rounds inductionHypothesis =>
      cases items with
      | nil => rfl
      | cons item items =>
          have shorter : ((item :: items).drop size).length ≤ rounds := by
            simp only [List.length_drop, List.length_cons] at enough ⊢
            omega
          rw [chunksUpTo, List.flatten_cons, inductionHypothesis shorter,
            List.take_append_drop]
          simp

theorem chunksUpTo_small
    (size rounds : Nat)
    {items chunk : List α}
    (member : chunk ∈ chunksUpTo size rounds items) :
    chunk.length ≤ size := by
  induction rounds generalizing items with
  | zero => cases items <;> cases member
  | succ rounds inductionHypothesis =>
      cases items with
      | nil => cases member
      | cons item items =>
          rcases List.mem_cons.mp member with rfl | later
          · exact List.length_take_le _ _
          · exact inductionHypothesis later

/-- No window is larger than it may be. -/
theorem chunks_small
    {size : Nat}
    {items chunk : List α}
    (member : chunk ∈ chunks size items) :
    chunk.length ≤ size :=
  chunksUpTo_small _ _ member

/-- The windows of a batch are the batch. -/
theorem chunks_flatten (ids : List α) : (chunks pipelineWindow ids).flatten = ids :=
  chunksUpTo_flatten (by decide) (Nat.le_refl _)

theorem isIoLevel_parseRespCode (text : Str) : isIoLevel (parseRespCode text) = false := by
  unfold parseRespCode
  split
  · rfl
  · split
    · rfl
    · dsimp only
      split_ifs <;> rfl

theorem statusResult_error
    {answer : Answer}
    {error : Pop3Error}
    (failed : answer.statusResult = .error error) :
    isIoLevel error = false := by
  unfold Answer.statusResult at failed
  split at failed
  · cases failed
  · injection failed with failed
    rw [← failed]
    exact isIoLevel_parseRespCode _

namespace View

/-- Read a `RETR` response: status line and body. -/
def readRetrResponse : Action Pop3Error (View σ) Message := do
  let line ← readLine
  let _ ← ofResult (parseStatusLine line)
  let data ← readMultiline
  return { data }

/-- Read a `DELE` response: a status line. -/
def readDeleResponse : Action Pop3Error (View σ) Unit := do
  let line ← readLine
  let _ ← ofResult (parseStatusLine line)

/-- The body behind the status line is the message. -/
theorem readRetrResponse_eq :
    (readRetrResponse : Action Pop3Error (View σ) Message) = (do
      let body ← (do
        let _ ← readStatus
        readMultiline)
      return { data := body }) := by
  simp only [readRetrResponse, readStatus, bind_assoc]

theorem readDeleResponse_eq :
    (readDeleResponse : Action Pop3Error (View σ) Unit) = (do
      let _ ← readStatus
      return ()) := by
  simp only [readDeleResponse, readStatus, bind_assoc]

end View

theorem clientReadLine_follows (weather : Weather) :
    Follows (Serves weather) (clientMishaps weather)
      (transportField.run Transport.readLine : ClientM σ Str) View.readLine :=
  fun view => Gives.onTransport (readLine_follows weather view)

theorem readRetrResponse_follows (weather : Weather) :
    Follows (Serves weather) (clientMishaps weather)
      (readRetrResponse : ClientM σ Message) View.readRetrResponse := by
  have body : Follows (Serves weather) (clientMishaps weather)
      (do
        let data ← readBody
        return { data } : ClientM σ Message)
      (do
        let data ← View.readMultiline
        return { data }) :=
    (readBody_follows weather).bind (fun _ => .pure _) fun _ => Preserves.pure _
  have keeps : Preserves (clientMishaps weather).gone
      (do
        let data ← readBody
        return { data } : ClientM σ Message) :=
    .bind (readBody_keeps weather) fun _ => .pure _
  refine (clientReadLine_follows weather).bind (fun line => ?_) fun line => ?_
  · exact .bind (.ofResult _) (fun _ => body) fun _ => keeps
  · exact .bind (.ofResult _) fun _ => keeps

theorem readDeleResponse_follows (weather : Weather) :
    Follows (Serves weather) (clientMishaps weather)
      (readDeleResponse : ClientM σ Unit) View.readDeleResponse := by
  refine (clientReadLine_follows weather).bind (fun line => ?_) fun line => ?_
  · exact .bind (.ofResult _) (fun _ => .pure _) fun _ => .pure _
  · exact .bind (.ofResult _) fun _ => .pure _

/-- The reader takes one answer off the pending bytes, and reports no I/O-level
error. -/
structure Receives (multiLine : Bool) (receive : Action Pop3Error (View σ) α)
    (result : Answer → Except Pop3Error α) : Prop where
  takes : ∀ (view : View σ) (answer : Answer) (rest : List UInt8),
    answer.IsReadable multiLine →
    view.pending = answer.encode multiLine ++ rest →
    returned (receive view) = result answer ∧
      finalState (receive view) = { view with pending := rest }
  isServerLevel : ∀ answer error, result answer = .error error → isIoLevel error = false

theorem map_error
    {wrap : α → β}
    {result : Except ε α}
    {error : ε}
    (failed : result.map wrap = .error error) :
    result = .error error := by
  cases result with
  | ok value => cases failed
  | error error' => simpa [Except.map] using failed

/-- Reading a `DELE` response takes its status line. -/
theorem receives_dele :
    Receives false (View.readDeleResponse : Action Pop3Error (View σ) Unit)
      deleResult where
  takes view answer rest _ pending := by
    have line : view.pending = utf8 (answer.status ++ crlf) ++ rest := by
      simpa [Answer.encode] using pending
    rw [View.readDeleResponse, bind_of_ok (View.readLine_of_status line),
      Answer.parseStatusLine_status, deleResult]
    cases answer.statusResult <;> exact ⟨rfl, rfl⟩
  isServerLevel answer error failed := statusResult_error (map_error failed)

/-- Reading a `RETR` response takes its status line and its body. -/
theorem receives_retr :
    Receives true (View.readRetrResponse : Action Pop3Error (View σ) Message)
      retrResult where
  takes view answer rest readable pending := by
    have line : view.pending = utf8 (answer.status ++ crlf) ++
        ((if answer.isPositive then encodeBody answer.body else []) ++ rest) := by
      simpa [Answer.encode] using pending
    rw [View.readRetrResponse, bind_of_ok (View.readLine_of_status line),
      Answer.parseStatusLine_status, retrResult, Answer.bodyResult]
    cases positive : answer.isPositive with
    | false =>
        rw [Answer.statusResult, positive]
        exact ⟨rfl, rfl⟩
    | true =>
        have read : View.readMultiline { view with pending := encodeBody answer.body ++ rest } =
            .ok answer.bodyText { view with pending := rest } :=
          View.readMultiline_of_clear (readable positive) rfl
        rw [Answer.statusResult, positive]
        simp only [↓reduceIte]
        rw [bind_of_ok (ofResult_ok_apply _ _), bind_of_ok read]
        exact ⟨rfl, rfl⟩
  isServerLevel answer error failed := statusResult_error (map_error (map_error failed))

/-- The receive phase of a window takes the answers in order. -/
theorem drainWindow_view
    {multiLine : Bool}
    {receive : Action Pop3Error (View σ) α}
    {result : Answer → Except Pop3Error α}
    (receives : Receives multiLine receive result)
    {window : List UInt32}
    {answers : List Answer}
    (readable : ∀ answer ∈ answers, answer.IsReadable multiLine)
    (lengths : answers.length = window.length)
    {view : View σ}
    {rest : List UInt8}
    (pending : view.pending = Dialogue.replies multiLine answers ++ rest) :
    drainWindow receive window view =
      .ok (answers.map result, true) { view with pending := rest } := by
  induction window generalizing answers view with
  | nil =>
      have none_left : answers = [] := List.length_eq_zero_iff.mp lengths
      subst none_left
      have same : view.pending = rest := by simpa [Dialogue.replies] using pending
      rw [← same]
      rfl
  | cons messageId window inductionHypothesis =>
      obtain ⟨answer, answers, rfl⟩ := List.exists_cons_of_length_eq_add_one lengths
      have pendingFirst : view.pending =
          answer.encode multiLine ++ (Dialogue.replies multiLine answers ++ rest) := by
        rw [pending, Dialogue.replies, List.flatMap_cons, List.append_assoc]
        rfl
      obtain ⟨same, after⟩ := receives.takes view answer _ (readable answer (by simp))
        pendingFirst
      have others : drainWindow receive window
          { view with pending := Dialogue.replies multiLine answers ++ rest } =
            .ok (answers.map result, true) { view with pending := rest } :=
        inductionHypothesis
          (fun other member => readable other (List.mem_cons_of_mem _ member))
          (Nat.succ.inj lengths) rfl
      rw [← after] at others
      rw [drainWindow, List.map_cons, ← same]
      cases run : receive view with
      | ok value state =>
          rw [run] at others
          rw [bind_of_ok (attempt_of_ok run)]
          dsimp only
          rw [finalState_ok] at others
          rw [bind_of_ok others]
          rfl
      | error error state =>
          rw [run] at others same
          rw [bind_of_ok (attempt_of_error run)]
          dsimp only
          rw [finalState_error] at others
          rw [receives.isServerLevel answer error same.symm]
          simp only [Bool.false_eq_true, ↓reduceIte]
          rw [bind_of_ok others]
          rfl

namespace View

/-- The server hears all commands of a window. -/
def hearWindow [Server σ] (verb : Str) (window : List UInt32) :
    Action IoError (View σ) Unit :=
  fun view => .ok () (view.hearAll (window.map (commandFor verb)))

end View

theorem sendWindow_keeps [Server σ] (weather : Weather) (verb : Str)
    (window : List UInt32) :
    Preserves (clientMishaps weather).gone
      (transportField.run (sendWindow verb window) :
        Action IoError (Pop3Client σ) Unit) :=
  fun _ gone =>
    ⟨gone.1, Preserves.onTransport
      (survivesWrites_dead.sendWindow verb window) _ gone.2⟩

/-- A window that is sent is heard. -/
theorem attempt_sendWindow_gives [Server σ]
    {weather : Weather}
    {verb : Str}
    (noFeed : '\n' ∉ verb)
    {view : View σ}
    (nothing : weather.lossy → view.pending = [])
    (window : List UInt32) :
    Gives (Serves weather) (clientMishaps weather)
      (attempt (transportField.run (sendWindow verb window)))
      view (.ok (.ok ())) (view.hearAll (window.map (commandFor verb))) := by
  have onClient : Gives (Serves weather)
      ({ stuck := fun _ _ => False, gone := (clientMishaps weather).gone } :
        Escapes IoError (Pop3Client σ))
      (transportField.run (sendWindow verb window))
      view (.ok ()) (view.hearAll (window.map (commandFor verb))) :=
    (sendWindow_gives noFeed nothing).field
      (fun _ served => served.shows)
      (fun _ _ served shown => ⟨shown, served.authenticated⟩)
      (fun _ _ _ stuck => stuck)
      (fun _ _ gone => gone)
  exact onClient.attempt (fun _ _ stuck => stuck) fun _ gone => gone

/-- A window that is sent in a dialogue is answered in order. -/
theorem attempt_sendWindow_asks [AnsweringServer σ]
    {weather : Weather}
    {verb : Str}
    (noFeed : '\n' ∉ verb)
    {multiLine : Bool}
    (kind : ∀ messageId, isMultiLine (utf8 (commandFor verb messageId)) = multiLine)
    (window : List UInt32)
    (dialogue : Dialogue σ) :
    Gives (Serves weather) (clientMishaps weather)
      (attempt (transportField.run (sendWindow verb window)))
      dialogue.view (.ok (.ok ()))
      { (Dialogue.askAll (window.map (commandFor verb)) dialogue).2.view with
        pending := Dialogue.replies multiLine
          (Dialogue.askAll (window.map (commandFor verb)) dialogue).1 } := by
  have kinds : ∀ command ∈ window.map (commandFor verb),
      isMultiLine (utf8 command) = multiLine := by
    simpa using fun messageId _ => kind messageId
  have heard : dialogue.view.hearAll _ = _ := Dialogue.hearAll_view kinds dialogue []
  have sent : Gives (Serves weather) (clientMishaps weather)
      (attempt (transportField.run (sendWindow verb window)))
      dialogue.view (.ok (.ok ())) _ :=
    attempt_sendWindow_gives noFeed (fun _ => rfl) window
  rw [List.nil_append] at heard
  rwa [heard] at sent

/-! ## Whole batches -/

theorem neverStuck_of_punctual
    {weather : Weather}
    (punctual : weather.late = false)
    (error : Pop3Error)
    (client : Pop3Client σ) :
    ¬(clientMishaps weather).stuck error client := by
  intro stuck
  exact Bool.false_ne_true (punctual.symm.trans stuck.1)

/-- Window by window, a batch with a server that speaks text gets its answers
in order. -/
theorem pipelined_gives [AnsweringServer σ]
    {weather : Weather}
    (punctual : weather.late = false)
    {verb : Str}
    (noFeed : '\n' ∉ verb)
    {multiLine : Bool}
    (readable : ∀ (server : σ) command,
      (AnsweringServer.answer server command).2.IsReadable multiLine)
    (kind : ∀ messageId, isMultiLine (utf8 (commandFor verb messageId)) = multiLine)
    {receive : ClientM σ α}
    {ideal : Action Pop3Error (View σ) α}
    {result : Answer → Except Pop3Error α}
    (keeps : Preserves (clientMishaps weather).gone receive)
    (follows : Follows (Serves weather) (clientMishaps weather) receive ideal)
    (receives : Receives multiLine ideal result)
    (windows : List (List UInt32))
    (dialogue : Dialogue σ) :
    Gives (Serves weather) (clientMishaps weather)
      (pipelined (fun window => transportField.run (sendWindow verb window)) receive
        windows)
      dialogue.view
      (.ok ((Dialogue.askAll (windows.flatten.map (commandFor verb)) dialogue).1.map result))
      (Dialogue.askAll (windows.flatten.map (commandFor verb)) dialogue).2.view := by
  induction windows generalizing dialogue with
  | nil => exact .pure []
  | cons window windows inductionHypothesis =>
      have loopKeeps : Preserves (clientMishaps weather).gone
          (pipelined (fun window => transportField.run (sendWindow verb window)) receive
            windows) :=
        preserves_pipelined (fun window => sendWindow_keeps weather verb window) keeps
          windows
      have sent : Gives (Serves weather) (clientMishaps weather) _ dialogue.view _ _ :=
        attempt_sendWindow_asks noFeed kind window dialogue
      have lengths := Dialogue.askAll_length (window.map (commandFor verb)) dialogue
      have texts := Dialogue.askAll_forall readable (window.map (commandFor verb)) dialogue
      have rest := inductionHypothesis
        (Dialogue.askAll (window.map (commandFor verb)) dialogue).2
      rw [List.length_map] at lengths
      rw [List.flatten_cons, List.map_append, Dialogue.askAll_append]
      generalize Dialogue.askAll (window.map (commandFor verb)) dialogue = asked
        at sent lengths texts rest ⊢
      have drained := drainWindow_follows (neverStuck_of_punctual punctual) keeps follows
        window { asked.2.view with pending := Dialogue.replies multiLine asked.1 }
      rw [drainWindow_view receives texts lengths (List.append_nil _).symm] at drained
      refine Gives.bind sent ?_ fun sent => ?_
      · refine drained.bind ?_ fun drained => ?_
        · rw [List.map_append]
          have onward := rest.bind (.pure (asked.1.map result ++ _)) fun _ => .pure _
          exact onward
        · dsimp only
          split
          · exact .bind loopKeeps fun _ => .pure _
          · exact .pure _
      · cases sent with
        | error error => exact .pure _
        | ok _ =>
            refine .bind (preserves_drainWindow keeps window) fun drained => ?_
            dsimp only
            split
            · exact .bind loopKeeps fun _ => .pure _
            · exact .pure _

/-! ## Batches on the view -/

section OnView

variable [Server σ]

/-- Where nothing is lost, a window that is sent is heard. -/
theorem sendWindow_follows
    {verb : Str}
    (noFeed : '\n' ∉ verb)
    (window : List UInt32) :
    Follows (Serves calm) (clientMishaps calm)
      (attempt (transportField.run (sendWindow verb window)) :
        ClientM σ (Except IoError Unit))
      (attempt (View.hearWindow verb window)) :=
  fun _ => attempt_sendWindow_gives noFeed (fun lossy => absurd lossy Bool.false_ne_true) window

theorem pipelined_follows_view
    {verb : Str}
    (noFeed : '\n' ∉ verb)
    {receive : ClientM σ α}
    {ideal : Action Pop3Error (View σ) α}
    (program : Program True receive)
    (follows : Follows (Serves calm) (clientMishaps calm) receive ideal)
    (windows : List (List UInt32)) :
    Follows (Serves calm) Escapes.none
      (pipelined (fun window => transportField.run (sendWindow verb window)) receive windows)
      (pipelined (View.hearWindow verb) ideal windows) := by
  have whole := pipelined_follows (neverStuck_of_punctual rfl) (sendWindow_keeps calm verb)
    (sendWindow_follows noFeed) (program.keeps calm) follows windows
  rwa [clientMishaps_calm] at whole

theorem retrManyPipelined_follows (ids : List UInt32) :
    Follows (Serves calm) Escapes.none (retrManyPipelined ids : ClientM σ (Items Message))
      (pipelined (View.hearWindow "RETR ".toList) View.readRetrResponse
        (chunks pipelineWindow ids)) :=
  pipelined_follows_view (by decide) program_readRetrResponse (readRetrResponse_follows calm) _

theorem deleManyPipelined_follows (ids : List UInt32) :
    Follows (Serves calm) Escapes.none (deleManyPipelined ids : ClientM σ (Items Unit))
      (pipelined (View.hearWindow "DELE ".toList) View.readDeleResponse
        (chunks pipelineWindow ids)) :=
  pipelined_follows_view (by decide) program_readDeleResponse (readDeleResponse_follows calm) _

/-- A command that is answered with a body, on the view. -/
theorem retr_hear
    {messageId : UInt32}
    (valid : messageId ≠ 0)
    (view : View σ) :
    Partner.retr View.partner messageId view =
      View.readRetrResponse (view.hear (commandFor "RETR ".toList messageId)) := by
  rw [Partner.retr, validateMessageId_of_ne valid, ofResult_ok_bind, View.readRetrResponse_eq]
  rfl

theorem dele_hear
    {messageId : UInt32}
    (valid : messageId ≠ 0)
    (view : View σ) :
    Partner.dele View.partner messageId view =
      View.readDeleResponse (view.hear (commandFor "DELE ".toList messageId)) := by
  rw [Partner.dele, validateMessageId_of_ne valid, ofResult_ok_bind, View.readDeleResponse_eq]
  rfl

theorem sequentially_retr_follows (ids : List UInt32) :
    Follows (Serves calm) Escapes.none (sequentially retr ids : ClientM σ (Items Message))
      (sequentially (Partner.retr View.partner) ids) := by
  have talks : Talks (clientMishaps calm) (Serves calm) (View.partner : Partner (View σ)) :=
    talks_view rfl
  have whole := sequentially_follows (neverStuck_of_punctual rfl)
    (fun _ => (program_retr _).keeps calm) talks.retr ids
  rwa [clientMishaps_calm] at whole

theorem sequentially_dele_follows (ids : List UInt32) :
    Follows (Serves calm) Escapes.none (sequentially dele ids : ClientM σ (Items Unit))
      (sequentially (Partner.dele View.partner) ids) := by
  have talks : Talks (clientMishaps calm) (Serves calm) (View.partner : Partner (View σ)) :=
    talks_view rfl
  have whole := sequentially_follows (neverStuck_of_punctual rfl)
    (fun _ => (program_dele _).keeps calm) talks.toExchanges.dele ids
  rwa [clientMishaps_calm] at whole

end OnView

/-- A batch follows its partner whichever way it goes. -/
theorem Exchanges.many [Server σ]
    {escapes : Escapes Pop3Error (Pop3Client σ)}
    {sync : Pop3Client σ → T → Prop}
    {partner : Partner T}
    (exchanges : Exchanges escapes sync partner)
    {sequential inPipeline : List UInt32 → ClientM σ (Items α)}
    {ideal : UInt32 → Action Pop3Error T α}
    {ids : List UInt32}
    (first : Follows sync escapes (sequential ids)
      (sequentially ideal ids))
    (second : (∀ messageId ∈ ids, messageId ≠ 0) →
      Follows sync escapes (inPipeline ids) (sequentially ideal ids)) :
    Follows sync escapes (Pop3Client.many sequential inPipeline ids)
      (Partner.many ideal ids) := by
  apply exchanges.requireAuth
  unfold Partner.many
  cases valid : validateMessageIds ids with
  | error error =>
      rw [ofResult_error_bind, ofResult_error_bind]
      exact .throw error
  | ok _ =>
      rw [ofResult_ok_bind, ofResult_ok_bind]
      have second := second ((validateMessageIds_eq_ok_iff ids).mp valid)
      split
      · rename_i empty
        rw [empty]
        exact .pure []
      · refine .gets_bind fun isPipelining => ?_
        split
        · exact second
        · exact first

section Whole

variable [AnsweringServer σ] {weather : Weather}

/-- Batches of `RETR` get their answers. -/
theorem retrMany_follows
    (punctual : weather.late = false)
    (isClear : ∀ (server : σ) command, (AnsweringServer.answer server command).2.IsClear)
    (ids : List UInt32) :
    Follows (InSync weather) (clientMishaps weather) (Pop3Client.retrMany ids)
      (Partner.many (Partner.retr (Dialogue.partner : Partner (Dialogue σ))) ids) := by
  have talks := talks_dialogue weather isClear
  refine talks.toExchanges.many ?_ fun valid => ?_
  · exact sequentially_follows (neverStuck_of_punctual punctual)
      (fun _ => (program_retr _).keeps weather) talks.retr ids
  · intro dialogue
    have noFeed : '\n' ∉ "RETR ".toList := by decide
    have gives := pipelined_gives punctual noFeed
      (fun server command => (isClear server command).isReadable true) isMultiLine_retr
      (program_readRetrResponse.keeps weather) (readRetrResponse_follows weather)
      receives_retr (chunks pipelineWindow ids) dialogue
    rw [chunks_flatten] at gives
    rw [sequentially_eq asks_retr valid]
    exact gives

/-- Batches of `DELE` get their answers. -/
theorem deleMany_follows
    (punctual : weather.late = false)
    (ids : List UInt32) :
    Follows (InSync weather) (clientMishaps weather) (Pop3Client.deleMany ids)
      (Partner.many (Partner.dele (Dialogue.partner : Partner (Dialogue σ))) ids) := by
  have exchanges : Exchanges _ _ (Dialogue.partner : Partner (Dialogue σ)) :=
    exchanges_dialogue weather
  refine exchanges.many ?_ fun valid => ?_
  · exact sequentially_follows (neverStuck_of_punctual punctual)
      (fun _ => (program_dele _).keeps weather) exchanges.dele ids
  · intro dialogue
    have noFeed : '\n' ∉ "DELE ".toList := by decide
    have gives := pipelined_gives punctual noFeed
      (fun _ _ => Answer.isReadable_single _) isMultiLine_dele
      (program_readDeleResponse.keeps weather) (readDeleResponse_follows weather)
      receives_dele (chunks pipelineWindow ids) dialogue
    rw [chunks_flatten] at gives
    rw [sequentially_eq asks_dele valid]
    exact gives

/-- Where no read times out, every operation does what it comes to. -/
theorem Call.follows [Md5]
    (punctual : weather.late = false)
    (isClear : ∀ (server : σ) command, (AnsweringServer.answer server command).2.IsClear)
    (call : Call)
    (command : call.isCommand = true) :
    Follows (InSync weather) (clientMishaps weather) call.run
      ((Dialogue.partner : Partner (Dialogue σ)).perform call) := by
  by_cases single : call.isSingle = true
  · exact (talks_dialogue weather isClear).perform call single
  · cases call with
    | retrMany ids =>
        exact (retrMany_follows punctual isClear ids).bind (fun _ => .pure _)
          fun _ => Preserves.pure _
    | deleMany ids =>
        exact (deleMany_follows punctual ids).bind (fun _ => .pure _)
          fun _ => Preserves.pure _
    | _ => exact absurd command single

end Whole

end Pop3
