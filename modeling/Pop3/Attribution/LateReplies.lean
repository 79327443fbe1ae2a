import Pop3.Attribution.Silence

/-!
# Late replies

What a client in sync reports while replies may be late: it is what the server
has answered, up to the first timeout.
-/

namespace Pop3

open Rust Framing Pop3Client

/-- The connection still has a stream. -/
abbrev HasStream : Transport σ → Prop :=
  Observed (fun stream _ => stream ≠ .upgrading) fun _ => True

/-! ## One operation -/

/-- What an operation does that follows its partner while replies may be late. -/
theorem late_cases [Server σ]
    {shows : Pop3Client σ → T → Prop}
    {action : ClientM σ α}
    {ideal : Action Pop3Error T α}
    (follows : Follows shows (clientMishaps late) action ideal)
    (program : Program True action)
    {client : Pop3Client σ}
    {before : T}
    (shown : shows client before)
    (stream : client.transport.stream ≠ .upgrading) :
    (returned (action client) = returned (ideal before) ∧
      shows (finalState (action client)) (finalState (ideal before))) ∨
    (returned (action client) = .error .timeout ∧
      Overdue (finalState (action client)).transport) := by
  rcases follows before client shown with
    matched | ⟨error, failed, _, rfl, start, lost, stopped⟩ | ⟨lossy, _⟩
  · exact .inl matched
  · have streamed : HasStream (finalState (action client)).transport :=
      program.preserves lasting_true.steps client ⟨stream, trivial⟩
    refine .inr ⟨failed, streamed.stream, .timedOut lost, ?_, rfl⟩
    rw [stopped]
    simp
  · cases lossy

/-! ## Batches -/

/-- Every value of the batch is the value of the ideal batch at its place. -/
def Agrees (items ideal : Items α) : Prop :=
  ∀ (index : Nat) (value : α),
    items[index]? = some (Except.ok value) → ideal[index]? = some (Except.ok value)

theorem AllErrors.agrees {items : Items α} (errors : AllErrors items) (ideal : Items α) :
    Agrees items ideal :=
  fun index value found => absurd found (errors.getElem?_ne index value)

theorem Agrees.cons
    {items ideal : Items α}
    (agrees : Agrees items ideal)
    (item : Except Pop3Error α) :
    Agrees (item :: items) (item :: ideal) := by
  intro index value found
  cases index with
  | zero => exact found
  | succ index => exact agrees index value found

theorem Agrees.append
    {items ideal : Items α}
    (agrees : Agrees items ideal)
    (front : Items α) :
    Agrees (front ++ items) (front ++ ideal) := by
  induction front with
  | nil => exact agrees
  | cons item front inductionHypothesis => exact inductionHypothesis.cons item

/-- Errors behind what agrees do no harm. -/
theorem Agrees.append_errors
    {items ideal errors : Items α}
    (agrees : Agrees items ideal)
    (allErrors : AllErrors errors)
    (more : Items α) :
    Agrees (items ++ errors) (ideal ++ more) := by
  intro index value found
  rcases Nat.lt_or_ge index items.length with inItems | behind
  · rw [List.getElem?_append_left inItems] at found
    have ideally := agrees index value found
    obtain ⟨inIdeal, _⟩ := List.getElem?_eq_some_iff.mp ideally
    rwa [List.getElem?_append_left inIdeal]
  · rw [List.getElem?_append_right behind] at found
    exact absurd found (allErrors.getElem?_ne _ value)

theorem allErrors_fillUp (missing : Nat) (error : Pop3Error) :
    AllErrors (fillUp missing error : Items α) := by
  intro item member
  exact ⟨error, List.eq_of_mem_replicate member⟩

section Settling

variable [AnsweringServer σ]

/-- From sync, the batch reports what it should, and ends in sync or overdue,
unless it goes on after a timeout. -/
def Settles (action : ClientM σ (Items α)) (dialogue : Dialogue σ) (ideal : Items α)
    (after : Dialogue σ) : Prop :=
  ∀ client, InSync late client dialogue →
    Reckless (finalState (action client)).transport ∨
    ∃ items, returned (action client) = .ok items ∧
      ((items = ideal ∧ InSync late (finalState (action client)) after) ∨
        (Agrees items ideal ∧ Overdue (finalState (action client)).transport))

theorem sequentially_settles
    {verb : Str}
    {result : Answer → Except Pop3Error α}
    {operation : UInt32 → ClientM σ α}
    {ideal : UInt32 → Action Pop3Error (Dialogue σ) α}
    (asks : Asks verb result ideal)
    (follows : ∀ messageId, Follows (InSync late) (clientMishaps late)
      (operation messageId) (ideal messageId))
    (program : ∀ messageId, Program True (operation messageId))
    (mute : ∀ messageId, Mute (operation messageId))
    {ids : List UInt32}
    (valid : ∀ messageId ∈ ids, messageId ≠ 0)
    (dialogue : Dialogue σ) :
    Settles (sequentially operation ids) dialogue
      ((Dialogue.askAll (ids.map (commandFor verb)) dialogue).1.map result)
      (Dialogue.askAll (ids.map (commandFor verb)) dialogue).2 := by
  induction ids generalizing dialogue with
  | nil => exact fun client inSync => .inr ⟨[], rfl, .inl ⟨rfl, inSync⟩⟩
  | cons messageId ids inductionHypothesis =>
      intro client inSync
      obtain ⟨same, next⟩ := asks messageId (valid messageId (by simp)) dialogue
      rcases late_cases (follows messageId) (program messageId) inSync
        inSync.shows.stream with ⟨matched, inSync'⟩ | ⟨failed, overdue⟩
      · rw [sequentially, bind_of_ok (attempt_apply _ _), matched, same]
        rw [next] at inSync'
        have valid' : ∀ other ∈ ids, other ≠ 0 :=
          fun other member => valid other (List.mem_cons_of_mem _ member)
        rcases inductionHypothesis valid' _ _ inSync' with
          reckless | ⟨items, rest, outcome⟩
        · exact .inl (Preserves.finalState_bind reckless fun _ =>
            Program.preserves_reckless (.pure _))
        · rw [bind_of_ok (eq_ok_of_returned rest)]
          refine .inr ⟨_, rfl, ?_⟩
          rcases outcome with ⟨rfl, settled⟩ | ⟨agrees, overdue⟩
          · exact .inl ⟨rfl, settled⟩
          · exact .inr ⟨agrees.cons _, overdue⟩
      · rw [sequentially, bind_of_ok (attempt_apply _ _), failed]
        have keeps := Program.preserves_overdue
          (program_sequentially trivial program ids) _ overdue
        rcases sequentially_fromOverdue mute program ids _ overdue with reckless | errors
        · exact .inl (Preserves.finalState_bind reckless fun _ =>
            Program.preserves_reckless (.pure _))
        · obtain ⟨items, rest⟩ := sequentially_isOk operation ids
            (finalState (operation messageId client))
          rw [bind_of_ok (eq_ok_of_returned rest)]
          refine .inr ⟨_, rfl, .inr ⟨AllErrors.agrees ?_ _, keeps⟩⟩
          intro item member
          rcases List.mem_cons.mp member with rfl | later
          · exact ⟨_, rfl⟩
          · exact errors items rest item later

/-- The receive phase of a window reports the answers up to the first timeout. -/
theorem drainWindow_settles
    {multiLine : Bool}
    {receive : ClientM σ α}
    {ideal : Action Pop3Error (View σ) α}
    {result : Answer → Except Pop3Error α}
    (follows : Follows (Serves late) (clientMishaps late) receive ideal)
    (program : Program True receive)
    (receives : Receives multiLine ideal result)
    {window : List UInt32}
    {answers : List Answer}
    (readable : ∀ answer ∈ answers, answer.IsReadable multiLine)
    (lengths : answers.length = window.length)
    {view : View σ}
    (pending : view.pending = Dialogue.replies multiLine answers)
    {client : Pop3Client σ}
    (served : Serves late client view) :
    ∃ items alive, returned (drainWindow receive window client) = .ok (items, alive) ∧
      ((alive = true ∧ items = answers.map result ∧
          Serves late (finalState (drainWindow receive window client))
            { view with pending := [] }) ∨
        (alive = false ∧ Agrees items (answers.map result) ∧
          Overdue (finalState (drainWindow receive window client)).transport)) := by
  induction window generalizing answers view client with
  | nil =>
      have none_left : answers = [] := List.length_eq_zero_iff.mp lengths
      subst none_left
      have same : view.pending = [] := pending
      refine ⟨[], true, rfl, .inl ⟨rfl, rfl, ?_⟩⟩
      rw [← same]
      exact served
  | cons messageId window inductionHypothesis =>
      obtain ⟨answer, answers, rfl⟩ := List.exists_cons_of_length_eq_add_one lengths
      have pendingFirst : view.pending =
          answer.encode multiLine ++ Dialogue.replies multiLine answers := by
        rw [pending, Dialogue.replies, List.flatMap_cons]
        rfl
      obtain ⟨same, after⟩ := receives.takes view answer _ (readable answer (by simp))
        pendingFirst
      rcases late_cases follows program served served.shows.stream with
        ⟨matched, served'⟩ | ⟨failed, overdue⟩
      · rw [after] at served'
        obtain ⟨items, alive, drained, outcome⟩ := inductionHypothesis
          (fun other member => readable other (List.mem_cons_of_mem _ member))
          (Nat.succ.inj lengths) rfl served'
        have first : returned (receive client) = result answer := matched.trans same
        have step : drainWindow receive (messageId :: window) client =
            .ok (result answer :: items, alive)
              (finalState (drainWindow receive window (finalState (receive client)))) := by
          rw [drainWindow, bind_of_ok (attempt_apply _ _), first]
          cases given : result answer with
          | ok value =>
              dsimp only
              rw [bind_of_ok (eq_ok_of_returned drained)]
              rfl
          | error error =>
              dsimp only
              rw [receives.isServerLevel answer error given]
              simp only [Bool.false_eq_true, ↓reduceIte]
              rw [bind_of_ok (eq_ok_of_returned drained)]
              rfl
        rw [step]
        refine ⟨_, alive, rfl, ?_⟩
        rcases outcome with ⟨isAlive, rfl, settled⟩ | ⟨stopped, agrees, overdue⟩
        · exact .inl ⟨isAlive, rfl, settled⟩
        · exact .inr ⟨stopped, agrees.cons _, overdue⟩
      · rw [drainWindow, bind_of_ok (attempt_apply _ _), failed]
        refine ⟨[], false, rfl, .inr ⟨rfl, AllErrors.agrees (fun _ member => ?_) _, overdue⟩⟩
        cases member

/-- Window by window, the answers up to the first timeout are reported. -/
theorem pipelined_settles
    (isClear : ∀ (server : σ) command, (AnsweringServer.answer server command).2.IsClear)
    {verb : Str}
    (noFeed : '\n' ∉ verb)
    {multiLine : Bool}
    (kind : ∀ messageId, isMultiLine (utf8 (commandFor verb messageId)) = multiLine)
    {receive : ClientM σ α}
    {ideal : Action Pop3Error (View σ) α}
    {result : Answer → Except Pop3Error α}
    (follows : Follows (Serves late) (clientMishaps late) receive ideal)
    (program : Program True receive)
    (receives : Receives multiLine ideal result)
    (windows : List (List UInt32))
    (dialogue : Dialogue σ) :
    Settles
      (pipelined (fun window => transportField.run (sendWindow verb window)) receive windows)
      dialogue
      ((Dialogue.askAll (windows.flatten.map (commandFor verb)) dialogue).1.map result)
      (Dialogue.askAll (windows.flatten.map (commandFor verb)) dialogue).2 := by
  induction windows generalizing dialogue with
  | nil => exact fun client inSync => .inr ⟨[], rfl, .inl ⟨rfl, inSync⟩⟩
  | cons window windows inductionHypothesis =>
      intro client inSync
      have sends : Gives (Serves late) (clientMishaps late) _ dialogue.view _ _ :=
        attempt_sendWindow_asks noFeed kind window dialogue
      have lengths := Dialogue.askAll_length (window.map (commandFor verb)) dialogue
      have texts := Dialogue.askAll_forall
        (fun server command => (isClear server command).isReadable multiLine)
        (window.map (commandFor verb)) dialogue
      have rest := inductionHypothesis
        (Dialogue.askAll (window.map (commandFor verb)) dialogue).2
      rw [List.length_map] at lengths
      rw [List.flatten_cons, List.map_append, Dialogue.askAll_append]
      generalize Dialogue.askAll (window.map (commandFor verb)) dialogue = asked
        at lengths texts rest sends ⊢
      rcases sends client inSync with ⟨sent, served⟩ | ⟨error, failed, _⟩ | ⟨lossy, _⟩
      · obtain ⟨items, alive, drained, outcome⟩ :=
          drainWindow_settles follows program receives texts lengths rfl served
        rw [pipelined, bind_of_ok (eq_ok_of_returned sent)]
        dsimp only
        rw [bind_of_ok (eq_ok_of_returned drained)]
        rcases outcome with ⟨rfl, rfl, settled⟩ | ⟨rfl, agrees, overdue⟩
        · simp only [↓reduceIte]
          rcases rest _ settled with reckless | ⟨more, run, outcome⟩
          · exact .inl (Preserves.finalState_bind reckless fun _ =>
              Program.preserves_reckless (.pure _))
          · rw [bind_of_ok (eq_ok_of_returned run), List.map_append]
            refine .inr ⟨_, rfl, ?_⟩
            rcases outcome with ⟨rfl, settled'⟩ | ⟨agrees, overdue⟩
            · exact .inl ⟨rfl, settled'⟩
            · exact .inr ⟨agrees.append _, overdue⟩
        · simp only [Bool.false_eq_true, ↓reduceIte]
          rw [List.map_append]
          exact .inr ⟨_, rfl, .inr ⟨agrees.append_errors (allErrors_fillUp _ _) _, overdue⟩⟩
      · rw [attempt_apply] at failed
        cases failed
      · cases lossy

/-- How an operation may end that was in sync: as it should, or overdue and with
values that agree with what it should return, or reckless. -/
def EndsLate (agrees : α → α → Prop) (result : EStateM.Result Pop3Error (Pop3Client σ) α)
    (ideal : EStateM.Result Pop3Error (Dialogue σ) α) : Prop :=
  Reckless (finalState result).transport ∨
  (returned result = returned ideal ∧ InSync late (finalState result) (finalState ideal)) ∨
  (Overdue (finalState result).transport ∧ ∀ value, returned result = .ok value →
    ∃ value', returned ideal = .ok value' ∧ agrees value value')

omit [AnsweringServer σ] in
theorem Settles.endsLate
    {action : ClientM σ (Items α)}
    {dialogue after : Dialogue σ}
    {ideal : Items α}
    (settles : Settles action dialogue ideal after)
    {client : Pop3Client σ}
    (inSync : InSync late client dialogue) :
    EndsLate Agrees (action client) (.ok ideal after) := by
  rcases settles client inSync with
    reckless | ⟨items, run, ⟨rfl, settled⟩ | ⟨agrees, overdue⟩⟩
  · exact .inl reckless
  · exact .inr (.inl ⟨run, settled⟩)
  · refine .inr (.inr ⟨overdue, fun value same => ⟨ideal, rfl, ?_⟩⟩)
    rw [run] at same
    cases same
    exact agrees

/-- Whichever way it goes, a batch does what it comes to, or reports the answers
up to the first timeout, unless it goes on after it. -/
theorem many_endsLate
    {sequential inPipeline : List UInt32 → ClientM σ (Items α)}
    {verb : Str}
    {result : Answer → Except Pop3Error α}
    {ideal : UInt32 → Action Pop3Error (Dialogue σ) α}
    (asks : Asks verb result ideal)
    {ids : List UInt32}
    {dialogue : Dialogue σ}
    (first : (∀ messageId ∈ ids, messageId ≠ 0) → Settles (sequential ids) dialogue
      ((Dialogue.askAll (ids.map (commandFor verb)) dialogue).1.map result)
      (Dialogue.askAll (ids.map (commandFor verb)) dialogue).2)
    (second : Settles (inPipeline ids) dialogue
      ((Dialogue.askAll (ids.map (commandFor verb)) dialogue).1.map result)
      (Dialogue.askAll (ids.map (commandFor verb)) dialogue).2)
    {client : Pop3Client σ}
    (inSync : InSync late client dialogue) :
    EndsLate Agrees (many sequential inPipeline ids client)
      (Partner.many ideal ids dialogue) := by
  rw [many, requireAuth_bind inSync.authenticated]
  unfold Partner.many
  cases valid : validateMessageIds ids with
  | error error => exact .inr (.inl ⟨rfl, inSync⟩)
  | ok _ =>
      have nonzero := (validateMessageIds_eq_ok_iff ids).mp valid
      rw [ofResult_ok_bind, ofResult_ok_bind, sequentially_eq asks nonzero]
      split
      · rename_i empty
        subst empty
        exact .inr (.inl ⟨rfl, inSync⟩)
      · rw [gets_bind_apply]
        split
        · exact second.endsLate inSync
        · exact (first nonzero).endsLate inSync

theorem retrMany_endsLate
    (isClear : ∀ (server : σ) command, (AnsweringServer.answer server command).2.IsClear)
    (ids : List UInt32)
    {client : Pop3Client σ}
    {dialogue : Dialogue σ}
    (inSync : InSync late client dialogue) :
    EndsLate Agrees (retrMany ids client)
      (Partner.many (Partner.retr Dialogue.partner) ids dialogue) := by
  have talks := talks_dialogue late isClear
  have noFeed : '\n' ∉ "RETR ".toList := by decide
  have inPipeline := pipelined_settles isClear noFeed isMultiLine_retr
    (readRetrResponse_follows late) program_readRetrResponse receives_retr
    (chunks pipelineWindow ids) dialogue
  rw [chunks_flatten] at inPipeline
  exact many_endsLate asks_retr
    (fun valid => sequentially_settles asks_retr talks.retr program_retr mute_retr valid dialogue)
    inPipeline inSync

theorem deleMany_endsLate
    (isClear : ∀ (server : σ) command, (AnsweringServer.answer server command).2.IsClear)
    (ids : List UInt32)
    {client : Pop3Client σ}
    {dialogue : Dialogue σ}
    (inSync : InSync late client dialogue) :
    EndsLate Agrees (deleMany ids client)
      (Partner.many (Partner.dele Dialogue.partner) ids dialogue) := by
  have talks := talks_dialogue late isClear
  have noFeed : '\n' ∉ "DELE ".toList := by decide
  have inPipeline := pipelined_settles isClear noFeed isMultiLine_dele
    (readDeleResponse_follows late) program_readDeleResponse receives_dele
    (chunks pipelineWindow ids) dialogue
  rw [chunks_flatten] at inPipeline
  exact many_endsLate asks_dele
    (fun valid => sequentially_settles asks_dele talks.dele program_dele mute_dele valid dialogue)
    inPipeline inSync

/-! ## Calls -/

/-- What the first result reports, the second reports as well. -/
def Supports (value ideal : Value) : Prop :=
  ∀ index reported, Reports (.ok value) index reported → Reports (.ok ideal) index reported

theorem supports_messages {items ideal : Items Message} (agrees : Agrees items ideal) :
    Supports (.messages items) (.messages ideal) := by
  rintro index reported (⟨notMessages, _⟩ | found)
  · exact absurd rfl (notMessages items)
  · exact .message (agrees _ _ found)

theorem supports_deletions {items ideal : Items Unit} (agrees : Agrees items ideal) :
    Supports (.deletions items) (.deletions ideal) := by
  rintro index reported (⟨_, notDeletions⟩ | _ | found)
  · exact absurd rfl (notDeletions items)
  · exact .deletion (agrees _ _ found)

omit [AnsweringServer σ] in
/-- The result of a batch is wrapped. -/
theorem EndsLate.wrap
    {agrees : α → α → Prop}
    {action : ClientM σ α}
    {ideal : Action Pop3Error (Dialogue σ) α}
    {client : Pop3Client σ}
    {dialogue : Dialogue σ}
    (ends : EndsLate agrees (action client) (ideal dialogue))
    {wrap : α → Value}
    (supports : ∀ value value', agrees value value' → Supports (wrap value) (wrap value')) :
    EndsLate Supports ((do return wrap (← action)) client)
      ((do return wrap (← ideal)) dialogue) := by
  unfold EndsLate
  rw [finalState_bind_pure, finalState_bind_pure, returned_bind_pure, returned_bind_pure]
  rcases ends with reckless | ⟨same, inSync⟩ | ⟨overdue, agree⟩
  · exact .inl reckless
  · exact .inr (.inl ⟨congrArg (Except.map wrap) same, inSync⟩)
  · refine .inr (.inr ⟨overdue, fun value found => ?_⟩)
    cases run : returned (action client) with
    | error error =>
        rw [run] at found
        cases found
    | ok value' =>
        rw [run] at found
        cases found
        obtain ⟨ideally, same, agreed⟩ := agree value' run
        exact ⟨wrap ideally, by rw [same]; rfl, supports _ _ agreed⟩

/-- A call that was in sync ends so. -/
theorem Call.endsLate [Md5]
    (isClear : ∀ (server : σ) command, (AnsweringServer.answer server command).2.IsClear)
    {call : Call}
    (command : call.isCommand = true)
    {client : Pop3Client σ}
    {dialogue : Dialogue σ}
    (inSync : InSync late client dialogue) :
    EndsLate Supports (call.run client)
      ((Dialogue.partner : Partner (Dialogue σ)).perform call dialogue) := by
  by_cases single : call.isSingle = true
  · have follows := (talks_dialogue late isClear).perform call single
    rcases late_cases follows (call.program_run command) inSync inSync.shows.stream with
      matched | ⟨failed, overdue⟩
    · exact .inr (.inl matched)
    · refine .inr (.inr ⟨overdue, fun value same => ?_⟩)
      rw [failed] at same
      cases same
  · cases call with
    | retrMany ids => exact (retrMany_endsLate isClear ids inSync).wrap fun _ _ => supports_messages
    | deleMany ids => exact (deleMany_endsLate isClear ids inSync).wrap fun _ _ => supports_deletions
    | _ => exact absurd command single

end Settling

end Pop3
