import Pop3.Attribution.Discipline

/-!
# Silence after a timeout

Once a read has timed out, an operation either writes a command or reports
nothing.
-/

namespace Pop3

open Rust Pop3Client

/-! ## Reports -/

/-- The values a call reports: its own, or those of the items of a batch that
are Ok. -/
inductive Reports : Except Pop3Error Value → Nat → Value → Prop
  | single {value : Value} :
      (∀ items, value ≠ .messages items) → (∀ items, value ≠ .deletions items) →
      Reports (.ok value) 0 value
  | message {items : Items Message} {index : Nat} {message : Message} :
      items[index]? = some (.ok message) →
      Reports (.ok (.messages items)) index (.message message)
  | deletion {items : Items Unit} {index : Nat} :
      items[index]? = some (.ok ()) →
      Reports (.ok (.deletions items)) index .done

theorem Reports.eq_of_message
    {message : Message}
    {index : Nat}
    {value : Value}
    (reports : Reports (.ok (.message message)) index value) :
    value = .message message := by
  cases reports
  rfl

/-- Nothing is reported. -/
def Silent (result : Except Pop3Error Value) : Prop :=
  ∀ index value, ¬Reports result index value

theorem silent_error (error : Pop3Error) : Silent (.error error) := by
  rintro index value ⟨⟩

/-- Every item of a batch is an error. -/
def AllErrors (items : Items α) : Prop := ∀ item ∈ items, ∃ error, item = .error error

theorem AllErrors.getElem?_ne
    {items : Items α}
    (errors : AllErrors items)
    (index : Nat)
    (value : α) :
    items[index]? ≠ some (.ok value) := by
  intro found
  obtain ⟨error, same⟩ := errors _ (List.mem_of_getElem? found)
  cases same

theorem silent_messages {items : Items Message} (errors : AllErrors items) :
    Silent (.ok (.messages items)) := by
  rintro index value (⟨notMessages, _⟩ | found)
  · exact notMessages items rfl
  · exact errors.getElem?_ne _ _ found

theorem silent_deletions {items : Items Unit} (errors : AllErrors items) :
    Silent (.ok (.deletions items)) := by
  rintro index value (⟨_, notDeletions⟩ | _ | found)
  · exact notDeletions items rfl
  · exact errors.getElem?_ne _ _ found

/-! ## Operations -/

section Operations

variable [Server σ]

/-- From an overdue connection, the action writes something or ends like this. -/
def FromOverdue (action : ClientM σ α) (ends : Except Pop3Error α → Prop) : Prop :=
  ∀ client, Overdue client.transport →
    Reckless (finalState (action client)).transport ∨ ends (returned (action client))

/-- From an overdue connection, the action writes something or fails. -/
abbrev Mute (action : ClientM σ α) : Prop := FromOverdue action IsError

theorem Program.preserves_reckless
    {action : ClientM σ α}
    (program : Program True action) :
    Preserves (fun client => Reckless client.transport) action :=
  program.preserves (lasting_undisciplined _).steps

theorem Program.preserves_overdue
    {action : ClientM σ α}
    (program : Program True action) :
    Preserves (fun client => Overdue client.transport) action :=
  program.preserves (lasting_hasTimedOut _).steps

/-- A command is sent first. -/
theorem mute_sendAndCheck (command : Str) : Mute (sendAndCheck command : ClientM σ Str) := by
  intro client overdue
  left
  have sent : Reckless (finalState
      (transportField.run (Transport.sendCommand command) client)).transport := by
    rw [Field.finalState_run]
    exact overdue.sendCommand command
  exact Preserves.finalState_bind sent fun _ =>
    Program.preserves_reckless (.bind (.primitive .read) fun _ => .ofResult _)

theorem Mute.bind
    {action : ClientM σ α}
    {next : α → ClientM σ β}
    (mute : Mute action)
    (program : ∀ value, Program True (next value)) :
    Mute (action >>= next) := by
  intro client overdue
  rcases mute client overdue with reckless | ⟨error, failed⟩
  · exact .inl (Preserves.finalState_bind reckless fun value =>
      (program value).preserves_reckless)
  · right
    cases run : action client with
    | ok value after =>
        rw [run] at failed
        cases failed
    | error error after =>
        rw [bind_of_error run]
        exact ⟨error, rfl⟩

omit [Server σ] in
theorem FromOverdue.ofResult_bind
    {ends : Except Pop3Error β → Prop}
    (fails : ∀ error, ends (.error error))
    (result : Except Pop3Error α)
    {next : α → ClientM σ β}
    (rest : ∀ value, FromOverdue (next value) ends) :
    FromOverdue (Rust.ofResult result >>= next) ends := by
  cases result with
  | ok value => exact rest value
  | error error => exact fun _ _ => .inr (fails error)

omit [Server σ] in
theorem FromOverdue.requireAuth_bind
    {ends : Except Pop3Error α → Prop}
    (fails : ∀ error, ends (.error error))
    {next : Unit → ClientM σ α}
    (rest : FromOverdue (next ()) ends) :
    FromOverdue (Pop3Client.requireAuth >>= next) ends := by
  intro client overdue
  have checked := FromOverdue.ofResult_bind fails
    (if client.state ≠ .authenticated then .error .notAuthenticated else .ok ()) fun _ => rest
  exact checked client overdue

theorem isError_error (error : Pop3Error) : IsError (.error error : Except Pop3Error α) :=
  ⟨error, rfl⟩

/-- An operation that checks its state and its argument and then sends a command. -/
theorem mute_command
    (check : Except Pop3Error Unit)
    (command : Str)
    {next : Str → ClientM σ α}
    (program : ∀ text, Program True (next text)) :
    Mute (do
      requireAuth
      ofResult check
      let text ← sendAndCheck command
      next text) :=
  .requireAuth_bind isError_error <|
    .ofResult_bind isError_error check fun _ => (mute_sendAndCheck command).bind program

theorem mute_stat : Mute (stat : ClientM σ Stat) :=
  mute_command (.ok ()) _ fun _ => .ofResult _

theorem mute_list (messageId : Option UInt32) :
    Mute (list messageId : ClientM σ (List ListEntry)) := by
  cases messageId with
  | some messageId => exact mute_command _ _ fun _ => .bind (.ofResult _) fun _ => .pure _
  | none => exact mute_command (.ok ()) _ fun _ => .bind program_readBody fun _ => .ofResult _

theorem mute_uidl (messageId : Option UInt32) :
    Mute (uidl messageId : ClientM σ (List UidlEntry)) := by
  cases messageId with
  | some messageId => exact mute_command _ _ fun _ => .bind (.ofResult _) fun _ => .pure _
  | none => exact mute_command (.ok ()) _ fun _ => .bind program_readBody fun _ => .ofResult _

theorem mute_retr (messageId : UInt32) : Mute (retr messageId : ClientM σ Message) :=
  mute_command _ _ fun _ => .bind program_readBody fun _ => .pure _

theorem mute_top (messageId lines : UInt32) :
    Mute (top messageId lines : ClientM σ Message) :=
  mute_command _ _ fun _ => .bind program_readBody fun _ => .pure _

theorem mute_dele (messageId : UInt32) : Mute (dele messageId : ClientM σ Unit) :=
  mute_command _ _ fun _ => .pure _

theorem mute_rset : Mute (rset : ClientM σ Unit) :=
  mute_command (.ok ()) _ fun _ => .pure _

theorem mute_noop : Mute (noop : ClientM σ Unit) :=
  mute_command (.ok ()) _ fun _ => .pure _

theorem mute_capa : Mute (capa : ClientM σ (List Capability)) :=
  (mute_sendAndCheck _).bind fun _ => .bind program_readBody fun _ => .pure _

theorem mute_unseenUids (seen : UidSet) :
    Mute (unseenUids seen : ClientM σ (List UidlEntry)) :=
  (mute_uidl none).bind fun _ => .pure _

theorem mute_fetchUnseen (seen : UidSet) :
    Mute (fetchUnseen seen : ClientM σ (List (UidlEntry × Message))) :=
  (mute_unseenUids seen).bind program_fetchEach

theorem mute_pruneSeen (seen : UidSet) :
    Mute (pruneSeen seen : ClientM σ (List Str × UidSet)) :=
  (mute_uidl none).bind fun _ => .pure _

/-! ## Batches -/

/-- A batch fails, or all its items do. -/
def IsErrors (result : Except Pop3Error (Items α)) : Prop :=
  ∀ items, result = .ok items → AllErrors items

theorem isErrors_error (error : Pop3Error) :
    IsErrors (.error error : Except Pop3Error (Items α)) :=
  fun _ same => by cases same

theorem isErrors_ok {items : Items α} (errors : AllErrors items) : IsErrors (.ok items) := by
  rintro _ ⟨⟩
  exact errors

theorem sequentially_fromOverdue
    {operation : UInt32 → ClientM σ α}
    (mute : ∀ messageId, Mute (operation messageId))
    (program : ∀ messageId, Program True (operation messageId))
    (ids : List UInt32) :
    FromOverdue (sequentially operation ids) IsErrors := by
  induction ids with
  | nil => exact fun _ _ => .inr (isErrors_ok fun _ member => by cases member)
  | cons messageId ids inductionHypothesis =>
      intro client overdue
      have keeps := (program messageId).preserves_overdue client overdue
      rcases mute messageId client overdue with reckless | ⟨error, failed⟩
      · have first : Reckless (finalState
            (attempt (operation messageId) client :
              EStateM.Result Pop3Error _ _)).transport := by
          rw [finalState_attempt]
          exact reckless
        exact .inl (Preserves.finalState_bind first fun _ => Program.preserves_reckless
          (.bind (program_sequentially trivial program ids) fun _ => .pure _))
      · cases run : operation messageId client with
        | ok value after =>
            rw [run] at failed
            cases failed
        | error error after =>
            rw [run] at keeps
            rw [sequentially, bind_of_ok (attempt_of_error run)]
            rcases inductionHypothesis after keeps with reckless | errors
            · exact .inl (Preserves.finalState_bind reckless fun _ =>
                Program.preserves_reckless (.pure _))
            · right
              cases rest : sequentially operation ids after with
              | error error' last =>
                  rw [bind_of_error rest]
                  exact isErrors_error error'
              | ok items last =>
                  rw [bind_of_ok rest]
                  rw [rest] at errors
                  refine isErrors_ok fun item member => ?_
                  rcases List.mem_cons.mp member with rfl | later
                  · exact ⟨error, rfl⟩
                  · exact errors items rfl item later

theorem pipelined_fromOverdue
    (verb : Str)
    {receive : ClientM σ α}
    (program : Program True receive)
    {window : List UInt32}
    (nonempty : window ≠ [])
    (windows : List (List UInt32)) :
    FromOverdue
      (pipelined (fun window => transportField.run (sendWindow verb window)) receive
        (window :: windows)) IsErrors := by
  intro client overdue
  left
  have sent : Reckless (finalState
      (attempt (transportField.run (sendWindow verb window)) client :
        EStateM.Result Pop3Error _ _)).transport := by
    rw [finalState_attempt, Field.finalState_run]
    exact overdue.sendWindow verb nonempty
  refine Preserves.finalState_bind sent fun result => Program.preserves_reckless ?_
  cases result with
  | error error => exact .pure _
  | ok _ =>
      refine .bind (program_drainWindow trivial program window) fun drained => ?_
      dsimp only
      split
      · exact .bind (program_pipelined trivial verb program windows) fun _ => .pure _
      · exact .pure _

theorem chunks_cons (messageId : UInt32) (ids : List UInt32) :
    ∃ windows, chunks pipelineWindow (messageId :: ids) =
      (messageId :: ids.take 3) :: windows :=
  ⟨_, rfl⟩

omit [Server σ] in
theorem many_fromOverdue
    {sequential inPipeline : List UInt32 → ClientM σ (Items α)}
    (first : ∀ ids, FromOverdue (sequential ids) IsErrors)
    (second : ∀ ids, ids ≠ [] → FromOverdue (inPipeline ids) IsErrors)
    (ids : List UInt32) :
    FromOverdue (many sequential inPipeline ids) IsErrors := by
  refine .requireAuth_bind isErrors_error (.ofResult_bind isErrors_error _ fun _ => ?_)
  split
  · exact fun _ _ => .inr (isErrors_ok fun _ member => by cases member)
  · rename_i nonempty
    intro client overdue
    rw [gets_bind_apply]
    split
    · exact second ids nonempty client overdue
    · exact first ids client overdue

theorem retrMany_fromOverdue (ids : List UInt32) :
    FromOverdue (retrMany ids : ClientM σ (Items Message)) IsErrors := by
  refine many_fromOverdue (sequentially_fromOverdue mute_retr program_retr) ?_ ids
  intro ids nonempty
  obtain ⟨messageId, ids, rfl⟩ := List.exists_cons_of_ne_nil nonempty
  obtain ⟨windows, chunked⟩ := chunks_cons messageId ids
  rw [retrManyPipelined, chunked]
  exact pipelined_fromOverdue _ program_readRetrResponse (List.cons_ne_nil _ _) windows

theorem deleMany_fromOverdue (ids : List UInt32) :
    FromOverdue (deleMany ids : ClientM σ (Items Unit)) IsErrors := by
  refine many_fromOverdue (sequentially_fromOverdue mute_dele program_dele) ?_ ids
  intro ids nonempty
  obtain ⟨messageId, ids, rfl⟩ := List.exists_cons_of_ne_nil nonempty
  obtain ⟨windows, chunked⟩ := chunks_cons messageId ids
  rw [deleManyPipelined, chunked]
  exact pipelined_fromOverdue _ program_readDeleResponse (List.cons_ne_nil _ _) windows

/-! ## Calls -/

theorem Mute.silent
    {action : ClientM σ α}
    (mute : Mute action)
    (wrap : α → Value) :
    FromOverdue (do return wrap (← action)) Silent := by
  intro client overdue
  rcases (mute.bind fun _ => .pure _ : Mute (do return wrap (← action))) client overdue with
    reckless | ⟨error, failed⟩
  · exact .inl reckless
  · rw [failed]
    exact .inr (silent_error error)

theorem silent_batch
    {action : ClientM σ (Items α)}
    (errors : FromOverdue action IsErrors)
    {wrap : Items α → Value}
    (silent : ∀ items, AllErrors items → Silent (.ok (wrap items))) :
    FromOverdue (do return wrap (← action)) Silent := by
  intro client overdue
  rcases errors client overdue with reckless | fails
  · exact .inl (Preserves.finalState_bind reckless fun _ =>
      Program.preserves_reckless (.pure _))
  · right
    cases run : action client with
    | ok items after =>
        rw [bind_of_ok run]
        rw [run] at fails
        exact silent items (fails items rfl)
    | error error after =>
        rw [bind_of_error run]
        exact silent_error error

/-- On an overdue connection, a call writes a command or reports nothing. -/
theorem Call.fromOverdue [Md5] :
    ∀ call : Call, call.isCommand = true → FromOverdue (call.run : ClientM σ Value) Silent
  | .stls _, command | .login _ _, command | .apop _ _, command => by cases command
  | .capa, _ => mute_capa.silent _
  | .stat, _ => mute_stat.silent _
  | .list messageId, _ => (mute_list messageId).silent _
  | .uidl messageId, _ => (mute_uidl messageId).silent _
  | .retr messageId, _ => (mute_retr messageId).silent _
  | .top messageId lines, _ => (mute_top messageId lines).silent _
  | .dele messageId, _ => (mute_dele messageId).silent fun _ => .done
  | .rset, _ => mute_rset.silent fun _ => .done
  | .noop, _ => mute_noop.silent fun _ => .done
  | .retrMany ids, _ => silent_batch (retrMany_fromOverdue ids) fun _ => silent_messages
  | .deleMany ids, _ => silent_batch (deleMany_fromOverdue ids) fun _ => silent_deletions
  | .unseenUids seen, _ => (mute_unseenUids seen).silent _
  | .fetchUnseen seen, _ => (mute_fetchUnseen seen).silent _
  | .pruneSeen seen, _ => (mute_pruneSeen seen).silent fun pruned => .pruned pruned.1 pruned.2

end Operations

end Pop3
