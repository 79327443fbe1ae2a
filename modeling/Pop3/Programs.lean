import Pop3.Call
import Pop3.Rust.Simulation

/-!
# Operations as programs

Apart from authentication and STLS, every operation is a program over four
steps: send a command, read a line, send a window of commands, and look at the
client.
-/

namespace Pop3

open Rust Pop3Client

/-- The steps in which an operation touches its connection. -/
inductive NetworkStep [Server σ] : ∀ {α : Type}, ClientM σ α → Prop
  | send (command : Str) :
      NetworkStep (transportField.run (Transport.sendCommand command))
  | read : NetworkStep (transportField.run Transport.readLine)
  | window (verb : Str) (ids : List UInt32) :
      NetworkStep (attempt (transportField.run (sendWindow verb ids)))
  | look {α : Type} (read : Pop3Client σ → α) : NetworkStep (gets read)

/-- A program over these steps. -/
abbrev Program [Server σ] {α : Type} (catching : Prop) (action : ClientM σ α) : Prop :=
  Built NetworkStep catching action

section Programs

variable [Server σ] {catching : Prop}

theorem program_sendAndCheck (command : Str) :
    Program catching (sendAndCheck command : ClientM σ Str) := by
  refine .bind (.primitive (.send command)) fun _ => ?_
  exact .bind (.primitive .read) fun line => .ofResult _

theorem program_readMultilineUpTo (rounds : Nat) (body : Str) :
    Program catching
      (transportField.run (Transport.readMultilineUpTo rounds body) : ClientM σ Str) := by
  induction rounds generalizing body with
  | zero =>
      rw [Transport.readMultilineUpTo, Field.run_throw]
      exact .throw _
  | succ rounds inductionHypothesis =>
      rw [Transport.readMultilineUpTo, Field.run_bind]
      refine .bind (.primitive .read) fun line => ?_
      dsimp only
      split
      · rw [Field.run_pure]
        exact .pure body
      · exact inductionHypothesis _

theorem program_readBody : Program catching (readBody : ClientM σ Str) := by
  rw [readBody, Transport.readMultiline, Field.run_bind, Field.run_gets]
  exact .bind (.primitive (.look _)) fun _ => program_readMultilineUpTo _ _

theorem program_requireAuth : Program catching (requireAuth : ClientM σ Unit) :=
  .bind (.primitive (.look _)) fun _ => .ofResult _

theorem program_capa : Program catching (capa : ClientM σ (List Capability)) :=
  .bind (program_sendAndCheck _) fun _ => .bind program_readBody fun _ => .pure _

theorem program_stat : Program catching (stat : ClientM σ Stat) :=
  .bind program_requireAuth fun _ => .bind (program_sendAndCheck _) fun _ => .ofResult _

theorem program_list (messageId : Option UInt32) :
    Program catching (list messageId : ClientM σ (List ListEntry)) := by
  refine .bind program_requireAuth fun _ => ?_
  cases messageId with
  | some messageId =>
      exact .bind (.ofResult _) fun _ => .bind (program_sendAndCheck _) fun _ =>
        .bind (.ofResult _) fun _ => .pure _
  | none =>
      exact .bind (program_sendAndCheck _) fun _ => .bind program_readBody fun _ =>
        .ofResult _

theorem program_uidl (messageId : Option UInt32) :
    Program catching (uidl messageId : ClientM σ (List UidlEntry)) := by
  refine .bind program_requireAuth fun _ => ?_
  cases messageId with
  | some messageId =>
      exact .bind (.ofResult _) fun _ => .bind (program_sendAndCheck _) fun _ =>
        .bind (.ofResult _) fun _ => .pure _
  | none =>
      exact .bind (program_sendAndCheck _) fun _ => .bind program_readBody fun _ =>
        .ofResult _

theorem program_retr (messageId : UInt32) :
    Program catching (retr messageId : ClientM σ Message) :=
  .bind program_requireAuth fun _ => .bind (.ofResult _) fun _ =>
    .bind (program_sendAndCheck _) fun _ => .bind program_readBody fun _ => .pure _

theorem program_top (messageId lines : UInt32) :
    Program catching (top messageId lines : ClientM σ Message) :=
  .bind program_requireAuth fun _ => .bind (.ofResult _) fun _ =>
    .bind (program_sendAndCheck _) fun _ => .bind program_readBody fun _ => .pure _

theorem program_dele (messageId : UInt32) :
    Program catching (dele messageId : ClientM σ Unit) :=
  .bind program_requireAuth fun _ => .bind (.ofResult _) fun _ =>
    .bind (program_sendAndCheck _) fun _ => .pure _

theorem program_rset : Program catching (rset : ClientM σ Unit) :=
  .bind program_requireAuth fun _ => .bind (program_sendAndCheck _) fun _ => .pure _

theorem program_noop : Program catching (noop : ClientM σ Unit) :=
  .bind program_requireAuth fun _ => .bind (program_sendAndCheck _) fun _ => .pure _

/-! ## Batches -/

theorem program_sequentially
    (catches : catching)
    {operation : UInt32 → ClientM σ α}
    (each : ∀ messageId, Program catching (operation messageId))
    (ids : List UInt32) :
    Program catching (sequentially operation ids) := by
  induction ids with
  | nil => exact .pure []
  | cons messageId ids inductionHypothesis =>
      exact .bind (.attempt catches (each messageId)) fun _ =>
        .bind inductionHypothesis fun _ => .pure _

theorem program_drainWindow
    (catches : catching)
    {receive : ClientM σ α}
    (program : Program catching receive)
    (window : List UInt32) :
    Program catching (drainWindow receive window) := by
  induction window with
  | nil => exact .pure _
  | cons messageId window inductionHypothesis =>
      refine .bind (.attempt catches program) fun result => ?_
      cases result with
      | ok value => exact .bind inductionHypothesis fun _ => .pure _
      | error error =>
          dsimp only
          split
          · exact .pure _
          · exact .bind inductionHypothesis fun _ => .pure _

theorem program_pipelined
    (catches : catching)
    (verb : Str)
    {receive : ClientM σ α}
    (program : Program catching receive)
    (windows : List (List UInt32)) :
    Program catching
      (pipelined (fun window => transportField.run (sendWindow verb window)) receive
        windows) := by
  induction windows with
  | nil => exact .pure []
  | cons window windows inductionHypothesis =>
      refine .bind (.primitive (.window verb window)) fun sent => ?_
      cases sent with
      | error error => exact .pure _
      | ok _ =>
          refine .bind (program_drainWindow catches program window) fun drained => ?_
          dsimp only
          split
          · exact .bind inductionHypothesis fun _ => .pure _
          · exact .pure _

theorem program_readRetrResponse :
    Program catching (readRetrResponse : ClientM σ Message) :=
  .bind (.primitive .read) fun _ => .bind (.ofResult _) fun _ =>
    .bind program_readBody fun _ => .pure _

theorem program_readDeleResponse :
    Program catching (readDeleResponse : ClientM σ Unit) :=
  .bind (.primitive .read) fun _ => .bind (.ofResult _) fun _ => .pure _

theorem program_many
    {sequential inPipeline : List UInt32 → ClientM σ (Items α)}
    (ids : List UInt32)
    (first : Program catching (sequential ids))
    (second : Program catching (inPipeline ids)) :
    Program catching (many sequential inPipeline ids) := by
  refine .bind program_requireAuth fun _ => .bind (.ofResult _) fun _ => ?_
  split
  · exact .pure []
  · refine .bind (.primitive (.look _)) fun _ => ?_
    split
    · exact second
    · exact first

theorem program_retrMany (catches : catching) (ids : List UInt32) :
    Program catching (retrMany ids : ClientM σ (Items Message)) :=
  program_many ids (program_sequentially catches program_retr ids)
    (program_pipelined catches _ program_readRetrResponse _)

theorem program_deleMany (catches : catching) (ids : List UInt32) :
    Program catching (deleMany ids : ClientM σ (Items Unit)) :=
  program_many ids (program_sequentially catches program_dele ids)
    (program_pipelined catches _ program_readDeleResponse _)

/-! ## Incremental sync -/

theorem program_unseenUids (seen : UidSet) :
    Program catching (unseenUids seen : ClientM σ (List UidlEntry)) :=
  .bind (program_uidl none) fun _ => .pure _

theorem program_fetchEach (entries : List UidlEntry) :
    Program catching (fetchEach entries : ClientM σ (List (UidlEntry × Message))) := by
  induction entries with
  | nil => exact .pure []
  | cons entry entries inductionHypothesis =>
      exact .bind (program_retr _) fun _ => .bind inductionHypothesis fun _ => .pure _

theorem program_fetchUnseen (seen : UidSet) :
    Program catching (fetchUnseen seen : ClientM σ (List (UidlEntry × Message))) :=
  .bind (program_unseenUids seen) fun entries => program_fetchEach entries

theorem program_pruneSeen (seen : UidSet) :
    Program catching (pruneSeen seen : ClientM σ (List Str × UidSet)) :=
  .bind (program_uidl none) fun _ => .pure _

end Programs

namespace Call

/-- The operations that neither authenticate nor change the stream. -/
def isCommand : Call → Bool
  | stls _ | login _ _ | apop _ _ => false
  | _ => true

/-- Every such operation is a program. -/
theorem program_run [Server σ] [Md5] :
    ∀ call : Call, call.isCommand = true → Program True (call.run : ClientM σ Value)
  | stls _, command | login _ _, command | apop _ _, command => by cases command
  | capa, _ => .bind program_capa fun _ => .pure _
  | stat, _ => .bind program_stat fun _ => .pure _
  | list messageId, _ => .bind (program_list messageId) fun _ => .pure _
  | uidl messageId, _ => .bind (program_uidl messageId) fun _ => .pure _
  | retr messageId, _ => .bind (program_retr messageId) fun _ => .pure _
  | top messageId lines, _ => .bind (program_top messageId lines) fun _ => .pure _
  | dele messageId, _ => .bind (program_dele messageId) fun _ => .pure _
  | rset, _ => .bind program_rset fun _ => .pure _
  | noop, _ => .bind program_noop fun _ => .pure _
  | retrMany ids, _ => .bind (program_retrMany trivial ids) fun _ => .pure _
  | deleMany ids, _ => .bind (program_deleMany trivial ids) fun _ => .pure _
  | unseenUids seen, _ => .bind (program_unseenUids seen) fun _ => .pure _
  | fetchUnseen seen, _ => .bind (program_fetchUnseen seen) fun _ => .pure _
  | pruneSeen seen, _ => .bind (program_pruneSeen seen) fun _ => .pure _

end Call

end Pop3
