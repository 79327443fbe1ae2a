import Pop3.Rust.Failure
import Pop3.Session.Lifecycle
import Pop3.Batches
import Pop3.Connection.Loss

/-!
# Connections that are known to be closed

What `is_closed` says is true and final: the connection is gone, no later call
gets anything from it, and the server hears nothing any more.
-/

namespace Pop3

open Rust Pop3Client

/-! ## What the flag says -/

/-- A poll loop finds the end of the stream only where there is nothing left. -/
theorem Transport.pollLine_end
    {line buffer : List UInt8}
    {net after : Net σ}
    {ticks : List ReadTick}
    (ended : pollLine line net ticks = (.line [], buffer, after)) :
    after.isOpen = false ∧ buffer ++ after.wire = [] := by
  induction ticks generalizing line net with
  | nil =>
      unfold pollLine at ended
      dsimp only at ended
      split at ended
      · rename_i head rest found
        obtain ⟨front, _, rfl, _⟩ := splitFeed_eq_some found
        injection ended with line _
        injection line with line
        simp at line
      · split at ended
        · cases ended
        · rename_i closed
          injection ended with _ rest
          injection rest with buffer after
          subst buffer after
          exact ⟨Bool.eq_false_iff.mpr closed, rfl⟩
  | cons tick ticks inductionHypothesis =>
      cases tick with
      | deadline => cases ended
      | drop loss =>
          cases loss with
          | endOfFile =>
              injection ended with _ rest
              injection rest with buffer after
              subst buffer after
              exact ⟨rfl, rfl⟩
          | error error | silence => cases ended
      | arrive count =>
          unfold pollLine at ended
          dsimp only at ended
          split at ended
          · rename_i nothing
            split at ended
            · cases ended
            · rename_i closed
              injection ended with _ rest
              injection rest with buffer after
              subst buffer after
              exact ⟨Bool.eq_false_iff.mpr closed, by simp [nothing]⟩
          · split at ended
            · rename_i head rest found
              obtain ⟨front, _, rfl, _⟩ := splitFeed_eq_some found
              injection ended with line _
              injection line with line
              simp at line
            · exact inductionHypothesis ended

theorem Transport.readUntil_end
    {transport after : Transport σ}
    (ended : readUntil transport = (.line [], after)) :
    Dead after := by
  unfold readUntil at ended
  split at ended
  · rename_i line rest found
    obtain ⟨front, _, rfl, _⟩ := splitFeed_eq_some found
    injection ended with line _
    injection line with line
    simp at line
  · split at ended
    · cases ended
    · dsimp only at ended
      injection ended with read same
      subst same
      obtain ⟨closed, nothing⟩ := pollLine_end (Prod.ext read rfl)
      exact ⟨closed, nothing⟩

/-- What is known to be closed is lost. -/
def Honest (transport : Transport σ) : Prop := transport.isClosed = true → Dead transport

theorem preserves_honest_readLine :
    Preserves Honest (Transport.readLine : TransportM σ Str) := by
  intro transport honest
  by_cases closed : transport.isClosed = true
  · exact fun _ => preserves_dead_readLine transport (honest closed)
  have open_ : (Transport.readUntil transport).2.isClosed = transport.isClosed := by
    unfold Transport.readUntil
    split
    · rfl
    · split <;> rfl
  rw [Transport.readLine_eq]
  generalize waited : Transport.readUntil transport = wait at open_
  obtain ⟨read, after⟩ := wait
  have still : after.isClosed ≠ true := open_ ▸ closed
  cases read with
  | timedOut lost => exact fun closes => absurd closes still
  | failed error => exact fun closes => absurd closes still
  | line bytes =>
      unfold Transport.afterWait
      dsimp only
      split
      · exact fun closes => absurd closes still
      · split
        · rename_i nothing
          have dead := Transport.readUntil_end (List.length_eq_zero_iff.mp nothing ▸ waited)
          exact fun _ => ⟨dead.isOpen, dead.pending⟩
        · exact fun closes => absurd closes still

theorem survivesSteps_honest [Server σ] : SurvivesSteps (Honest : Transport σ → Prop) := by
  refine SurvivesWrites.steps ⟨?_, ?_⟩ preserves_honest_readLine
  · intro transport bytes honest closed
    have same : (Transport.pollWrite bytes transport).2.2.isClosed = transport.isClosed := by
      unfold Transport.pollWrite
      split
      · rfl
      · dsimp only
        split <;> rfl
    exact survivesWrites_dead.pollWrite transport bytes (honest (same ▸ closed))
  · exact fun transport unflushed honest closed =>
      survivesWrites_dead.unflushed transport unflushed (honest closed)

theorem preserves_dead_upgradeInPlace (hostname : Str) :
    Preserves Dead (Transport.upgradeInPlace hostname : TransportM σ Unit) := by
  intro transport dead
  rcases Transport.upgradeInPlace_cases hostname transport with
    ⟨error, run, _⟩ | ⟨error, run, _⟩ | ⟨run, _⟩
  · rw [run]
    exact dead
  · rw [run]
    exact ⟨rfl, rfl⟩
  · rw [run]
    exact ⟨dead.isOpen, rfl⟩

theorem preserves_honest_upgradeInPlace (hostname : Str) :
    Preserves Honest (Transport.upgradeInPlace hostname : TransportM σ Unit) := by
  intro transport honest closed
  refine preserves_dead_upgradeInPlace hostname transport (honest ?_)
  rcases Transport.upgradeInPlace_cases hostname transport with
    ⟨error, run, _⟩ | ⟨error, run, _⟩ | ⟨run, _⟩
  all_goals
    rw [run] at closed
    exact closed

/-! ## What a lost connection gives -/

/-- The connection is lost, and its server is in this state. -/
structure LostAt (server : σ) (transport : Transport σ) : Prop where
  dead : Dead transport
  server : transport.net.server = server

theorem Transport.server_readUntil (transport : Transport σ) :
    (readUntil transport).2.net.server = transport.net.server := by
  unfold readUntil
  split
  · rfl
  · split
    · rfl
    · change (pollLine transport.buffer transport.net transport.net.reads).2.2.server = _
      rcases pollLine_net transport.buffer transport.net transport.net.reads with
        ⟨wire, reads, _, same⟩ | ⟨loss, reads, _, same⟩
      · rw [same]
      · rw [same]
        rfl

theorem survivesSteps_lostAt [Server σ] (server : σ) :
    SurvivesSteps (LostAt server : Transport σ → Prop) := by
  refine SurvivesWrites.steps ?_ ?_
  · refine .of_emit
      (fun transport unflushed lost =>
        ⟨survivesWrites_dead.unflushed transport unflushed lost.dead, lost.server⟩) ?_ ?_
    · intro transport bytes lost
      rw [Transport.emit, Net.receive_of_closed (by exact lost.dead.isOpen)]
      exact ⟨⟨lost.dead.isOpen, lost.dead.pending⟩, lost.server⟩
    · intro transport lost
      obtain ⟨buffer, _⟩ := List.append_eq_nil_iff.mp lost.dead.pending
      exact ⟨⟨rfl, by rw [Transport.pending, buffer]; rfl⟩, lost.server⟩
  · intro transport lost
    refine ⟨preserves_dead_readLine transport lost.dead, ?_⟩
    rw [Transport.readLine_eq]
    exact Transport.finalState_afterWait
      (motive := fun after => after.net.server = server)
      (fun _ _ => id) (fun _ _ => id) (fun _ => id)
      ((Transport.server_readUntil transport).trans lost.server)

theorem preserves_lostAt_upgradeInPlace (server : σ) (hostname : Str) :
    Preserves (LostAt server) (Transport.upgradeInPlace hostname : TransportM σ Unit) := by
  intro transport lost
  refine ⟨preserves_dead_upgradeInPlace hostname transport lost.dead, ?_⟩
  rcases Transport.upgradeInPlace_cases hostname transport with
    ⟨error, run, _⟩ | ⟨error, run, _⟩ | ⟨run, _⟩
  all_goals
    rw [run]
    exact lost.server

/-- The connection of the client is lost. -/
abbrev Pop3Client.IsLost (client : Pop3Client σ) : Prop := Dead client.transport

/-- Every item of a batch is an error. -/
def Items.AllFailed (items : Items α) : Prop := ∀ item ∈ items, IsError item

/-- The result has nothing that a server could have sent. -/
def GetsNothing : Except Pop3Error Value → Prop
  | .ok (.messages items) => Items.AllFailed items
  | .ok (.deletions items) => Items.AllFailed items
  | .ok _ => False
  | .error _ => True

section Losing

variable [Server σ]

theorem keepsLost
    {action : ClientM σ α}
    (program : Program True action) :
    Preserves Pop3Client.IsLost action :=
  program.preserves survivesSteps_dead

omit [Server σ] in
theorem failsIn_readLine :
    FailsIn Pop3Client.IsLost (transportField.run Transport.readLine : ClientM σ Str) := by
  refine @FailsIn.field _ _ _ _ transportField Dead _ fun transport dead => ?_
  obtain ⟨error, after, run, _⟩ := dead.readLine
  exact ⟨error, congrArg returned run⟩

theorem failsIn_sendAndCheck (command : Str) :
    FailsIn Pop3Client.IsLost (sendAndCheck command : ClientM σ Str) := by
  refine .behind ?_ fun _ => failsIn_readLine.first _
  exact Preserves.onTransport (survivesSteps_dead.send command)

omit [Server σ] in
/-- A check may come before what fails. -/
theorem failsIn_check
    {result : Except Pop3Error α}
    {next : α → ClientM σ β}
    (fails : ∀ value, FailsIn Pop3Client.IsLost (next value)) :
    FailsIn Pop3Client.IsLost (ofResult result >>= next) :=
  .behind (.ofResult result) fails

/-- The check of the session's state may, too. -/
theorem failsIn_authorized
    {next : Unit → ClientM σ α}
    (fails : FailsIn Pop3Client.IsLost (next ())) :
    FailsIn Pop3Client.IsLost (requireAuth >>= next) :=
  .behind (keepsLost program_requireAuth) fun _ => fails

theorem failsIn_retr (messageId : UInt32) :
    FailsIn Pop3Client.IsLost (retr messageId : ClientM σ Message) :=
  failsIn_authorized (failsIn_check fun _ => (failsIn_sendAndCheck _).first _)

theorem failsIn_dele (messageId : UInt32) :
    FailsIn Pop3Client.IsLost (dele messageId : ClientM σ Unit) :=
  failsIn_authorized (failsIn_check fun _ => (failsIn_sendAndCheck _).first _)

theorem failsIn_list (messageId : Option UInt32) :
    FailsIn Pop3Client.IsLost (list messageId : ClientM σ (List ListEntry)) := by
  cases messageId with
  | some messageId =>
      exact failsIn_authorized (failsIn_check fun _ => (failsIn_sendAndCheck _).first _)
  | none => exact failsIn_authorized ((failsIn_sendAndCheck _).first _)

theorem failsIn_uidl (messageId : Option UInt32) :
    FailsIn Pop3Client.IsLost (uidl messageId : ClientM σ (List UidlEntry)) := by
  cases messageId with
  | some messageId =>
      exact failsIn_authorized (failsIn_check fun _ => (failsIn_sendAndCheck _).first _)
  | none => exact failsIn_authorized ((failsIn_sendAndCheck _).first _)

theorem failsIn_login (username password : Str) :
    FailsIn Pop3Client.IsLost (login username password : ClientM σ Unit) :=
  .behind (.gets _) fun _ => failsIn_check fun _ => failsIn_check fun _ => failsIn_check fun _ =>
    (failsIn_sendAndCheck _).mapError.first _

theorem failsIn_apop [Md5] (username password : Str) :
    FailsIn Pop3Client.IsLost (apop username password : ClientM σ Unit) :=
  .behind (.gets _) fun _ => failsIn_check fun _ => failsIn_check fun _ => failsIn_check fun _ =>
    .behind (.gets _) fun _ => failsIn_check fun _ => (failsIn_sendAndCheck _).mapError.first _

theorem failsIn_stls (hostname : Str) :
    FailsIn Pop3Client.IsLost (stls hostname : ClientM σ Unit) :=
  .behind (.gets _) fun _ => failsIn_check fun _ =>
    .behind (.gets _) fun _ => failsIn_check fun _ =>
      (failsIn_sendAndCheck _).first _

theorem failsIn_quit : FailsIn Pop3Client.IsLost (quit : ClientM σ Unit) := by
  refine .behind ?_ fun _ => failsIn_readLine.first _
  exact Preserves.onTransport (survivesSteps_dead.send "QUIT".toList)

/-! Batches. -/

omit [Server σ] in
/-- One after the other, all of them fail. -/
theorem allFailed_sequentially
    {operation : UInt32 → ClientM σ α}
    (fails : ∀ messageId, FailsIn Pop3Client.IsLost (operation messageId))
    (keeps : ∀ messageId, Preserves Pop3Client.IsLost (operation messageId))
    {ids : List UInt32}
    {client : Pop3Client σ}
    (lost : client.IsLost)
    {items : Items α}
    (done : returned (sequentially operation ids client) = .ok items) :
    Items.AllFailed items := by
  induction ids generalizing client items with
  | nil =>
      cases done
      exact fun item member => absurd member List.not_mem_nil
  | cons messageId ids inductionHypothesis =>
      obtain ⟨error, failed⟩ := fails messageId client lost
      rw [sequentially, bind_of_ok (attempt_apply _ _), failed] at done
      obtain ⟨rest, others⟩ :=
        sequentially_isOk operation ids (finalState (operation messageId client))
      rw [bind_of_ok (eq_ok_of_returned others)] at done
      cases done
      have failures := inductionHypothesis (keeps messageId client lost) others
      intro item member
      rcases List.mem_cons.mp member with rfl | member
      · exact ⟨error, rfl⟩
      · exact failures item member

theorem allFailed_fillUp (missing : Nat) (error : Pop3Error) :
    Items.AllFailed (fillUp missing error : Items α) :=
  fun _ member => ⟨error, List.eq_of_mem_replicate member⟩

/-- In windows, the first reply that is missing fails all of them. -/
theorem allFailed_pipelined
    {verb : Str}
    {receive : ClientM σ α}
    (fails : ∀ client : Pop3Client σ, client.IsLost →
      ∃ error, returned (receive client) = .error error ∧ isIoLevel error = true)
    {windows : List (List UInt32)}
    (nonempty : ∀ window ∈ windows, window ≠ [])
    {client : Pop3Client σ}
    (lost : client.IsLost)
    {items : Items α}
    (done : returned (pipelined (fun window => transportField.run (sendWindow verb window)) receive
      windows client) = .ok items) :
    Items.AllFailed items := by
  cases windows with
  | nil =>
      cases done
      exact fun item member => absurd member List.not_mem_nil
  | cons window windows =>
      have keeps := Preserves.onTransport (survivesSteps_dead.window verb window) client lost
      cases sent : transportField.run (sendWindow verb window) client with
      | error error middle =>
          rw [pipelined_of_unsent sent] at done
          cases done
          exact allFailed_fillUp _ _
      | ok _ middle =>
          rw [sent] at keeps
          obtain ⟨error, failed, ioLevel⟩ := fails middle keeps
          have cut : drainWindow receive window middle =
              .ok ([], false) (finalState (receive middle)) := by
            obtain ⟨messageId, rest, rfl⟩ :=
              List.exists_cons_of_ne_nil (nonempty window List.mem_cons_self)
            exact drainWindow_stops failed ioLevel messageId rest
          rw [pipelined_of_cut sent cut] at done
          cases done
          exact allFailed_fillUp _ _

omit [Server σ] in
/-- No window is empty. -/
theorem ne_nil_of_mem_chunks
    {ids window : List UInt32}
    (member : window ∈ chunks pipelineWindow ids) :
    window ≠ [] := by
  have nonempty : ∀ (rounds : Nat) (items : List UInt32),
      ∀ chunk ∈ chunksUpTo pipelineWindow rounds items, chunk ≠ [] := by
    intro rounds
    induction rounds with
    | zero =>
        intro items chunk member
        cases items <;> cases member
    | succ rounds inductionHypothesis =>
        intro items chunk member
        cases items with
        | nil => cases member
        | cons item items =>
            rcases List.mem_cons.mp member with rfl | member
            · simp [pipelineWindow]
            · exact inductionHypothesis _ chunk member
  exact nonempty _ _ window member

omit [Server σ] in
/-- A batch that fails whichever way it goes. -/
theorem allFailed_many
    {sequential inPipeline : List UInt32 → ClientM σ (Items α)}
    {ids : List UInt32}
    {client : Pop3Client σ}
    (first : ∀ items, returned (sequential ids client) = .ok items → Items.AllFailed items)
    (second : ∀ items, returned (inPipeline ids client) = .ok items → Items.AllFailed items)
    {items : Items α}
    (done : returned (many sequential inPipeline ids client) = .ok items) :
    Items.AllFailed items := by
  by_cases authenticated : client.state = .authenticated
  swap
  · rw [many, requireAuth_bind_of_ne authenticated] at done
    cases done
  rw [many, requireAuth_bind authenticated] at done
  cases valid : validateMessageIds ids with
  | error error =>
      rw [valid, ofResult_error_bind] at done
      cases done
  | ok _ =>
      rw [valid, ofResult_ok_bind] at done
      split at done
      · cases done
        exact fun item member => absurd member List.not_mem_nil
      · rw [gets_bind_apply] at done
        split at done
        · exact second items done
        · exact first items done

theorem allFailed_retrMany
    {ids : List UInt32}
    {client : Pop3Client σ}
    (lost : client.IsLost)
    {items : Items Message}
    (done : returned (retrMany ids client) = .ok items) :
    Items.AllFailed items := by
  refine allFailed_many (fun items => allFailed_sequentially failsIn_retr
    (fun _ => keepsLost (program_retr _)) lost) (fun items => ?_) done
  refine allFailed_pipelined (fun client lost => ?_) (fun _ => ne_nil_of_mem_chunks) lost
  obtain ⟨error, after, run, ioLevel, _⟩ := Dead.readLine lost
  exact ⟨error, congrArg returned (bind_of_error (Field.run_of_error run)), ioLevel⟩

theorem allFailed_deleMany
    {ids : List UInt32}
    {client : Pop3Client σ}
    (lost : client.IsLost)
    {items : Items Unit}
    (done : returned (deleMany ids client) = .ok items) :
    Items.AllFailed items := by
  refine allFailed_many (fun items => allFailed_sequentially failsIn_dele
    (fun _ => keepsLost (program_dele _)) lost) (fun items => ?_) done
  refine allFailed_pipelined (fun client lost => ?_) (fun _ => ne_nil_of_mem_chunks) lost
  obtain ⟨error, after, run, ioLevel, _⟩ := Dead.readLine lost
  exact ⟨error, congrArg returned (bind_of_error (Field.run_of_error run)), ioLevel⟩

omit [Server σ] in
theorem getsNothing_of_fails
    {action : ClientM σ Value}
    (fails : FailsIn Pop3Client.IsLost action)
    {client : Pop3Client σ}
    (lost : client.IsLost) :
    GetsNothing (returned (action client)) := by
  obtain ⟨error, failed⟩ := fails client lost
  rw [failed]
  trivial

variable [Md5]

/-- No call gets anything from a lost connection. -/
theorem Call.getsNothing (call : Call) {client : Pop3Client σ} (lost : client.IsLost) :
    GetsNothing (returned (call.run client)) := by
  cases call with
  | retrMany ids =>
      rw [Call.run, returned_bind_pure]
      cases done : returned (Pop3Client.retrMany ids client) with
      | error error => trivial
      | ok items => exact allFailed_retrMany lost done
  | deleMany ids =>
      rw [Call.run, returned_bind_pure]
      cases done : returned (Pop3Client.deleMany ids client) with
      | error error => trivial
      | ok items => exact allFailed_deleMany lost done
  | stls hostname => exact getsNothing_of_fails ((failsIn_stls hostname).first _) lost
  | login username password =>
      exact getsNothing_of_fails ((failsIn_login username password).first _) lost
  | apop username password =>
      exact getsNothing_of_fails ((failsIn_apop username password).first _) lost
  | capa => exact getsNothing_of_fails (((failsIn_sendAndCheck _).first _).first _) lost
  | stat =>
      exact getsNothing_of_fails ((failsIn_authorized ((failsIn_sendAndCheck _).first _)).first _)
        lost
  | list messageId => exact getsNothing_of_fails ((failsIn_list messageId).first _) lost
  | uidl messageId => exact getsNothing_of_fails ((failsIn_uidl messageId).first _) lost
  | retr messageId => exact getsNothing_of_fails ((failsIn_retr messageId).first _) lost
  | top messageId lines =>
      exact getsNothing_of_fails ((failsIn_authorized (failsIn_check fun _ =>
        (failsIn_sendAndCheck _).first _)).first _) lost
  | dele messageId => exact getsNothing_of_fails ((failsIn_dele messageId).first _) lost
  | rset | noop =>
      exact getsNothing_of_fails ((failsIn_authorized ((failsIn_sendAndCheck _).first _)).first _)
        lost
  | unseenUids seen => exact getsNothing_of_fails (((failsIn_uidl none).first _).first _) lost
  | fetchUnseen seen =>
      exact getsNothing_of_fails ((((failsIn_uidl none).first _).first _).first _) lost
  | pruneSeen seen => exact getsNothing_of_fails (((failsIn_uidl none).first _).first _) lost

/-! ## Runs -/

theorem Call.honest_runAll
    {client : Pop3Client σ}
    (honest : Honest client.transport)
    (calls : List Call) :
    Honest (runAll calls client).transport :=
  preserves_runAll survivesSteps_honest preserves_honest_upgradeInPlace calls honest

/-- Closing is final. -/
theorem Call.isClosed_run
    {client : Pop3Client σ}
    (closed : client.isClosed = true)
    (call : Call) :
    (finalState (call.run client)).isClosed = true := by
  rcases call.moves client with
    ⟨continues, _⟩ | ⟨_, authenticates, _⟩ | ⟨_, _, encrypts, _⟩
  · exact continues.isClosed closed
  · exact authenticates.isClosed closed
  · exact encrypts.isClosed closed

omit [Server σ] [Md5] in
/-- A new connection is not known to be closed, unless it has ended before its greeting. -/
theorem honest_of_connects
    {net : Net σ}
    {client : Pop3Client σ}
    (connects : Connects net client) :
    Honest client.transport := by
  obtain ⟨stream, encrypted, _, greets⟩ := connects.greets
  rw [(eq_of_greet greets).2]
  exact preserves_honest_readLine _ fun closed => by cases closed

/-- As soon as a client is known to be closed, whatever the server sends and whatever the
connection does: no later call gets anything, the client stays closed, the server hears
nothing more, and the session cannot be ended with success. -/
theorem closed_is_final
    {net : Net σ}
    {client : Pop3Client σ}
    (connects : Connects net client)
    (calls : List Call)
    (closed : (Call.runAll calls client).isClosed = true)
    (later : List Call) :
    ∀ outcome ∈ Call.runs later (Call.runAll calls client),
      GetsNothing outcome.1 ∧ outcome.2.isClosed = true ∧
        outcome.2.transport.net.server = (Call.runAll calls client).transport.net.server ∧
        ∃ error, returned (quit outcome.2) = .error error := by
  have honest := Call.honest_runAll (honest_of_connects connects) calls
  generalize Call.runAll calls client = reached at closed honest
  have lost : LostAt reached.transport.net.server reached.transport := ⟨honest closed, rfl⟩
  generalize reached.transport.net.server = server at lost ⊢
  induction later generalizing reached with
  | nil => exact fun _ member => absurd member List.not_mem_nil
  | cons call later inductionHypothesis =>
      have closed' := call.isClosed_run closed
      have lost' : LostAt server (finalState (call.run reached)).transport :=
        Call.preserves (survivesSteps_lostAt server) (preserves_lostAt_upgradeInPlace server)
          call reached lost
      intro outcome member
      rcases List.mem_cons.mp member with rfl | member
      · exact ⟨call.getsNothing lost.dead, closed', lost'.server, failsIn_quit _ lost'.dead⟩
      · exact inductionHypothesis _ closed' (fun _ => lost'.dead) lost' outcome member

end Losing

/-- The server is gone when the first command is answered. -/
theorem closed_is_final_greeted :
    let reached := @Call.runAll _ _ emptyDigest [.capa] (greeted [] [.drop .endOfFile])
    ∀ outcome ∈ @Call.runs _ _ emptyDigest [.capa, .login "user".toList "secret".toList] reached,
      GetsNothing outcome.1 ∧ outcome.2.isClosed = true ∧
        outcome.2.transport.net.server = reached.transport.net.server ∧
        ∃ error, returned (quit outcome.2) = .error error :=
  @closed_is_final _ _ emptyDigest _ _ (connects_greeted [] [.drop .endOfFile]) [.capa]
    (by decide +kernel) _

end Pop3
