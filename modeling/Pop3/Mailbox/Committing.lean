import Pop3.Mailbox.Visiting

/-!
# What a session removes

The caller of a client enters in a ledger which deletions have been accepted.  When the
session ends with `QUIT`, these are the messages that are gone from the account, and
before that none is.
-/

namespace Pop3

open Rust Framing Pop3Client

/-- The ledger after a sequence of calls, from what they have returned. -/
def owed : List UInt32 → List Call → List (Except Pop3Error Value) → List UInt32
  | ledger, call :: calls, result :: results =>
      owed (ledgerAfter ledger call (result.map .fresh)) calls results
  | ledger, _, _ => ledger

/-- The messages are these, and the marked ones are those of the ledger. -/
structure MailServer.Owes (mails : List Mail) (ledger : List UInt32) (server : MailServer) :
    Prop where
  mails : server.mailbox.mails = mails
  marks : ∀ messageId, messageId ∈ server.mailbox.marks ↔ messageId ∈ ledger

/-- A call that neither deletes nor resets does not touch the ledger. -/
theorem ledgerAfter_of_named
    {call : Call}
    (keeps : ∀ value ledger, ledgerAfter ledger call (.ok (.fresh value)) = ledger)
    (ledger : List UInt32)
    (result : Except Pop3Error Value) :
    ledgerAfter ledger call (result.map .fresh) = ledger := by
  cases result with
  | error => rfl
  | ok value => exact keeps value ledger

namespace MailServer

variable {mails : List Mail} {ledger : List UInt32} {server : MailServer}

/-! ## One call -/

theorem Owes.next
    (owes : Owes mails ledger server) :
    Owes mails ledger (server.next server.mailbox) :=
  ⟨owes.mails, owes.marks⟩

/-- Whoever only reads marks nothing. -/
theorem preserves_lookUp (read : Mailbox → Option α) :
    Preserves (Owes mails ledger) (lookUp read) := by
  intro server owes
  cases granted : (if server.choice.refuses then none else read server.mailbox) with
  | none =>
      rw [lookUp, request_of_none granted]
      exact owes.next
  | some value =>
      rw [lookUp, request_of_some granted]
      exact owes.next

theorem preserves_mapM
    {operation : β → Action Pop3Error MailServer α}
    (preserves : ∀ item, Preserves (Owes mails ledger) (operation item))
    (items : List β) :
    Preserves (Owes mails ledger) (items.mapM operation) := by
  induction items with
  | nil => exact .pure []
  | cons item items inductionHypothesis =>
      rw [List.mapM_cons]
      exact .bind (preserves item) fun _ => .bind inductionHypothesis fun _ => .pure _

theorem preserves_retr (messageId : UInt32) :
    Preserves (Owes mails ledger) (retr messageId) :=
  .bind (.ofResult _) fun _ => preserves_lookUp _

/-- The deletion of a message is entered exactly if it is accepted. -/
theorem owes_dele
    (owes : Owes mails ledger server)
    (messageId : UInt32) :
    Owes mails (if (returned (dele messageId server)).isOk then ledger ++ [messageId] else ledger)
      (finalState (dele messageId server)) := by
  unfold dele checkNumber
  by_cases zero : messageId = 0
  · rw [if_pos zero]
    exact owes
  · rw [if_neg zero, ofResult_ok_bind]
    cases granted : (if server.choice.refuses then none else
        (server.mailbox.find messageId).map fun _ => ()) with
    | none =>
        rw [request_of_none granted]
        exact owes.next
    | some value =>
        rw [request_of_some granted]
        refine ⟨owes.mails, fun other => ?_⟩
        change other ∈ insert messageId server.mailbox.marks ↔ other ∈ ledger ++ [messageId]
        rw [Finset.mem_insert, owes.marks, List.mem_append, List.mem_singleton]
        exact Or.comm

/-- A batch of deletions always returns. -/
theorem owes_deleMany
    (owes : Owes mails ledger server)
    (ids : List UInt32) :
    ∃ items after,
      (ids.mapM (fun messageId => attempt (dele messageId)) :
        Action Pop3Error MailServer (Items Unit)) server = .ok items after ∧
      Owes mails (ledger ++ accepted ids items) after := by
  induction ids generalizing server ledger with
  | nil =>
      refine ⟨[], server, rfl, ?_⟩
      change Owes mails (ledger ++ []) server
      rw [List.append_nil]
      exact owes
  | cons messageId ids inductionHypothesis =>
      obtain ⟨items, after, run, owes'⟩ := inductionHypothesis (owes_dele owes messageId)
      refine ⟨returned (dele messageId server) :: items, after, ?_, ?_⟩
      · rw [List.mapM_cons, bind_of_ok (attempt_apply _ _), bind_of_ok run]
        rfl
      · rw [accepted]
        cases accepts : (returned (dele messageId server)).isOk with
        | false =>
            rw [accepts] at owes'
            exact owes'
        | true =>
            rw [accepts, if_pos rfl, List.append_assoc] at owes'
            exact owes'

theorem owes_rset
    (owes : Owes mails ledger server) :
    Owes mails (if (returned (rset server)).isOk then [] else ledger)
      (finalState (rset server)) := by
  unfold rset
  cases granted : (if server.choice.refuses then none else some ()) with
  | none =>
      rw [request_of_none granted]
      exact owes.next
  | some value =>
      rw [request_of_some granted]
      refine ⟨owes.mails, fun messageId => ?_⟩
      exact iff_of_false (Finset.notMem_empty _) List.not_mem_nil

/-- After each call, the marked messages are those of the ledger. -/
theorem owes_perform
    (owes : Owes mails ledger server)
    (call : Call) :
    Owes mails (ledgerAfter ledger call ((returned (perform call server)).map .fresh))
      (finalState (perform call server)) := by
  have reads : ∀ {call : Call},
      (∀ value ledger, ledgerAfter ledger call (.ok (.fresh value)) = ledger) →
      Preserves (Owes mails ledger) (perform call) →
      Owes mails (ledgerAfter ledger call ((returned (perform call server)).map .fresh))
        (finalState (perform call server)) := by
    intro call keeps preserves
    rw [ledgerAfter_of_named keeps]
    exact preserves server owes
  cases call with
  | dele messageId =>
      have deleted := owes_dele owes messageId
      cases run : dele messageId server with
      | ok value after =>
          rw [run] at deleted
          rw [perform, bind_of_ok run]
          exact deleted
      | error error after =>
          rw [run] at deleted
          rw [perform, bind_of_error run]
          exact deleted
  | rset =>
      have reset := owes_rset owes
      cases run : rset server with
      | ok value after =>
          rw [run] at reset
          rw [perform, bind_of_ok run]
          exact reset
      | error error after =>
          rw [run] at reset
          rw [perform, bind_of_error run]
          exact reset
  | deleMany ids =>
      rw [perform, many, checkNumbers]
      by_cases zero : 0 ∈ ids
      · rw [if_pos zero]
        exact owes
      · obtain ⟨items, after, run, deleted⟩ := owes_deleMany owes ids
        rw [if_neg zero, ofResult_ok_bind, bind_of_ok run]
        exact deleted
  | stat =>
      exact reads (fun value _ => by cases value <;> rfl)
        (.bind (preserves_lookUp _) fun _ => .pure _)
  | list messageId =>
      refine reads (fun value _ => by cases value <;> rfl) (.bind ?_ fun _ => .pure _)
      cases messageId with
      | none => exact preserves_lookUp _
      | some messageId => exact .bind (.ofResult _) fun _ => preserves_lookUp _
  | uidl messageId =>
      refine reads (fun value _ => by cases value <;> rfl) (.bind ?_ fun _ => .pure _)
      cases messageId with
      | none => exact preserves_lookUp _
      | some messageId => exact .bind (.ofResult _) fun _ => preserves_lookUp _
  | retr messageId =>
      exact reads (fun value _ => by cases value <;> rfl)
        (.bind (preserves_retr messageId) fun _ => .pure _)
  | top messageId count =>
      exact reads (fun value _ => by cases value <;> rfl)
        (.bind (.bind (.ofResult _) fun _ => preserves_lookUp _) fun _ => .pure _)
  | noop =>
      exact reads (fun value _ => by cases value <;> rfl)
        (.bind (preserves_lookUp _) fun _ => .pure _)
  | retrMany ids =>
      refine reads (fun value _ => by cases value <;> rfl) (.bind ?_ fun _ => .pure _)
      exact .bind (.ofResult _) fun _ =>
        preserves_mapM (fun messageId => .attempt (preserves_retr messageId)) ids
  | unseenUids seen =>
      exact reads (fun value _ => by cases value <;> rfl)
        (.bind (preserves_lookUp _) fun _ => .pure _)
  | fetchUnseen seen =>
      refine reads (fun value _ => by cases value <;> rfl) (.bind ?_ fun _ => .pure _)
      exact .bind (preserves_lookUp _) fun entries =>
        preserves_mapM (fun entry => .bind (preserves_retr _) fun _ => .pure _) entries
  | pruneSeen seen =>
      exact reads (fun value _ => by cases value <;> rfl)
        (.bind (preserves_lookUp _) fun _ => .pure _)
  | capa | stls | login | apop =>
      exact reads (fun value _ => by cases value <;> rfl) (.throw _)

end MailServer

/-! ## One session -/

theorem Mailbox.mails_numbered (mailbox : Mailbox) :
    mailbox.numbered.map Prod.snd = mailbox.mails := by
  rw [numbered, List.map_map]
  exact List.zipIdx_map_fst 0 mailbox.mails

section Visiting

variable [Md5] {account : Account} {mails : List Mail} {ledger : List UInt32} {visit : Visit}

/-- The mailbox of the account owes what the ledger says, which is nothing before the account
is open. -/
structure Visit.Owes (mails : List Mail) (ledger : List UInt32) (visit : Visit) : Prop where
  mailServer : visit.mails.Owes mails ledger
  closed : visit.isOpen = false → ledger = []

/-- What does not reach the mailbox changes nothing there. -/
theorem preserves_mails
    {call : Call}
    (elsewhere : call.isMailbox = false)
    (server : MailServer) :
    Preserves (fun visit => visit.mails = server) (account.perform call) :=
  Account.preserves_perform (Account.preserves_enter fun _ same => same)
    (fun _ => Account.preserves_shake fun _ _ same => same)
    fun mailbox => Bool.noConfusion (elsewhere.symm.trans mailbox)

/-- One call, as its caller and the account see it. -/
theorem owes_visit
    (owes : visit.Owes mails ledger)
    (call : Call) :
    (finalState (account.perform call visit)).Owes mails
      (ledgerAfter ledger call ((returned (account.perform call visit)).map .fresh)) := by
  cases elsewhere : call.isMailbox with
  | false =>
      have untouched : ∀ result : Except Pop3Error Value,
          ledgerAfter ledger call (result.map .fresh) = ledger := by
        cases call with
        | capa | stls | login | apop =>
            exact ledgerAfter_of_named (fun value _ => by cases value <;> rfl) ledger
        | _ => cases elsewhere
      rw [untouched]
      have same : (finalState (account.perform call visit)).mails = visit.mails :=
        preserves_mails elsewhere visit.mails visit rfl
      refine ⟨same.symm ▸ owes.mailServer, fun closed => owes.closed ?_⟩
      rw [← Bool.not_eq_true]
      intro isOpen
      exact Bool.noConfusion ((Account.isOpen_perform isOpen call).symm.trans closed)
  | true =>
      rw [Account.perform_of_isMailbox elsewhere]
      cases isOpen : visit.isOpen with
      | false =>
          rw [bind_of_error (Account.mustBe_of_ne
            (isOpen.trans_ne Bool.noConfusion : visit.isOpen ≠ true))]
          exact owes
      | true =>
          rw [bind_of_ok (Account.mustBe_of_eq isOpen), Field.returned_run, Field.finalState_run]
          exact ⟨MailServer.owes_perform owes.mailServer call, fun closed =>
            Bool.noConfusion (isOpen.symm.trans closed)⟩

/-- Every call of a session. -/
theorem owes_runAll
    (owes : visit.Owes mails ledger)
    (calls : List Call) :
    (account.runAll calls visit).Owes mails
      (owed ledger calls ((account.runs calls visit).map Prod.fst)) := by
  induction calls generalizing ledger visit with
  | nil => exact owes
  | cons call calls inductionHypothesis => exact inductionHypothesis (owes_visit owes call)

omit [Md5] in
/-- The messages that are not marked are those that the ledger does not name. -/
theorem present_of_owes
    {server : MailServer}
    {before : Mailbox}
    (owes : server.Owes before.mails ledger) :
    server.mailbox.present = before.numbered.filter fun entry => entry.1 ∉ ledger := by
  have same : server.mailbox.numbered = before.numbered := by
    rw [Mailbox.numbered, owes.mails, Mailbox.numbered]
  rw [Mailbox.present, same]
  refine List.filter_congr fun entry _ => ?_
  simp only [owes.marks]

/-- A whole session with an account, on a connection on which nothing is late and nothing is
lost.  Up to `QUIT` no message is removed, whatever is called.  Then exactly those messages are
removed that the caller's ledger names: whose deletion, alone or in a batch, has been reported
as a success, and has not been taken back by a successful `RSET` since.  `QUIT` succeeds unless
a handshake has taken the stream away. -/
theorem removes_owed
    {server : MailServer}
    {net : Net AccountServer}
    (greets : account.Greets server net)
    (isCalm : net.Within calm)
    (unmarked : server.mailbox.marks = ∅)
    (calls : List Call)
    {client : Pop3Client AccountServer}
    (connects : Connects net client) :
    let last := Call.runAll calls client
    let ledger := owed [] calls ((Call.runs calls client).map Prod.fst)
    last.transport.net.server.mails.mailbox.mails = server.mailbox.mails ∧
      (last.transport.stream ≠ .upgrading → returned (quit last) = .ok ()) ∧
      (finalState (quit last)).transport.net.server.mails.mailbox.mails =
        (server.mailbox.numbered.filter fun entry => entry.1 ∉ ledger).map Prod.snd := by
  let visit : Visit := { mails := server, stream := client.transport.stream }
  obtain ⟨outcomes, attends⟩ := attends_runs calls (attends_connects greets isCalm connects)
  obtain ⟨ends, _, committed⟩ := quit_attends attends
  have results : (Call.runs calls client).map Prod.fst =
      (account.runs calls visit).map Prod.fst := by
    rw [← List.forall₂_eq_eq_eq, List.forall₂_map_left_iff, List.forall₂_map_right_iff]
    exact outcomes.imp fun _ _ same => same.1
  have begins : Visit.Owes server.mailbox.mails [] visit :=
    ⟨⟨rfl, fun messageId => by simp [visit, unmarked]⟩, fun _ => rfl⟩
  have owes := @owes_runAll _ account _ _ _ begins calls
  have nothing : (account.runAll calls visit).isOpen = false →
      (account.runAll calls visit).mails.mailbox.mails =
        (server.mailbox.numbered.filter fun entry => entry.1 ∉
          owed [] calls ((account.runs calls visit).map Prod.fst)).map Prod.snd := by
    intro closed
    rw [owes.mailServer.mails, owes.closed closed]
    simp only [List.not_mem_nil, not_false_eq_true, decide_true, List.filter_true,
      Mailbox.mails_numbered]
  dsimp only
  rw [results, committed]
  refine ⟨?_, ?_, ?_⟩
  · rw [attends.inTouch.mails]
    exact owes.mailServer.mails
  · intro usable
    rcases attends with ⟨⟨session, tracks, visits⟩, goes⟩ | severs
    · rw [ends, Account.leave, bind_of_ok (Account.reach_of_ne visits.usable)]
      rfl
    · obtain ⟨net, stranded, _⟩ := severs.stranded
      exact absurd stranded.stream usable
  · rcases attends with ⟨⟨session, tracks, visits⟩, goes⟩ | severs
    · rw [Account.leave, bind_of_ok (Account.reach_of_ne visits.usable)]
      change (if (account.runAll calls visit).isOpen then _ else _ : Visit).mails.mailbox.mails = _
      split
      · rw [← present_of_owes owes.mailServer]
        rfl
      · rename_i closed
        exact nothing (Bool.eq_false_iff.mpr closed)
    · rw [Account.leave, bind_of_error (Account.reach_of_eq severs.stream)]
      exact nothing severs.isOpen

end Visiting

/-- A deletion, another one that is taken back, and a batch. -/
theorem removes_owed_smallAccount :
    let _ := emptyDigest
    let net : Net AccountServer :=
      { server := { account := smallAccount, mails := smallServer }
        wire := smallAccount.opening
        handshake := smallAccount.handshake }
    let calls := [Call.dele 1, .stls "here".toList, .login "me".toList "secret".toList, .dele 1,
      .rset, .deleMany [1, 1]]
    ∃ client, connect (.ok net) = .ok client ∧
      let last := Call.runAll calls client
      let ledger := owed [] calls ((Call.runs calls client).map Prod.fst)
      last.transport.net.server.mails.mailbox.mails = smallServer.mailbox.mails ∧
        (last.transport.stream ≠ .upgrading → returned (quit last) = .ok ()) ∧
        (finalState (quit last)).transport.net.server.mails.mailbox.mails =
          (smallServer.mailbox.numbered.filter fun entry => entry.1 ∉ ledger).map Prod.snd := by
  intro _ net calls
  have connects : (connect (.ok net)).isOk = true := by decide +kernel
  cases connected : connect (.ok net) with
  | error error =>
      rw [connected] at connects
      cases connects
  | ok client =>
      exact ⟨client, rfl, removes_owed ⟨rfl, rfl, rfl, rfl⟩ ⟨rfl, by simp [net], by simp [net]⟩
        rfl calls (.plain connected)⟩

end Pop3
