import Pop3.Mailbox.Committing
import Pop3.Reconnecting.Accounts
import Pop3.Reconnecting.Received
import Pop3.Sync.Sessions

/-!
# Incremental sync across reconnects

The caller syncs through a client that reconnects.  Its rounds, and the two calls of one
round, may fall into different sessions, between which the mailbox changes.
-/

namespace Pop3

open Rust Framing Pop3Client

/-! ## The caller -/

/-- What a round has come to: the messages, if both calls have succeeded, and what is seen
from then on. -/
structure Resynced (σ : Type) where
  fetched : Option (List (UidlEntry × Message)) := none
  seen : UidSet
  client : ReconnectingClient σ
  /-- The connections of the calls that have succeeded, as they have left them. -/
  succeeded : List (Transport σ) := []

/-- The unique ids that were returned. -/
def Resynced.returnedIds (resynced : Resynced σ) : List Str :=
  (resynced.fetched.getD []).map fun pair => pair.1.uniqueId

namespace ReconnectingClient

section Calling

variable [Server σ] [Md5]

/-- One round: prune, fetch, and remember what was fetched.  Whether the outcomes are fresh is
not looked at. -/
def syncRound (seen : UidSet) (reconnecting : ReconnectingClient σ) : Resynced σ :=
  match pruneSeen seen reconnecting with
  | .error _ client => { seen, client }
  | .ok pruned middle =>
      let kept := pruned.value.2
      match fetchUnseen kept middle with
      | .error _ client => { seen := kept, client, succeeded := [middle.client.transport] }
      | .ok fetched client =>
          { fetched := some fetched.value
            seen := kept.insertAll (fetched.value.map fun pair => pair.1.uniqueId)
            client
            succeeded := [middle.client.transport, client.client.transport] }

/-- The rounds of a caller, each after other calls. -/
def syncRounds : UidSet → List (List Call) → ReconnectingClient σ → List (Resynced σ)
  | _, [], _ => []
  | seen, calls :: later, reconnecting =>
      let resynced := syncRound seen (performAll calls reconnecting)
      resynced :: syncRounds resynced.seen later resynced.client

end Calling

end ReconnectingClient

/-! ## Mailboxes that change -/

/-- The unique ids in the mailbox that is found on a connection. -/
def present (mails : Nat → MailServer) (number : Nat) : Set Str :=
  {uid | uid ∈ (mails number).mailbox.mails.map Mail.uniqueId}

/-- The mailboxes of the connections that can be dialed, in the order of dialing: nothing in
them is marked, and no unique id returns that has gone. -/
structure MailboxesEvolve (mails : Nat → MailServer) : Prop where
  unmarked : ∀ number, (mails number).mailbox.marks = ∅
  distinct : ∀ number, ((mails number).mailbox.mails.map Mail.uniqueId).Nodup
  neverReturns : Sync.NeverReturns (present mails)

namespace MailboxesEvolve

variable {mails : Nat → MailServer}

/-- The messages of the session that is begun on a connection. -/
def posts (evolve : MailboxesEvolve mails) (number : Nat) : Posts :=
  (mails number).mailbox.posts (evolve.distinct number)

theorem mem_uids
    (evolve : MailboxesEvolve mails)
    {number : Nat}
    {uid : Str} :
    uid ∈ (evolve.posts number).uids ↔ uid ∈ present mails number := by
  rw [posts, Posts.uids, Mailbox.posts, List.map_map]
  rfl

end MailboxesEvolve

/-- Without marks a mailbox is its messages. -/
theorem MailServer.Owes.mailbox_eq
    {server : MailServer}
    {mailbox : Mailbox}
    (owes : server.Owes mailbox.mails [])
    (unmarked : mailbox.marks = ∅) :
    server.mailbox = mailbox := by
  have nothing : server.mailbox.marks = ∅ :=
    Finset.eq_empty_of_forall_notMem fun messageId marked =>
      List.not_mem_nil ((owes.marks messageId).mp marked)
  have same := owes.mails
  cases held : server.mailbox
  cases mailbox
  simp_all

theorem MailServer.owes_nothing
    {server : MailServer}
    (unmarked : server.mailbox.marks = ∅) :
    server.Owes server.mailbox.mails [] :=
  ⟨rfl, fun messageId => by simp [unmarked]⟩

/-- Without a message to delete nothing is entered. -/
theorem ledgerAfter_nil
    {call : Call}
    (harmless : call.named = [])
    (result : Except Pop3Error Value) :
    ledgerAfter [] call (result.map .fresh) = [] := by
  cases result with
  | error error => rfl
  | ok value =>
      cases call with
      | dele messageId => cases harmless
      | deleMany ids =>
          obtain rfl : ids = [] := harmless
          cases value <;> rfl
      | _ => cases value <;> rfl

/-! ## What the server of an account offers -/

section Reading

variable [Md5]

/-- The state of a server whose account is open and has this mailbox. -/
def AccountServer.Shows (mailbox : Mailbox) (server : AccountServer) : Prop :=
  server.isOpen = true ∧ server.mails.mailbox = mailbox

/-- An open account offers the messages of its mailbox. -/
theorem offers_accountServer
    {mailbox : Mailbox}
    (unmarked : mailbox.marks = ∅)
    (distinct : (mailbox.mails.map Mail.uniqueId).Nodup) :
    Offers (mailbox.posts distinct) (AccountServer.Shows mailbox) := by
  have offers := offers_mailServer unmarked distinct
  have asked : ∀ (server : AccountServer) (request : Request), server.isOpen = true →
      AnsweringServer.answer server (utf8 request.command) =
        ({ server with mails := (AnsweringServer.answer server.mails (utf8 request.command)).1 },
          (AnsweringServer.answer server.mails (utf8 request.command)).2) :=
    fun server request isOpen => AccountServer.answer_open isOpen
      (Request.command_ne parse_capa request) (Request.command_ne parse_quit request)
  constructor
  · rintro server ⟨isOpen, same⟩
    obtain ⟨after, granted⟩ := offers.uidl server.mails same
    have answered := asked server (.uidl none) isOpen
    change AnsweringServer.answer server (utf8 "UIDL".toList) = _ at answered
    rw [answered]
    exact ⟨⟨isOpen, after⟩, granted⟩
  · rintro server ⟨isOpen, same⟩ messageId post member
    obtain ⟨after, granted⟩ := offers.retr server.mails same messageId post member
    have answered := asked server (.retr messageId) isOpen
    change AnsweringServer.answer server (utf8 (commandFor "RETR ".toList messageId)) = _
      at answered
    rw [answered]
    exact ⟨⟨isOpen, after⟩, granted⟩

end Reading

/-! ## One call -/

section Calls

variable [Md5] {account : Account} {mailbox : Mailbox} {call : Call}
  {client last : Pop3Client AccountServer}

/-- The client is in a session in which the account is open and nothing is marked, or has lost
its connection. -/
def Account.Keeps (account : Account) (mails : List Mail)
    (client : Pop3Client AccountServer) : Prop :=
  (∃ visit : Visit, visit.isOpen = true ∧ visit.Owes mails [] ∧
      account.Meets lossy client visit) ∨
    (clientMishaps lossy).gone client

/-- A call that names no message for deletion marks nothing. -/
theorem Account.Keeps.run
    {mails : List Mail}
    (keeps : account.Keeps mails client)
    (command : call.isCommand = true)
    (harmless : call.named = []) :
    account.Keeps mails (finalState (call.run client)) := by
  rcases keeps with ⟨visit, isOpen, owes, meets⟩ | gone
  · refine (meets_or_gone command meets).imp (fun ⟨_, meets'⟩ => ?_) id
    have owes' : (finalState (account.perform call visit)).Owes mails _ := owes_visit owes call
    rw [ledgerAfter_nil harmless] at owes'
    exact ⟨_, Account.isOpen_perform isOpen call, owes', meets'⟩
  · exact .inr (gone_run call gone)

omit [Md5] in
/-- A session is in step with the dialogue that it has shown. -/
theorem Account.Meets.inStep
    {visit : Visit}
    (meets : account.Meets lossy client visit)
    (isOpen : visit.isOpen = true) :
    ∃ dialogue, Dialogue.InStep [] client dialogue ∧ dialogue.server.isOpen = true ∧
      dialogue.server.mails = visit.mails := by
  obtain ⟨⟨session, tracks, visits⟩, _⟩ := meets
  have stormy : Shows stormy client.transport session.dialogue.view :=
    { tracks.shows with
      reads := fun tick _ => tick.within_stormy
      writes := fun tick _ => by
        cases tick with
        | accept => exact True.intro
        | drop => rfl }
  have authenticated : client.state = .authenticated := by
    rw [tracks.state, visits.state, isOpen]
    rfl
  exact ⟨session.dialogue,
    ⟨⟨_, stormy, rfl, client.transport.net.trace, rfl, rfl⟩, authenticated⟩,
    visits.isOpen.trans isOpen, visits.mails⟩

/-- A call that gets something, and has torn no line, has read it in a session with the open
account. -/
theorem Account.Keeps.reads
    (unmarked : mailbox.marks = ∅)
    (keeps : account.Keeps mailbox.mails client)
    (single : call.isSingle = true)
    {value : Value}
    (run : call.run client = .ok value last)
    (gets : ¬GetsNothing (.ok value))
    (clean : ¬Torn [] last.transport) :
    ∃ dialogue : Dialogue AccountServer, AccountServer.Shows mailbox dialogue.server ∧
      returned (View.partner.perform call dialogue.view) = .ok value := by
  rcases keeps with ⟨visit, isOpen, owes, meets⟩ | gone
  · obtain ⟨dialogue, inStep, opened, mails⟩ := meets.inStep isOpen
    refine ⟨dialogue, ⟨opened, ?_⟩, ?_⟩
    · rw [mails]
      exact owes.mailServer.mailbox_eq unmarked
    · have follows := (talks_steady []).perform call single dialogue.view client inStep
      rw [run] at follows
      rcases follows with ⟨same, _⟩ | ⟨_, failed, _⟩ | torn
      · exact same.symm
      · cases failed
      · exact absurd torn clean
  · have nothing := call.getsNothing gone.2
    rw [run] at nothing
    exact absurd nothing gets

end Calls

/-! ## One operation -/

section Operations

variable [Md5] {account : Account} {mails : Nat → MailServer} {number : Nat} {call : Call}
  {reconnecting : ReconnectingClient AccountServer}

/-- The client is in the session that was begun on the connection of this number, or has lost
it, and whoever is dialed is the server of the account. -/
structure ReconnectingClient.Joined (account : Account) (mails : Nat → MailServer)
    (number : Nat) (reconnecting : ReconnectingClient AccountServer) : Prop where
  hosts : ∀ other, account.Hosts lossy (mails other) (reconnecting.dials other)
  dialed : number < reconnecting.dialed
  keeps : account.Keeps (mails number).mailbox.mails reconnecting.client

omit [Md5] in
/-- A session that is begun has nothing marked. -/
theorem keeps_of_opened
    (evolve : MailboxesEvolve mails)
    {client : Pop3Client AccountServer}
    {stream : InnerStream}
    (reached : account.Meets lossy client (account.opened (mails number) stream) ∨
      (clientMishaps lossy).gone client) :
    account.Keeps (mails number).mailbox.mails client :=
  reached.imp_left fun meets =>
    ⟨_, rfl, ⟨MailServer.owes_nothing (evolve.unmarked number), fun _ => rfl⟩, meets⟩

namespace ReconnectingClient

/-- An operation ends in the same session or a later one, and what it returns was got there. -/
theorem Joined.perform
    (evolve : MailboxesEvolve mails)
    (joined : reconnecting.Joined account mails number)
    (command : call.isCommand = true)
    (harmless : call.named = []) :
    ∃ later, number ≤ later ∧
      (finalState (ReconnectingClient.perform call reconnecting)).Joined account mails later ∧
      ∀ outcome, returned (ReconnectingClient.perform call reconnecting) = .ok outcome →
        ∃ first, account.Keeps (mails later).mailbox.mails first ∧
          call.run first = .ok outcome.value
            (finalState (ReconnectingClient.perform call reconnecting)).client := by
  have way := performs command reconnecting
  have redialed : Redialed reconnecting.toReconnectingClientBuilder
      (finalState (attempted call reconnecting).dialing) :=
    redialed_retry _ _ _ _ _
  have kept := joined.keeps.run command harmless
  generalize ReconnectingClient.perform call reconnecting = result at way
  cases way with
  | stays unwarranted =>
      rw [finalState_ofResult, returned_ofResult]
      refine ⟨number, le_rfl, ⟨joined.hosts, joined.dialed, kept⟩, fun outcome ok => ?_⟩
      refine ⟨reconnecting.client, joined.keeps, ?_⟩
      cases first : firstResult call reconnecting with
      | error error =>
          rw [first] at ok
          cases ok
      | ok value =>
          rw [first] at ok
          cases ok
          exact eq_ok_of_returned first
  | refused _ refused =>
      rw [refused] at redialed
      refine ⟨number, le_rfl, ⟨?_, joined.dialed.trans redialed.dialed, kept⟩, nofun⟩
      exact redialed.dials ▸ joined.hosts
  | @renewed client settings _ connected =>
      rw [finalState_ofResult, returned_ofResult]
      obtain ⟨later, fromHere, upTo, reached⟩ := opened_of_dialing joined.hosts connected
      have begun := keeps_of_opened evolve reached
      rw [connected] at redialed
      refine ⟨later, (joined.dialed.trans_le fromHere).le, ⟨?_, upTo,
        begun.run command harmless⟩, fun outcome ok => ⟨client, begun, ?_⟩⟩
      · exact redialed.dials ▸ joined.hosts
      · cases second : returned (call.run client) with
        | error error =>
            rw [second] at ok
            cases ok
        | ok value =>
            rw [second] at ok
            cases ok
            exact eq_ok_of_returned second

/-- So do operations one after the other. -/
theorem Joined.performAll
    (evolve : MailboxesEvolve mails)
    (joined : reconnecting.Joined account mails number)
    {calls : List Call}
    (commands : ∀ call ∈ calls, call.isCommand = true ∧ call.named = []) :
    ∃ later, number ≤ later ∧
      (ReconnectingClient.performAll calls reconnecting).Joined account mails later := by
  induction calls generalizing number reconnecting with
  | nil => exact ⟨number, le_rfl, joined⟩
  | cons call calls inductionHypothesis =>
      obtain ⟨⟨command, harmless⟩, rest⟩ := List.forall_mem_cons.mp commands
      obtain ⟨middle, onward, joined', _⟩ := joined.perform evolve command harmless
      obtain ⟨later, onward', joined''⟩ := inductionHypothesis joined' rest
      exact ⟨later, onward.trans onward', joined''⟩

end ReconnectingClient

end Operations

/-! ## One round -/

section Rounds

variable [Md5] {account : Account} {mails : Nat → MailServer} {number : Nat}
  {reconnecting : ReconnectingClient AccountServer}

namespace ReconnectingClient

/-- Pruning keeps what the mailbox of the session has. -/
theorem Joined.pruneSeen
    (evolve : MailboxesEvolve mails)
    (joined : reconnecting.Joined account mails number)
    (seen : UidSet) :
    ∃ later, number ≤ later ∧
      (finalState (ReconnectingClient.pruneSeen seen reconnecting)).Joined account mails later ∧
      ∀ pruned, returned (ReconnectingClient.pruneSeen seen reconnecting) = .ok pruned →
        ¬Torn [] (finalState (ReconnectingClient.pruneSeen seen
          reconnecting)).client.transport →
        ∀ uid, uid ∈ pruned.value.2.elements ↔
          uid ∈ seen.elements ∧ uid ∈ present mails later := by
  obtain ⟨later, onward, joined', got⟩ :=
    joined.perform evolve (show (Call.pruneSeen seen).isCommand = true from rfl) rfl
  have same : finalState (ReconnectingClient.perform (.pruneSeen seen) reconnecting) =
      finalState (ReconnectingClient.pruneSeen seen reconnecting) := finalState_bind_pure _ _ _
  rw [same] at joined' got
  refine ⟨later, onward, joined', fun pruned ok clean => ?_⟩
  have wrapped : returned (ReconnectingClient.perform (.pruneSeen seen) reconnecting) =
      .ok (pruned.map fun pruned => Value.pruned pruned.1 pruned.2) := by
    rw [ReconnectingClient.perform, returned_bind_pure, ok]
    rfl
  obtain ⟨first, keeps, run⟩ := got _ wrapped
  have value : (pruned.map fun pruned => Value.pruned pruned.1 pruned.2).value =
      .pruned pruned.value.1 pruned.value.2 := by cases pruned <;> rfl
  rw [value] at run
  obtain ⟨dialogue, shows, read⟩ := keeps.reads (evolve.unmarked later) rfl run id clean
  have offers := offers_accountServer (evolve.unmarked later) (evolve.distinct later)
  simp only [← evolve.mem_uids]
  refine (@Offers.pruneSeen_reads _ _ _ _ _ offers shows _ _ pruned.value.1 ?_).1
  rw [Partner.perform, returned_bind_pure] at read
  cases prunes : returned (View.partner.pruneSeen seen dialogue.view) with
  | error error =>
      rw [prunes] at read
      cases read
  | ok result =>
      rw [prunes] at read
      obtain ⟨uids, kept⟩ := Value.pruned.inj (Except.ok.inj read)
      exact congrArg Except.ok (Prod.ext uids kept)

/-- Fetching returns what the mailbox of the session has and was not seen. -/
theorem Joined.fetchUnseen
    (evolve : MailboxesEvolve mails)
    (joined : reconnecting.Joined account mails number)
    (seen : UidSet) :
    ∃ later, number ≤ later ∧
      (finalState (ReconnectingClient.fetchUnseen seen reconnecting)).Joined account mails
        later ∧
      ∀ fetched, returned (ReconnectingClient.fetchUnseen seen reconnecting) = .ok fetched →
        ¬Torn [] (finalState (ReconnectingClient.fetchUnseen seen
          reconnecting)).client.transport →
        fetched.value.map (fun pair => pair.1.uniqueId) =
            (evolve.posts later).uids.filter (· ∉ seen.elements) ∧
          Couples (evolve.posts later) fetched.value := by
  obtain ⟨later, onward, joined', got⟩ :=
    joined.perform evolve (show (Call.fetchUnseen seen).isCommand = true from rfl) rfl
  have same : finalState (ReconnectingClient.perform (.fetchUnseen seen) reconnecting) =
      finalState (ReconnectingClient.fetchUnseen seen reconnecting) :=
    finalState_bind_pure _ _ _
  rw [same] at joined' got
  refine ⟨later, onward, joined', fun fetched ok clean => ?_⟩
  have wrapped : returned (ReconnectingClient.perform (.fetchUnseen seen) reconnecting) =
      .ok (fetched.map Value.fetched) := by
    rw [ReconnectingClient.perform, returned_bind_pure, ok]
    rfl
  obtain ⟨first, keeps, run⟩ := got _ wrapped
  have value : (fetched.map Value.fetched).value = .fetched fetched.value := by
    cases fetched <;> rfl
  rw [value] at run
  obtain ⟨dialogue, shows, read⟩ := keeps.reads (evolve.unmarked later) rfl run id clean
  have offers := offers_accountServer (evolve.unmarked later) (evolve.distinct later)
  refine offers.fetchUnseen_reads (Mailbox.areIntact_posts _ _) shows ?_
  rw [Partner.perform, returned_bind_pure] at read
  cases fetches : returned (View.partner.fetchUnseen seen dialogue.view) with
  | error error =>
      rw [fetches] at read
      cases read
  | ok result =>
      rw [fetches] at read
      exact congrArg Except.ok (Value.fetched.inj (Except.ok.inj read))

/-- A round of the caller, in terms of what its two calls have found: the first hands out
nothing, and the second may find a later mailbox. -/
structure SyncsAcross (evolve : MailboxesEvolve mails) (seen : UidSet) (middle later : Nat)
    (kept : UidSet) (resynced : Resynced AccountServer) : Prop where
  prunes : Sync.Round (present mails middle) {uid | uid ∈ seen.elements} []
    {uid | uid ∈ kept.elements}
  fetches : Sync.Round (present mails later) {uid | uid ∈ kept.elements} resynced.returnedIds
    {uid | uid ∈ resynced.seen.elements}
  succeeded : ∀ fetched, resynced.fetched = some fetched →
    Couples (evolve.posts later) fetched ∧
      ∀ uid ∈ present mails later, uid ∈ resynced.seen.elements
  recorded : ∀ uid ∈ resynced.seen.elements, uid ∈ seen.elements ∨ uid ∈ resynced.returnedIds

omit [Md5] in
/-- Where the fetch fails, the set stays. -/
theorem syncsAcross_nothing
    (evolve : MailboxesEvolve mails)
    {seen kept : UidSet}
    {middle later : Nat}
    (keeps : ∀ uid ∈ present mails middle, uid ∈ seen.elements → uid ∈ kept.elements)
    (among : ∀ uid ∈ kept.elements, uid ∈ seen.elements)
    {succeeded : List (Transport AccountServer)} :
    SyncsAcross evolve seen middle later kept
      { seen := kept, client := reconnecting, succeeded } where
  prunes := .nothing keeps
  fetches := .nothing fun _ _ before => before
  succeeded _ some := nomatch some
  recorded uid member := .inl (among uid member)

omit [Md5] in
/-- Where both calls succeed, the set has all that there is. -/
theorem syncsAcross_fetched
    (evolve : MailboxesEvolve mails)
    {seen kept : UidSet}
    {middle later : Nat}
    (keeps : ∀ uid, uid ∈ kept.elements ↔ uid ∈ seen.elements ∧ uid ∈ present mails middle)
    {fetched : List (UidlEntry × Message)}
    (ids : fetched.map (fun pair => pair.1.uniqueId) =
      (evolve.posts later).uids.filter (· ∉ kept.elements))
    (couples : Couples (evolve.posts later) fetched)
    {succeeded : List (Transport AccountServer)} :
    SyncsAcross evolve seen middle later kept
      { fetched := some fetched
        seen := kept.insertAll (fetched.map fun pair => pair.1.uniqueId)
        client := reconnecting
        succeeded } := by
  have handed : ∀ uid, uid ∈ fetched.map (fun pair => pair.1.uniqueId) ↔
      uid ∈ present mails later ∧ uid ∉ kept.elements := by
    intro uid
    rw [ids, List.mem_filter, evolve.mem_uids, decide_eq_true_iff]
  have remembered : ∀ uid,
      uid ∈ (kept.insertAll (fetched.map fun pair => pair.1.uniqueId)).elements ↔
        uid ∈ fetched.map (fun pair => pair.1.uniqueId) ∨ uid ∈ kept.elements :=
    fun uid => UidSet.mem_insertAll _ uid kept
  have complete : ∀ uid ∈ present mails later,
      uid ∈ (kept.insertAll (fetched.map fun pair => pair.1.uniqueId)).elements := by
    intro uid there
    rw [remembered, handed]
    tauto
  refine ⟨.nothing fun uid there before => (keeps uid).mpr ⟨before, there⟩,
    ⟨?_, fun uid member => (handed uid).mp member,
      fun uid member => (remembered uid).mpr (.inl member), fun uid there _ => complete uid there⟩,
    ?_, fun uid member => ?_⟩
  · change (fetched.map fun pair => pair.1.uniqueId).Nodup
    rw [ids]
    exact (evolve.posts later).distinct.filter _
  · rintro _ ⟨⟩
    exact ⟨couples, complete⟩
  · exact ((remembered uid).mp member).elim .inr fun before => .inl ((keeps uid).mp before).1

/-- Every round that tears no line. -/
theorem Joined.syncRound
    (evolve : MailboxesEvolve mails)
    (joined : reconnecting.Joined account mails number)
    {seen : UidSet}
    (clean : ∀ transport ∈ (ReconnectingClient.syncRound seen reconnecting).succeeded,
      ¬Torn [] transport) :
    ∃ middle kept later, number ≤ middle ∧ middle ≤ later ∧
      (ReconnectingClient.syncRound seen reconnecting).client.Joined account mails later ∧
      SyncsAcross evolve seen middle later kept
        (ReconnectingClient.syncRound seen reconnecting) := by
  obtain ⟨middle, onward, joined', prunes⟩ := joined.pruneSeen evolve seen
  unfold ReconnectingClient.syncRound at clean ⊢
  cases run : ReconnectingClient.pruneSeen seen reconnecting with
  | error error between =>
      rw [run] at joined'
      exact ⟨middle, seen, middle, onward, le_rfl, joined',
        syncsAcross_nothing evolve (fun _ _ before => before) fun _ before => before⟩
  | ok pruned between =>
      rw [run, finalState_ok] at joined' prunes
      rw [run] at clean
      dsimp only at clean ⊢
      obtain ⟨later, onward', joined'', fetches⟩ := joined'.fetchUnseen evolve pruned.value.2
      cases run' : ReconnectingClient.fetchUnseen pruned.value.2 between with
      | error error last =>
          rw [run'] at joined'' clean
          have keeps := prunes pruned rfl (clean _ List.mem_cons_self)
          exact ⟨middle, _, later, onward, onward', joined'', syncsAcross_nothing evolve
            (fun uid there before => (keeps uid).mpr ⟨before, there⟩)
            fun uid member => ((keeps uid).mp member).1⟩
      | ok fetched last =>
          rw [run'] at joined'' fetches clean
          have keeps := prunes pruned rfl (clean _ List.mem_cons_self)
          obtain ⟨ids, couples⟩ := fetches fetched rfl
            (clean _ (List.mem_cons_of_mem _ List.mem_cons_self))
          exact ⟨middle, _, later, onward, onward', joined'',
            syncsAcross_fetched evolve keeps ids couples⟩

/-! ## All rounds -/

/-- Whoever has connected is in a session. -/
theorem joined_of_connect
    (evolve : MailboxesEvolve mails)
    {settings : ReconnectingClientBuilder AccountServer}
    {username password : Str}
    (hosts : ∀ other, account.Hosts lossy (mails other) (settings.dials other))
    (connected : settings.connect username password = .ok reconnecting) :
    ∃ number, reconnecting.Joined account mails number := by
  unfold ReconnectingClientBuilder.connect at connected
  have redialed := redialed_retry username password settings.maxRetries 0 settings
  cases found : ReconnectingClientBuilder.retry username password settings.maxRetries 0
      settings with
  | error error after =>
      rw [found] at connected
      cases connected
  | ok client after =>
      rw [found] at connected redialed
      cases connected
      obtain ⟨number, _, upTo, authenticated⟩ := exists_dial_of_retry found
      have reached := meets_connectAndAuth rfl (hosts number) authenticated
      exact ⟨number, redialed.dials ▸ hosts, upTo, keeps_of_opened evolve reached⟩

/-- Rounds in a row, each with the sessions of its two calls. -/
inductive SyncsOn (evolve : MailboxesEvolve mails) :
    Nat → UidSet → List (Resynced AccountServer) → Prop
  | nil {number : Nat} {seen : UidSet} : SyncsOn evolve number seen []
  | cons {number middle later : Nat} {seen kept : UidSet} {resynced : Resynced AccountServer}
      {rest : List (Resynced AccountServer)} :
      number ≤ middle → middle ≤ later → later < resynced.client.dialed →
      SyncsAcross evolve seen middle later kept resynced →
      SyncsOn evolve later resynced.seen rest →
      SyncsOn evolve number seen (resynced :: rest)

theorem Joined.syncRounds
    (evolve : MailboxesEvolve mails)
    (joined : reconnecting.Joined account mails number)
    {chores : List (List Call)}
    (commands : ∀ calls ∈ chores, ∀ call ∈ calls, call.isCommand = true ∧ call.named = [])
    {seen : UidSet}
    (clean : ∀ resynced ∈ ReconnectingClient.syncRounds seen chores reconnecting,
      ∀ transport ∈ resynced.succeeded, ¬Torn [] transport) :
    SyncsOn evolve number seen (ReconnectingClient.syncRounds seen chores reconnecting) := by
  induction chores generalizing number seen reconnecting with
  | nil => exact .nil
  | cons calls chores inductionHypothesis =>
      obtain ⟨commandsHere, commandsLater⟩ := List.forall_mem_cons.mp commands
      obtain ⟨cleanHere, cleanLater⟩ := List.forall_mem_cons.mp clean
      obtain ⟨next, onward, joined'⟩ := joined.performAll evolve commandsHere
      obtain ⟨middle, kept, later, onward', onward'', joined'', across⟩ :=
        joined'.syncRound evolve cleanHere
      exact .cons (onward.trans onward') onward'' joined''.dialed across
        (inductionHypothesis joined'' commandsLater cleanLater)

variable {evolve : MailboxesEvolve mails} {seen : UidSet}
  {rounds : List (Resynced AccountServer)}

omit [Md5] in
/-- Call by call, the rounds follow the mailboxes in the order of dialing. -/
theorem SyncsOn.exists_rounds (syncs : SyncsOn evolve number seen rounds) :
    ∃ moments handed, (number :: moments).Pairwise (· ≤ ·) ∧
      Sync.Rounds {uid | uid ∈ seen.elements} (moments.map (present mails)) handed ∧
      handed.flatten = rounds.flatMap Resynced.returnedIds := by
  induction syncs with
  | nil => exact ⟨[], [], by simp, .nil, rfl⟩
  | @cons number middle later seen kept resynced rest onward onward' _ across _
      inductionHypothesis =>
      obtain ⟨moments, handed, sorted, went, same⟩ := inductionHypothesis
      refine ⟨middle :: later :: moments, [] :: resynced.returnedIds :: handed, ?_,
        .cons across.prunes (.cons across.fetches went), ?_⟩
      · have fromMiddle : (middle :: later :: moments).Pairwise (· ≤ ·) :=
          List.pairwise_cons.mpr ⟨fun moment member => onward'.trans <| by
            rcases List.mem_cons.mp member with rfl | member
            · exact le_rfl
            · exact (List.pairwise_cons.mp sorted).1 moment member, sorted⟩
        refine List.pairwise_cons.mpr ⟨fun moment member => onward.trans ?_, fromMiddle⟩
        rcases List.mem_cons.mp member with rfl | member
        · exact le_rfl
        · exact (List.pairwise_cons.mp fromMiddle).1 moment member
      · rw [List.flatten_cons, List.nil_append, List.flatten_cons, same, List.flatMap_cons]

omit [Md5] in
/-- What is seen after a round has been seen before all of them, or returned by one. -/
theorem SyncsOn.recorded
    (syncs : SyncsOn evolve number seen rounds)
    {before after : List (Resynced AccountServer)}
    {resynced : Resynced AccountServer}
    (split : rounds = before ++ resynced :: after)
    {uid : Str}
    (member : uid ∈ resynced.seen.elements) :
    uid ∈ seen.elements ∨ uid ∈ (before ++ [resynced]).flatMap Resynced.returnedIds := by
  induction syncs generalizing before with
  | nil => simp at split
  | @cons number middle later seen kept first rest _ _ _ across _ inductionHypothesis =>
      cases before with
      | nil =>
          obtain ⟨rfl, _⟩ := List.cons.inj split
          simpa using across.recorded uid member
      | cons head before =>
          obtain ⟨rfl, rest⟩ := List.cons.inj split
          rw [List.cons_append, List.flatMap_cons, List.mem_append, ← or_assoc]
          exact (inductionHypothesis rest).imp_left (across.recorded uid)

omit [Md5] in
/-- Each round that succeeds has fetched from one session, and these are in order. -/
theorem SyncsOn.exists_sessions (syncs : SyncsOn evolve number seen rounds) :
    ∃ numbers, (number :: numbers).Pairwise (· ≤ ·) ∧
      List.Forall₂ (fun later resynced => later < resynced.client.dialed ∧
        ∀ fetched, resynced.fetched = some fetched → Couples (evolve.posts later) fetched ∧
          ∀ uid ∈ present mails later, uid ∈ resynced.seen.elements) numbers rounds := by
  induction syncs with
  | nil => exact ⟨[], by simp, .nil⟩
  | @cons number middle later seen kept resynced rest onward onward' dialed across _
      inductionHypothesis =>
      obtain ⟨numbers, sorted, sessions⟩ := inductionHypothesis
      refine ⟨later :: numbers, List.pairwise_cons.mpr ⟨fun other member => ?_, sorted⟩,
        .cons ⟨dialed, across.succeeded⟩ sessions⟩
      rcases List.mem_cons.mp member with rfl | member
      · exact onward.trans onward'
      · exact (onward.trans onward').trans ((List.pairwise_cons.mp sorted).1 other member)

/-- Incremental sync through a client that reconnects, over any number of rounds and whatever is
lost on the way: no unique id is returned twice, each one comes with its own message of the
session that it was fetched in, and after a round that succeeds everything that is in the
mailbox of that session was seen from the start or has been returned. -/
theorem resynced_exactly_once
    (evolve : MailboxesEvolve mails)
    {settings : ReconnectingClientBuilder AccountServer}
    {username password : Str}
    (hosts : ∀ number, account.Hosts lossy (mails number) (settings.dials number))
    (connected : settings.connect username password = .ok reconnecting)
    {chores : List (List Call)}
    (commands : ∀ calls ∈ chores, ∀ call ∈ calls, call.isCommand = true ∧ call.named = [])
    (seen : UidSet)
    (clean : ∀ resynced ∈ ReconnectingClient.syncRounds seen chores reconnecting,
      ∀ transport ∈ resynced.succeeded, ¬Torn [] transport) :
    let rounds := ReconnectingClient.syncRounds seen chores reconnecting
    (rounds.flatMap Resynced.returnedIds).Nodup ∧
      (∃ numbers, numbers.Pairwise (· ≤ ·) ∧
        List.Forall₂ (fun number resynced => number < resynced.client.dialed ∧
          ∀ fetched, resynced.fetched = some fetched → Couples (evolve.posts number) fetched ∧
            ∀ uid ∈ present mails number, uid ∈ resynced.seen.elements) numbers rounds) ∧
      ∀ before resynced after, rounds = before ++ resynced :: after →
        ∀ uid ∈ resynced.seen.elements,
          uid ∈ seen.elements ∨ uid ∈ (before ++ [resynced]).flatMap Resynced.returnedIds := by
  obtain ⟨number, joined⟩ := joined_of_connect evolve hosts connected
  have syncs := joined.syncRounds evolve commands clean
  obtain ⟨moments, handed, sorted, went, same⟩ := syncs.exists_rounds
  obtain ⟨numbers, sorted', sessions⟩ := syncs.exists_sessions
  refine ⟨?_, ⟨numbers, (List.pairwise_cons.mp sorted').2, sessions⟩,
    fun _ _ _ split _ member => syncs.recorded split member⟩
  rw [← same]
  exact went.nodup_of_neverReturns evolve.neverReturns (List.pairwise_cons.mp sorted).2

end ReconnectingClient

end Rounds

/-- The servers of the two mailboxes: one for the first connection, the other for all later
ones. -/
def changingServers (number : Nat) : MailServer :=
  if number = 0 then smallServer else { smallServer with mailbox := laterMailbox }

/-- Connections to the small account.  The first is lost in the second round, between its two
calls, and the mailbox has changed then. -/
def smallAccount.changing : ReconnectingClientBuilder AccountServer where
  builder := { hostname := "here".toList, tlsMode := .startTls }
  dials number := { connects _ _ := .ok {
    server := { account := smallAccount, mails := changingServers number }
    wire := smallAccount.opening
    reads := if number = 0 then List.replicate 10 (.arrive 99) ++ [.drop .endOfFile] else []
    handshake := smallAccount.handshake } }

theorem hosts_changing (number : Nat) :
    smallAccount.Hosts lossy (changingServers number) (smallAccount.changing.dials number) := by
  intro host port net dialed
  obtain rfl := Except.ok.inj dialed
  refine ⟨⟨rfl, rfl, rfl, rfl⟩, rfl, fun tick member => ?_, by simp⟩
  cases tick with
  | arrive => exact True.intro
  | deadline =>
      dsimp only at member
      split at member <;> simp at member
  | drop => rfl

theorem evolve_changing : MailboxesEvolve changingServers where
  unmarked number := by
    unfold changingServers
    split <;> rfl
  distinct number := by
    unfold changingServers
    split <;> decide
  neverReturns first middle last early late uid was again := by
    unfold present changingServers at was again ⊢
    by_cases atFirst : middle = 0
    · obtain rfl : first = 0 := Nat.le_zero.mp (atFirst ▸ early)
      rwa [atFirst]
    · have later : last ≠ 0 := fun zero => atFirst (Nat.le_zero.mp (zero ▸ late))
      rw [if_neg later] at again
      rwa [if_neg atFirst]

/-- Two rounds: the first message is returned in the first session, and the other one in the
session that is begun by the second round. -/
theorem resynced_exactly_once_changing :
    let _ := emptyDigest
    ∃ reconnecting, smallAccount.changing.connect "me".toList "secret".toList =
        .ok reconnecting ∧
      let rounds := ReconnectingClient.syncRounds ⟨[], List.nodup_nil⟩ [[], [.noop]] reconnecting
      rounds.map Resynced.returnedIds = [["a1".toList], ["b2".toList]] ∧
      (rounds.flatMap Resynced.returnedIds).Nodup ∧
      (∃ numbers, numbers.Pairwise (· ≤ ·) ∧
        List.Forall₂ (fun number resynced => number < resynced.client.dialed ∧
          ∀ fetched, resynced.fetched = some fetched →
            Couples (evolve_changing.posts number) fetched ∧
            ∀ uid ∈ present changingServers number, uid ∈ resynced.seen.elements)
          numbers rounds) ∧
      ∀ before resynced after, rounds = before ++ resynced :: after →
        ∀ uid ∈ resynced.seen.elements,
          uid ∈ (⟨[], List.nodup_nil⟩ : UidSet).elements ∨
            uid ∈ (before ++ [resynced]).flatMap Resynced.returnedIds := by
  let _ := emptyDigest
  have computes : (smallAccount.changing.connect "me".toList "secret".toList).toOption.map
      (fun reconnecting =>
        let rounds := ReconnectingClient.syncRounds ⟨[], List.nodup_nil⟩ [[], [.noop]] reconnecting
        (rounds.map Resynced.returnedIds, rounds.all fun resynced =>
          resynced.succeeded.all fun transport => transport.net.trace.all Event.isWhole)) =
      some ([["a1".toList], ["b2".toList]], true) := by
    decide +kernel
  obtain ⟨reconnecting, connected, computed⟩ := exists_ok_of_toOption_map computes
  obtain ⟨ids, whole⟩ := Prod.mk.inj computed
  refine ⟨reconnecting, connected, ids, ReconnectingClient.resynced_exactly_once evolve_changing
    hosts_changing connected ?_ _ fun resynced member transport left => ?_⟩
  · simp [Call.isCommand, Call.named]
  · exact not_torn_of_isWhole (List.all_eq_true.mp (List.all_eq_true.mp whole resynced member)
      transport left)

end Pop3
