import Pop3.Mailbox.Refinement
import Pop3.Sync.Posts
import Pop3.Sync.Rounds

/-!
# Incremental sync across sessions

A caller prunes what it has seen, fetches what it has not, and remembers what it has
fetched.  The mailbox changes between the sessions, and anything may fail in them.
-/

namespace Pop3

open Rust Framing Pop3Client

/-! ## The caller -/

namespace Pop3Client.UidSet

/-- `HashSet::insert`. -/
def insert (uid : Str) (set : UidSet) : UidSet :=
  if member : uid ∈ set.elements then set
  else
    { elements := uid :: set.elements
      nodup := List.nodup_cons.mpr ⟨member, set.nodup⟩ }

theorem mem_insert (uid other : Str) (set : UidSet) :
    other ∈ (set.insert uid).elements ↔ other = uid ∨ other ∈ set.elements := by
  unfold insert
  split
  · rename_i member
    refine ⟨.inr, fun either => either.elim ?_ id⟩
    rintro rfl
    exact member
  · exact List.mem_cons

/-- Insert one after the other. -/
def insertAll (uids : List Str) (set : UidSet) : UidSet :=
  uids.foldl (fun set uid => set.insert uid) set

theorem mem_insertAll (uids : List Str) (other : Str) (set : UidSet) :
    other ∈ (set.insertAll uids).elements ↔ other ∈ uids ∨ other ∈ set.elements := by
  induction uids generalizing set with
  | nil => simp [insertAll]
  | cons uid uids inductionHypothesis =>
      refine (inductionHypothesis (set.insert uid)).trans ?_
      rw [mem_insert, List.mem_cons]
      tauto

end Pop3Client.UidSet

/-- What a session has come to: the messages, if both calls have succeeded, what is seen
from then on, and the client that is left. -/
structure Synced (σ : Type) where
  fetched : Option (List (UidlEntry × Message))
  seen : UidSet
  client : Pop3Client σ

/-- The unique ids that were returned. -/
def Synced.returnedIds (synced : Synced σ) : List Str :=
  (synced.fetched.getD []).map fun pair => pair.1.uniqueId

/-- One session of the caller.  After an error it leaves the set as it is. -/
def syncSession [Server σ] (seen : UidSet) (client : Pop3Client σ) : Synced σ :=
  match pruneSeen seen client with
  | .error _ client => { fetched := none, seen, client }
  | .ok (_, seen) client =>
      match fetchUnseen seen client with
      | .error _ client => { fetched := none, seen, client }
      | .ok fetched client =>
          { fetched := some fetched
            seen := seen.insertAll (fetched.map fun pair => pair.1.uniqueId)
            client }

/-- A session: the messages on the server, and a client that is authenticated with it. -/
structure Session (σ : Type) where
  posts : Posts
  client : Pop3Client σ

/-- The sessions of the caller, one after the other. -/
def syncSessions [Server σ] : UidSet → List (Session σ) → List (Synced σ)
  | _, [] => []
  | seen, session :: later =>
      let synced := syncSession seen session.client
      synced :: syncSessions synced.seen later

/-! ## One session with the server -/

section Asking

variable [AnsweringServer σ] {posts : Posts} {holds : σ → Prop} {dialogue : Dialogue σ}

/-- Each pair is one of these messages, with its unique id. -/
def Couples (posts : Posts) (fetched : List (UidlEntry × Message)) : Prop :=
  ∀ pair ∈ fetched, ∃ post ∈ posts.posts, post.uniqueId = pair.1.uniqueId ∧ post.Spells pair.2

theorem Posts.exists_of_mem_entries
    {entry : UidlEntry}
    (member : entry ∈ posts.entries) :
    ∃ post ∈ posts.posts, (entry.messageId, post) ∈ posts.numbered ∧
      post.uniqueId = entry.uniqueId := by
  obtain ⟨⟨messageId, post⟩, numbered, rfl⟩ := List.mem_map.mp member
  obtain ⟨⟨other, index⟩, inPosts, same⟩ := List.mem_map.mp numbered
  cases same
  exact ⟨post, List.fst_mem_of_mem_zipIdx inPosts, numbered, rfl⟩

theorem Offers.fetchEach_reads
    (offers : Offers posts holds)
    (intact : posts.AreIntact)
    (held : holds dialogue.server)
    {entries : List UidlEntry}
    (listed : ∀ entry ∈ entries, entry ∈ posts.entries)
    {fetched : List (UidlEntry × Message)}
    (fetches : returned (View.partner.fetchEach entries dialogue.view) = .ok fetched) :
    fetched.map Prod.fst = entries ∧ Couples posts fetched := by
  induction entries generalizing dialogue fetched with
  | nil =>
      cases fetches
      exact ⟨rfl, by simp [Couples]⟩
  | cons entry entries inductionHypothesis =>
      obtain ⟨post, inPosts, numbered, same⟩ :=
        Posts.exists_of_mem_entries (listed entry List.mem_cons_self)
      rw [Partner.fetchEach] at fetches
      cases run : View.partner.retr entry.messageId dialogue.view with
      | error error middle =>
          rw [bind_of_error run] at fetches
          cases fetches
      | ok message middle =>
          obtain ⟨spells, next, held', final⟩ :=
            offers.retr_reads held numbered (intact post inPosts) (congrArg returned run)
          rw [run] at final
          rw [bind_of_ok run, returned_bind_pure, show middle = next.view from final] at fetches
          cases rest : returned (View.partner.fetchEach entries next.view) with
          | error error =>
              rw [rest] at fetches
              cases fetches
          | ok others =>
              rw [rest] at fetches
              cases fetches
              obtain ⟨all, couples⟩ := inductionHypothesis held'
                (fun other member => listed other (List.mem_cons_of_mem _ member)) rest
              refine ⟨congrArg (entry :: ·) all, List.forall_mem_cons.mpr ⟨?_, couples⟩⟩
              exact ⟨post, inPosts, same, spells⟩

/-- What is fetched is what is there and was not seen. -/
theorem Offers.fetchUnseen_reads
    (offers : Offers posts holds)
    (intact : posts.AreIntact)
    (held : holds dialogue.server)
    {seen : UidSet}
    {fetched : List (UidlEntry × Message)}
    (fetches : returned (View.partner.fetchUnseen seen dialogue.view) = .ok fetched) :
    fetched.map (fun pair => pair.1.uniqueId) = posts.uids.filter (· ∉ seen.elements) ∧
      Couples posts fetched := by
  rw [Partner.fetchUnseen, Partner.unseenUids] at fetches
  cases run : View.partner.uidl none dialogue.view with
  | error error middle =>
      rw [bind_assoc, bind_of_error run] at fetches
      cases fetches
  | ok entries middle =>
      obtain ⟨rfl, next, held', final⟩ := offers.uidl_reads held (congrArg returned run)
      rw [run] at final
      rw [bind_assoc, bind_of_ok run, pure_bind, show middle = next.view from final] at fetches
      obtain ⟨all, couples⟩ := offers.fetchEach_reads intact held'
        (fun entry member => (List.mem_filter.mp member).1) fetches
      refine ⟨?_, couples⟩
      calc fetched.map (fun pair => pair.1.uniqueId)
          = (fetched.map Prod.fst).map UidlEntry.uniqueId := by simp [Function.comp_def]
        _ = (posts.entries.map UidlEntry.uniqueId).filter (· ∉ seen.elements) := by
          rw [all, List.filter_map]
          rfl
        _ = posts.uids.filter (· ∉ seen.elements) := by rw [posts.uids_entries]

/-- What is kept is what was seen and is there. -/
theorem Offers.pruneSeen_reads
    (offers : Offers posts holds)
    (held : holds dialogue.server)
    {seen kept : UidSet}
    {pruned : List Str}
    (prunes : returned (View.partner.pruneSeen seen dialogue.view) = .ok (pruned, kept)) :
    (∀ uid, uid ∈ kept.elements ↔ uid ∈ seen.elements ∧ uid ∈ posts.uids) ∧
      ∃ after : Dialogue σ, holds after.server ∧
        finalState (View.partner.pruneSeen seen dialogue.view) = after.view := by
  rw [Partner.pruneSeen] at prunes ⊢
  cases run : View.partner.uidl none dialogue.view with
  | error error middle =>
      rw [bind_of_error run] at prunes
      cases prunes
  | ok entries middle =>
      obtain ⟨rfl, next, held', final⟩ := offers.uidl_reads held (congrArg returned run)
      rw [run] at final
      rw [bind_of_ok run, posts.uids_entries] at prunes ⊢
      refine ⟨fun uid => ?_, next, held', final⟩
      cases prunes
      simp [UidSet.retain]

end Asking

/-! ## One session with the client -/

/-- A session begins in sync, and its server offers the messages as long as it lasts. -/
def Session.Begins [AnsweringServer σ] (session : Session σ) : Prop :=
  ∃ (holds : σ → Prop) (dialogue : Dialogue σ), Offers session.posts holds ∧
    holds dialogue.server ∧ InSync stormy session.client dialogue

section Syncing

variable [AnsweringServer σ] {posts : Posts} {holds : σ → Prop} {start : List Event}
  {client : Pop3Client σ} {dialogue : Dialogue σ} {seen : UidSet}

/-- The outcome of a session: a round that hands out its ids, and after two successes
whole messages and a set that is what the server has. -/
structure SyncsWith (posts : Posts) (seen : UidSet) (synced : Synced σ) : Prop where
  round : Sync.Round {uid | uid ∈ posts.uids} {uid | uid ∈ seen.elements} synced.returnedIds
    {uid | uid ∈ synced.seen.elements}
  succeeded : ∀ fetched, synced.fetched = some fetched → Couples posts fetched ∧
    ∀ uid, uid ∈ synced.seen.elements ↔ uid ∈ posts.uids

omit [AnsweringServer σ] in
/-- Where the fetch fails, the pruned set stays. -/
theorem syncsWith_nothing
    {kept : UidSet}
    (keeps : ∀ uid ∈ posts.uids, uid ∈ seen.elements → uid ∈ kept.elements) :
    SyncsWith posts seen { fetched := none, seen := kept, client } where
  round := .nothing keeps
  succeeded _ some := nomatch some

omit [AnsweringServer σ] in
/-- Where both succeed, the set is what the server has. -/
theorem syncsWith_fetched
    {kept : UidSet}
    (keeps : ∀ uid, uid ∈ kept.elements ↔ uid ∈ seen.elements ∧ uid ∈ posts.uids)
    {fetched : List (UidlEntry × Message)}
    (ids : fetched.map (fun pair => pair.1.uniqueId) = posts.uids.filter (· ∉ kept.elements))
    (couples : Couples posts fetched) :
    SyncsWith posts seen
      { fetched := some fetched
        seen := kept.insertAll (fetched.map fun pair => pair.1.uniqueId)
        client } := by
  have remembered : ∀ uid,
      uid ∈ (kept.insertAll (fetched.map fun pair => pair.1.uniqueId)).elements ↔
        uid ∈ posts.uids := by
    intro uid
    have known := keeps uid
    rw [UidSet.mem_insertAll, ids, List.mem_filter, decide_eq_true_iff]
    tauto
  constructor
  · constructor
    · change (fetched.map fun pair => pair.1.uniqueId).Nodup
      rw [ids]
      exact posts.distinct.filter _
    · intro uid member
      change uid ∈ fetched.map (fun pair => pair.1.uniqueId) at member
      rw [ids, List.mem_filter, decide_eq_true_iff] at member
      exact ⟨member.1, fun before => member.2 ((keeps uid).mpr ⟨before, member.1⟩)⟩
    · intro uid member
      exact (UidSet.mem_insertAll _ _ _).mpr (.inl member)
    · exact fun uid there _ => (remembered uid).mpr there
  · rintro _ ⟨⟩
    exact ⟨couples, remembered⟩

/-- Every session that tears no line comes to a round. -/
theorem syncSession_syncs
    (offers : Offers posts holds)
    (intact : posts.AreIntact)
    (held : holds dialogue.server)
    (inStep : Dialogue.InStep start client dialogue)
    (clean : ¬Torn start (syncSession seen client).client.transport) :
    SyncsWith posts seen (syncSession seen client) := by
  have talks : Talks (clientFaults start) (Steady start) (View.partner : Partner (View σ)) :=
    talks_steady start
  have pruning := talks.pruneSeen seen dialogue.view client inStep
  unfold syncSession at clean ⊢
  cases run : pruneSeen seen client with
  | error error after =>
      exact syncsWith_nothing fun _ _ before => before
  | ok result after =>
      obtain ⟨pruned, kept⟩ := result
      rw [run] at clean pruning
      dsimp only at clean ⊢
      have tears : Preserves (fun client : Pop3Client σ => Torn start client.transport)
          (fetchUnseen kept) := talks.keeps (program_fetchUnseen kept)
      rcases pruning with ⟨same, steady⟩ | ⟨_, failed, _⟩ | torn
      · obtain ⟨keeps, next, held', final⟩ := offers.pruneSeen_reads held same.symm
        rw [final] at steady
        have fetching := talks.fetchUnseen kept _ after steady
        cases run' : fetchUnseen kept after with
        | error error last =>
            exact syncsWith_nothing fun uid there before => (keeps uid).mpr ⟨before, there⟩
        | ok fetched last =>
            rw [run'] at clean fetching
            rcases fetching with ⟨same', _⟩ | ⟨_, failed, _⟩ | torn
            · obtain ⟨ids, couples⟩ := offers.fetchUnseen_reads intact held' same'.symm
              exact syncsWith_fetched keeps ids couples
            · cases failed
            · exact absurd torn clean
      · cases failed
      · have torn' := tears after torn
        cases run' : fetchUnseen kept after with
        | error error last =>
            rw [run'] at clean torn'
            exact absurd torn' clean
        | ok fetched last =>
            rw [run'] at clean torn'
            exact absurd torn' clean

end Syncing

/-! ## All sessions -/

section Sessions

variable [AnsweringServer σ]

/-- In none of the sessions a line was torn: each reply is delivered completely, or its
read fails. -/
def NoneTorn (sessions : List (Session σ)) (results : List (Synced σ)) : Prop :=
  List.Forall₂ (fun session synced =>
    ¬Torn session.client.transport.net.trace synced.client.transport) sessions results

/-- The mailbox changes from session to session, and no unique id returns. -/
def MailboxEvolves (sessions : List (Session σ)) : Prop :=
  Sync.Evolves ∅ ∅ (sessions.map fun session => {uid | uid ∈ session.posts.uids})

theorem rounds_syncSessions
    {seen : UidSet}
    {sessions : List (Session σ)}
    (begins : ∀ session ∈ sessions, session.Begins)
    (intact : ∀ session ∈ sessions, session.posts.AreIntact)
    (noneTorn : NoneTorn sessions (syncSessions seen sessions)) :
    Sync.Rounds {uid | uid ∈ seen.elements}
        (sessions.map fun session => {uid | uid ∈ session.posts.uids})
        ((syncSessions seen sessions).map Synced.returnedIds) ∧
      List.Forall₂ (fun session synced => ∀ fetched, synced.fetched = some fetched →
        Couples session.posts fetched ∧
          ∀ uid, uid ∈ synced.seen.elements ↔ uid ∈ session.posts.uids)
        sessions (syncSessions seen sessions) := by
  induction sessions generalizing seen with
  | nil => exact ⟨.nil, .nil⟩
  | cons session sessions inductionHypothesis =>
      obtain ⟨holds, dialogue, offers, held, inSync⟩ := begins session List.mem_cons_self
      cases noneTorn with
      | cons clean noneTorn =>
          have syncs := syncSession_syncs offers (intact session List.mem_cons_self) held
            (Dialogue.inStep_of_inSync inSync) clean
          obtain ⟨rounds, succeeded⟩ := inductionHypothesis
            (fun other member => begins other (List.mem_cons_of_mem _ member))
            (fun other member => intact other (List.mem_cons_of_mem _ member)) noneTorn
          exact ⟨.cons syncs.round rounds, .cons syncs.succeeded succeeded⟩

/-- Over all sessions, whatever fails in them: no unique id is returned twice, each one
comes with its own message, and after each session in which both calls succeed the set
is exactly what the server has.  Bare LFs in the messages must do no harm. -/
theorem synced_exactly_once
    {seen : UidSet}
    {sessions : List (Session σ)}
    (begins : ∀ session ∈ sessions, session.Begins)
    (intact : ∀ session ∈ sessions, session.posts.AreIntact)
    (evolves : MailboxEvolves sessions)
    (noneTorn : NoneTorn sessions (syncSessions seen sessions)) :
    ((syncSessions seen sessions).flatMap Synced.returnedIds).Nodup ∧
      List.Forall₂ (fun session synced => ∀ fetched, synced.fetched = some fetched →
        Couples session.posts fetched ∧
          ∀ uid, uid ∈ synced.seen.elements ↔ uid ∈ session.posts.uids)
        sessions (syncSessions seen sessions) := by
  obtain ⟨rounds, succeeded⟩ := rounds_syncSessions begins intact noneTorn
  exact ⟨rounds.nodup evolves, succeeded⟩

end Sessions

/-! ## A message that ends early -/

/-- A server with these messages, which refuses all but `UIDL` and `RETR`. -/
structure Shelf where
  posts : Posts

instance : AnsweringServer Shelf where
  answer server command := (server,
    if command = utf8 "UIDL".toList then
      { isPositive := true, text := .blank, body := server.posts.listing.map Line.encode }
    else
      match server.posts.numbered.find? fun row =>
          command = utf8 (commandFor "RETR ".toList row.1) with
      | some row => { isPositive := true, text := .blank, body := row.2.lines }
      | none => { isPositive := false, text := .blank, body := [] })

/-- A line of the first message holds the end of a body and another reply. -/
def forgingPosts : Posts where
  posts := [
    { uniqueId := "c3".toList
      lines := [⟨utf8 "one\n.\n+OK\nforged\n.".toList, by decide⟩]
      isUniqueId := ⟨by decide, by simp⟩ },
    { uniqueId := "d4".toList
      lines := [⟨utf8 "next".toList, by decide⟩]
      isUniqueId := ⟨by decide, by simp⟩ } ]
  distinct := by decide
  countFits := by decide

theorem offers_shelf : Offers forgingPosts fun server : Shelf => server = ⟨forgingPosts⟩ where
  uidl := by
    rintro _ rfl
    exact ⟨rfl, fun _ => by decide +kernel⟩
  retr := by
    rintro _ rfl messageId post member
    refine ⟨rfl, fun _ => ?_⟩
    have either : (messageId, post) = forgingPosts.numbered.head (by decide) ∨
        (messageId, post) = forgingPosts.numbered.getLast (by decide) := by
      simpa [forgingPosts, Posts.numbered] using member
    rcases either with same | same <;> cases same <;> decide +kernel

/-- A session with a server whose first message ends early. -/
def forgingSession : Session Shelf where
  posts := forgingPosts
  client := .idle ⟨forgingPosts⟩ [] false

theorem not_couples_forged {uidlEntry : UidlEntry} (second : uidlEntry.uniqueId = "d4".toList) :
    ¬Couples forgingPosts [(uidlEntry, ⟨"forged\n".toList⟩)] := by
  intro couples
  obtain ⟨post, member, sameId, texts, spells, data⟩ := couples _ List.mem_cons_self
  rw [second] at sameId
  have either : post = forgingPosts.posts.head (by decide) ∨
      post = forgingPosts.posts.getLast (by decide) := by
    simpa [forgingPosts] using member
  rcases either with rfl | rfl
  · exact absurd sameId (by decide)
  · have only : texts = ["next".toList] :=
      List.map_injective_iff.mpr utf8_injective (spells.symm.trans (by decide))
    rw [only] at data
    exact absurd data (show "forged\n".toList ≠ joined ["next".toList] by decide)

/-- The second unique id comes with what stands in the first message, though every reply is
delivered completely. -/
theorem exists_foreign_message :
    (∀ session ∈ [forgingSession], session.Begins) ∧
      MailboxEvolves [forgingSession] ∧
      NoneTorn [forgingSession] (syncSessions ⟨[], List.nodup_nil⟩ [forgingSession]) ∧
      ¬List.Forall₂ (fun session synced => ∀ fetched, synced.fetched = some fetched →
        Couples session.posts fetched ∧
          ∀ uid, uid ∈ synced.seen.elements ↔ uid ∈ session.posts.uids)
        [forgingSession] (syncSessions ⟨[], List.nodup_nil⟩ [forgingSession]) := by
  refine ⟨?_, ⟨fun _ _ used => used, trivial⟩, ?_, fun every => ?_⟩
  · rintro session (_ | ⟨_, ⟨⟩⟩)
    exact ⟨_, _, offers_shelf, rfl, inSync_idle (fun tick _ => tick.within_stormy) _ _⟩
  · exact .cons (not_torn_of_isWhole (by decide +kernel)) .nil
  · have fetches : (syncSession ⟨[], List.nodup_nil⟩ forgingSession.client).fetched = some
        [(⟨1, "c3".toList⟩, ⟨"one\n".toList⟩), (⟨2, "d4".toList⟩, ⟨"forged\n".toList⟩)] := by
      decide +kernel
    rw [syncSessions, List.forall₂_cons] at every
    obtain ⟨couples, _⟩ := every.1 _ fetches
    exact not_couples_forged rfl fun pair member => couples pair (List.mem_cons_of_mem _ member)

/-! ## The server of a mailbox -/

namespace Mailbox

/-- A message as its server keeps it. -/
def post (mail : Mail) : Post where
  uniqueId := mail.uniqueId
  lines := mail.lines.map Line.encode
  isUniqueId := mail.isUniqueId

/-- The messages of a mailbox in which no unique id occurs twice. -/
def posts (mailbox : Mailbox) (distinct : (mailbox.mails.map Mail.uniqueId).Nodup) : Posts where
  posts := mailbox.mails.map post
  distinct := by rwa [List.map_map]
  countFits := by rw [List.length_map]; exact mailbox.countFits

theorem areIntact_posts
    (mailbox : Mailbox)
    (distinct : (mailbox.mails.map Mail.uniqueId).Nodup) :
    (mailbox.posts distinct).AreIntact := by
  intro post member
  obtain ⟨mail, _, rfl⟩ := List.mem_map.mp member
  refine Post.isIntact_of_plain fun octetLine inLines => ?_
  obtain ⟨line, _, rfl⟩ := List.mem_map.mp inLines
  exact line.isPlain_encode

theorem numbered_posts
    (mailbox : Mailbox)
    (distinct : (mailbox.mails.map Mail.uniqueId).Nodup) :
    (mailbox.posts distinct).numbered = mailbox.numbered.map fun row => (row.1, post row.2) := by
  simp [Posts.numbered, posts, numbered, List.zipIdx_map, Function.comp_def]

theorem present_of_unmarked
    {mailbox : Mailbox}
    (unmarked : mailbox.marks = ∅) :
    mailbox.present = mailbox.numbered := by
  simp [present, unmarked]

/-- No number occurs twice. -/
theorem nodup_numbers (mailbox : Mailbox) : (mailbox.numbered.map Prod.fst).Nodup := by
  have numbers : mailbox.numbered.map Prod.fst =
      (mailbox.mails.zipIdx.map Prod.snd).map fun index => UInt32.ofNat (index + 1) := by
    rw [numbered, List.map_map, List.map_map]
    rfl
  rw [numbers, List.zipIdx_map_snd]
  refine List.Nodup.map_on (fun first inFirst second inSecond same => ?_) List.nodup_range'
  have fits := mailbox.countFits
  have values := congrArg UInt32.toNat same
  rw [List.mem_range'_1] at inFirst inSecond
  rw [UInt32.toNat_ofNat_of_lt' (by omega), UInt32.toNat_ofNat_of_lt' (by omega)] at values
  omega

/-- A message is found by its number. -/
theorem find_of_mem
    {mailbox : Mailbox}
    (unmarked : mailbox.marks = ∅)
    {messageId : UInt32}
    {mail : Mail}
    (member : (messageId, mail) ∈ mailbox.numbered) :
    mailbox.find messageId = some mail := by
  rw [find, present_of_unmarked unmarked, List.lookup_eq_some_iff]
  have nodup := mailbox.nodup_numbers
  obtain ⟨before, after, split⟩ := List.append_of_mem member
  refine ⟨before, after, split, fun row earlier => ?_⟩
  rw [split, List.map_append, List.map_cons, List.nodup_append] at nodup
  have other := nodup.2.2 row.1 (List.mem_map_of_mem earlier) messageId List.mem_cons_self
  exact bne_iff_ne.mpr (Ne.symm other)

end Mailbox

/-- What the server of a mailbox answers to a request that changes nothing. -/
theorem MailServer.answer_request
    (server : MailServer)
    (request : Request)
    (silent : Mailbox.after request = id) :
    (AnsweringServer.answer server (utf8 request.command)).1.mailbox = server.mailbox ∧
      ((AnsweringServer.answer server (utf8 request.command)).2.isPositive = true →
        ∃ text lines, server.mailbox.grant server.choice.positive request = some (text, lines) ∧
          (AnsweringServer.answer server (utf8 request.command)).2.body =
            lines.map Line.encode) := by
  have granted := server.granted_command request
  rw [silent] at granted
  by_cases refuses : server.choice.refuses = true
  · rw [if_pos refuses] at granted
    simp only [AnsweringServer.answer, granted, Option.map_none]
    exact ⟨rfl, fun positive => nomatch positive⟩
  · rw [if_neg refuses] at granted
    cases given : server.mailbox.grant server.choice.positive request with
    | none =>
        rw [given] at granted
        simp only [AnsweringServer.answer, granted, Option.map_none]
        exact ⟨rfl, fun positive => nomatch positive⟩
    | some found =>
        rw [given] at granted
        simp only [AnsweringServer.answer, granted, Option.map_some]
        exact ⟨rfl, fun _ => ⟨_, _, rfl, rfl⟩⟩

/-- The server of a mailbox offers its messages. -/
theorem offers_mailServer
    {mailbox : Mailbox}
    (unmarked : mailbox.marks = ∅)
    (distinct : (mailbox.mails.map Mail.uniqueId).Nodup) :
    Offers (mailbox.posts distinct) fun server : MailServer => server.mailbox = mailbox where
  uidl := by
    rintro server rfl
    obtain ⟨same, granted⟩ := server.answer_request (.uidl none) rfl
    refine ⟨same, fun positive => ?_⟩
    obtain ⟨text, lines, given, body⟩ := granted positive
    cases given
    rw [Mailbox.present_of_unmarked unmarked] at body
    refine body.trans (congrArg (List.map Line.encode) ?_)
    rw [Posts.listing, Mailbox.numbered_posts, List.map_map]
    rfl
  retr := by
    rintro server rfl messageId post member
    rw [Mailbox.numbered_posts] at member
    obtain ⟨⟨number, mail⟩, numbered, same⟩ := List.mem_map.mp member
    cases same
    obtain ⟨same, granted⟩ := server.answer_request (.retr number) rfl
    refine ⟨same, fun positive => ?_⟩
    obtain ⟨text, lines, given, body⟩ := granted positive
    rw [Mailbox.grant, Mailbox.find_of_mem unmarked numbered] at given
    cases given
    exact body

/-- A mailbox with another message. -/
def laterMailbox : Mailbox where
  mails := [
    { uniqueId := "b2".toList
      size := 5
      lines := [⟨"two".toList, by decide, by decide⟩]
      isUniqueId := ⟨by decide, by simp⟩ } ]
  marks := ∅
  countFits := by decide
  sizeFits := by decide

/-- Three sessions: in the first a deadline fires, and the message of the second is gone in
the third. -/
def threeSessions : List (Session MailServer) :=
  [ { posts := smallMailbox.posts (by decide)
      client := .idle smallServer [.deadline] false },
    { posts := smallMailbox.posts (by decide)
      client := .idle smallServer [] false },
    { posts := laterMailbox.posts (by decide)
      client := .idle { smallServer with mailbox := laterMailbox } [] false } ]

theorem synced_threeSessions :
    ((syncSessions ⟨[], List.nodup_nil⟩ threeSessions).flatMap Synced.returnedIds).Nodup ∧
      List.Forall₂ (fun session synced => ∀ fetched, synced.fetched = some fetched →
        Couples session.posts fetched ∧
          ∀ uid, uid ∈ synced.seen.elements ↔ uid ∈ session.posts.uids)
        threeSessions (syncSessions ⟨[], List.nodup_nil⟩ threeSessions) := by
  have small : Offers (smallMailbox.posts (by decide))
      fun server : MailServer => server.mailbox = smallMailbox := offers_mailServer rfl _
  have later : Offers (laterMailbox.posts (by decide))
      fun server : MailServer => server.mailbox = laterMailbox := offers_mailServer rfl _
  refine synced_exactly_once ?_ ?_ ?_ ?_
  · rintro session (_ | ⟨_, _ | ⟨_, _ | ⟨_, ⟨⟩⟩⟩⟩)
    · exact ⟨_, _, small, rfl, inSync_idle (fun tick _ => tick.within_stormy) _ _⟩
    · exact ⟨_, _, small, rfl, inSync_idle (fun tick _ => tick.within_stormy) _ _⟩
    · exact ⟨_, _, later, rfl, inSync_idle (fun tick _ => tick.within_stormy) _ _⟩
  · rintro session (_ | ⟨_, _ | ⟨_, _ | ⟨_, ⟨⟩⟩⟩⟩) <;>
      exact Mailbox.areIntact_posts _ (by decide)
  · refine ⟨fun _ _ used => used, fun _ there _ => there, ?_, trivial⟩
    intro uid there used
    have only : uid = "b2".toList := List.mem_singleton.mp there
    have before : uid ∈ ["a1".toList] := by
      rcases used with (none | first) | second
      · exact none.elim
      · exact first
      · exact second
    rw [only] at before
    exact absurd before (by decide)
  · exact .cons (not_torn_of_isWhole (by decide +kernel))
      (.cons (not_torn_of_isWhole (by decide +kernel))
        (.cons (not_torn_of_isWhole (by decide +kernel)) .nil))

end Pop3
