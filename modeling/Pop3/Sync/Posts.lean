import Pop3.Faults.Talking
import Pop3.Mailbox.Parsing

/-!
# Messages on offer

The messages of one session, as any server offers them that answers `UIDL` and `RETR`
in order: it may refuse each request, its texts are its own, and the lines of a message
may have any octets but CRLF.  A message comes through as it is if it is text and no line
of it has one dot alone, or two dots, behind a bare LF.
-/

namespace Pop3

open Rust Framing Pop3Client

/-! ## Messages -/

/-- A message as its server keeps it. -/
structure Post where
  uniqueId : Str
  lines : List OctetLine
  isUniqueId : IsUniqueId uniqueId

namespace Post

/-- The message that was read has the text that the octets of this one spell. -/
def Spells (post : Post) (message : Message) : Prop :=
  ∃ texts, post.lines.map OctetLine.octets = texts.map utf8 ∧ message.data = joined texts

/-- Behind a bare LF there is no single dot, which would end the message, and there are no
two dots, one of which would be taken away. -/
def IsIntact (post : Post) : Prop :=
  ∀ line ∈ post.lines, ∀ segment ∈ (line.octets.splitOn 10).tail,
    segment ≠ [46] ∧ ¬[46, 46] <+: segment

instance (post : Post) : Decidable post.IsIntact :=
  inferInstanceAs (Decidable (∀ line ∈ post.lines, _))

theorem IsIntact.not_forges
    {post : Post}
    (intact : post.IsIntact)
    {line : OctetLine}
    (member : line ∈ post.lines) :
    ¬line.Forges :=
  fun forges => (intact line member _ forges).1 rfl

theorem isIntact_of_plain
    {post : Post}
    (plain : ∀ line ∈ post.lines, line.IsPlain) :
    post.IsIntact := by
  intro line member
  rw [splitOn_of_not_mem (plain line member).2]
  simp

/-- The unique id as a line. -/
def idLine (post : Post) : Line where
  text := post.uniqueId
  noReturn := post.isUniqueId.not_mem (by decide)
  noFeed := post.isUniqueId.not_mem (by decide)

/-- The line of the unique-id listing. -/
def uidlLine (messageId : UInt32) (post : Post) : Line :=
  fields (numberLine messageId.toNat) post.idLine

def uidlEntry (messageId : UInt32) (post : Post) : UidlEntry where
  messageId
  uniqueId := post.uniqueId

/-- Every segment ended by LF is the line ended by LF. -/
theorem joined_splitOn (line : Str) : joined (line.splitOn '\n') = line ++ ['\n'] := by
  rw [joined]
  induction line with
  | nil => rfl
  | cons character line inductionHypothesis =>
      rw [List.splitOn_cons_eq_if_modifyHead, List.cons_append, ← inductionHypothesis]
      by_cases feed : character = '\n'
      · simp [feed]
      · cases segments : line.splitOn '\n' with
        | nil => exact absurd segments (List.splitOn_ne_nil '\n' line)
        | cons first rest => simp [feed]

/-- A line without two dots behind a bare LF is received as it is. -/
theorem joined_received
    {line : Str}
    (noDots : ∀ segment ∈ (line.splitOn '\n').tail, ¬"..".toList <+: segment) :
    joined (received line) = line ++ ['\n'] := by
  rw [← joined_splitOn, received]
  cases split : line.splitOn '\n' with
  | nil => exact absurd split (List.splitOn_ne_nil '\n' line)
  | cons first rest =>
      rw [split] at noDots
      have same : rest.map Transport.unstuff = rest := by
        refine (List.map_congr_left fun segment member => ?_).trans (List.map_id rest)
        rw [Transport.unstuff, stripPrefix_eq_none (noDots segment member)]
        rfl
      exact congrArg (fun rest => joined (first :: rest)) same

/-- What is received of an intact message is the message. -/
theorem IsIntact.joined_received
    {post : Post}
    (intact : post.IsIntact)
    {texts : List Str}
    (spells : post.lines.map OctetLine.octets = texts.map utf8) :
    joined (texts.flatMap received) = joined texts := by
  rw [joined, List.flatMap_assoc, joined]
  refine List.flatMap_congr fun text member => ?_
  refine Post.joined_received fun segment inTail dotted => ?_
  have encoded : utf8 text ∈ post.lines.map OctetLine.octets := by
    rw [spells]
    exact List.mem_map_of_mem member
  obtain ⟨line, inLines, same⟩ := List.mem_map.mp encoded
  have inOctets : utf8 segment ∈ (line.octets.splitOn 10).tail := by
    rw [same, splitOn_utf8, ← List.map_tail]
    exact List.mem_map_of_mem inTail
  obtain ⟨rest, rfl⟩ := dotted
  refine (intact line inLines _ inOctets).2 ⟨utf8 rest, ?_⟩
  rw [utf8_append, show utf8 "..".toList = [46, 46] from by decide]

end Post

/-- The messages of a session in the order of their numbers, which start from 1. -/
structure Posts where
  posts : List Post
  distinct : (posts.map Post.uniqueId).Nodup
  countFits : posts.length < UInt32.size

namespace Posts

/-- Every message with its number. -/
def numbered (posts : Posts) : List (UInt32 × Post) :=
  posts.posts.zipIdx.map fun (post, index) => (UInt32.ofNat (index + 1), post)

/-- The unique-id listing. -/
def listing (posts : Posts) : List Line :=
  posts.numbered.map fun (messageId, post) => post.uidlLine messageId

/-- What the unique-id listing says. -/
def entries (posts : Posts) : List UidlEntry :=
  posts.numbered.map fun (messageId, post) => post.uidlEntry messageId

/-- Every message is intact. -/
def AreIntact (posts : Posts) : Prop := ∀ post ∈ posts.posts, post.IsIntact

/-- All unique ids. -/
def uids (posts : Posts) : List Str := posts.posts.map Post.uniqueId

theorem uids_entries (posts : Posts) : posts.entries.map UidlEntry.uniqueId = posts.uids := by
  have posts_eq : posts.posts.zipIdx.map Prod.fst = posts.posts :=
    List.zipIdx_map_fst 0 posts.posts
  calc posts.entries.map UidlEntry.uniqueId
      = (posts.posts.zipIdx.map Prod.fst).map Post.uniqueId := by
        simp only [entries, numbered, List.map_map]
        rfl
    _ = posts.uids := by rw [posts_eq, uids]

theorem parseUidlMulti_listing (posts : Posts) :
    parseUidlMulti (joined (posts.listing.map Line.text)) = .ok posts.entries :=
  Mailbox.mapM_lines_joined (fun _ _ => Mailbox.fields_ne_nil _ _)
    fun row _ => Mailbox.parseUidlEntry_fields row.1 row.2.isUniqueId.isToken

end Posts

/-! ## Servers -/

/-- In the states that hold, the server offers these messages.  It answers each command
in order, and may refuse it. -/
structure Offers [AnsweringServer σ] (posts : Posts) (holds : σ → Prop) : Prop where
  uidl : ∀ server, holds server →
    holds (AnsweringServer.answer server (utf8 "UIDL".toList)).1 ∧
    ((AnsweringServer.answer server (utf8 "UIDL".toList)).2.isPositive = true →
      (AnsweringServer.answer server (utf8 "UIDL".toList)).2.body =
        posts.listing.map Line.encode)
  retr : ∀ server, holds server → ∀ messageId post, (messageId, post) ∈ posts.numbered →
    holds (AnsweringServer.answer server (utf8 (commandFor "RETR ".toList messageId))).1 ∧
    ((AnsweringServer.answer server
        (utf8 (commandFor "RETR ".toList messageId))).2.isPositive = true →
      (AnsweringServer.answer server (utf8 (commandFor "RETR ".toList messageId))).2.body =
        post.lines)

section Reading

variable [AnsweringServer σ] {posts : Posts} {holds : σ → Prop} {dialogue : Dialogue σ}

/-- The listing that is read is the listing of these messages. -/
theorem Offers.uidl_reads
    (offers : Offers posts holds)
    (held : holds dialogue.server)
    {entries : List UidlEntry}
    (reads : returned (View.partner.uidl none dialogue.view) = .ok entries) :
    entries = posts.entries ∧ ∃ after : Dialogue σ, holds after.server ∧
      finalState (View.partner.uidl none dialogue.view) = after.view := by
  obtain ⟨holds', body⟩ := offers.uidl dialogue.server held
  have harmless : (dialogue.ask "UIDL".toList).1.isPositive = true →
      (dialogue.ask "UIDL".toList).1.IsHarmless :=
    fun positive => (Answer.isClear_of_lines (body positive)).harmless
  rw [Partner.uidl] at reads ⊢
  cases run : View.partner.body "UIDL".toList dialogue.view with
  | error error after =>
      rw [bind_of_error run] at reads
      cases reads
  | ok text after =>
      obtain ⟨positive, _, same, final⟩ :=
        Dialogue.body_reads (by decide) harmless (congrArg returned run)
      have lines : (dialogue.ask "UIDL".toList).1.body = posts.listing.map Line.encode :=
        body positive
      rw [Answer.bodyText_of_lines lines] at same
      rw [run] at final
      rw [bind_of_ok run, same, posts.parseUidlMulti_listing] at reads ⊢
      exact ⟨(Except.ok.inj reads).symm, _, holds', final⟩

/-- The message that is read is the message asked for. -/
theorem Offers.retr_reads
    (offers : Offers posts holds)
    (held : holds dialogue.server)
    {messageId : UInt32}
    {post : Post}
    (member : (messageId, post) ∈ posts.numbered)
    (intact : post.IsIntact)
    {message : Message}
    (reads : returned (View.partner.retr messageId dialogue.view) = .ok message) :
    post.Spells message ∧ ∃ after : Dialogue σ, holds after.server ∧
      finalState (View.partner.retr messageId dialogue.view) = after.view := by
  obtain ⟨holds', body⟩ := offers.retr dialogue.server held messageId post member
  have lines : (dialogue.ask (commandFor "RETR ".toList messageId)).1.isPositive = true →
      (dialogue.ask (commandFor "RETR ".toList messageId)).1.body = post.lines := body
  rw [Partner.retr] at reads ⊢
  cases valid : validateMessageId messageId with
  | error error =>
      rw [valid] at reads
      cases reads
  | ok _ =>
      rw [valid, ofResult_ok_bind] at reads
      rw [ofResult_ok_bind]
      cases run : View.partner.body (commandFor "RETR ".toList messageId) dialogue.view with
      | error error after =>
          rw [bind_of_error run] at reads
          cases reads
      | ok text after =>
          obtain ⟨positive, isText, same, final⟩ :=
            Dialogue.body_reads (isMultiLine_retr messageId)
              (fun positive line inBody => intact.not_forges (lines positive ▸ inBody))
              (congrArg returned run)
          obtain ⟨texts, spells⟩ := exists_texts_of_isUtf8 isText
          have posted := spells
          rw [lines positive] at posted
          rw [Answer.bodyText_of_texts spells, intact.joined_received posted] at same
          rw [run] at final
          rw [bind_of_ok run] at reads ⊢
          cases reads
          exact ⟨⟨texts, posted, same⟩, _, holds', final⟩

end Reading

end Pop3
