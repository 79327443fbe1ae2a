import Pop3.Faults.Reading
import Pop3.Parsing.Listings
import Pop3.Probe.Reply
import Pop3.Stuffing
import Pop3.Truncation.Reading

/-!
# Pruning

Which listings `prune_seen` accepts, wherever they are cut off, and what it then
removes from the seen set.
-/

namespace Pop3

open Rust Framing Pop3Client

/-! ## The seen set in place -/

/-- The client next to the set that its caller has lent it. -/
def lentField : Field (Pop3Client σ × UidSet) (Pop3Client σ) where
  get := Prod.fst
  set client state := (client, state.2)
  get_set _ _ := rfl
  set_get _ := rfl
  set_set _ _ _ := rfl

/-- `prune_seen`, with the set where the caller holds it. -/
def pruneSeenInPlace [Server σ] : Action Pop3Error (Pop3Client σ × UidSet) (List Str) := do
  let serverEntries ← lentField.run (uidl none)
  let seen ← gets Prod.snd
  let onServer := fun uid => decide (uid ∈ serverEntries.map (·.uniqueId))
  let pruned := seen.elements.filter (!onServer ·)
  modify fun (client, seen) => (client, seen.retain onServer)
  return pruned

section InPlace

variable [Server σ] {seen : UidSet} {client after : Pop3Client σ}

theorem pruneSeenInPlace_of_error
    {error : Pop3Error}
    (fails : uidl none client = .error error after) :
    pruneSeenInPlace (client, seen) = .error error (after, seen) := by
  have runs : lentField.run (uidl none) (client, seen) = .error error (after, seen) :=
    Field.run_of_error fails
  exact bind_of_error runs

theorem pruneSeenInPlace_of_ok
    {entries : List UidlEntry}
    (lists : uidl none client = .ok entries after) :
    pruneSeenInPlace (client, seen) =
      .ok (seen.elements.filter fun uid => !decide (uid ∈ entries.map (·.uniqueId)))
        (after, seen.retain fun uid => decide (uid ∈ entries.map (·.uniqueId))) := by
  have runs : lentField.run (uidl none) (client, seen) = .ok entries (after, seen) :=
    Field.run_of_ok lists
  exact bind_of_ok runs

/-- With the set handed out instead of changed in place, pruning is the same. -/
theorem pruneSeen_eq :
    pruneSeen seen client =
      match pruneSeenInPlace (client, seen) with
      | .ok pruned (after, seen) => .ok (pruned, seen) after
      | .error error (after, _) => .error error after := by
  cases lists : uidl none client with
  | error error after =>
      rw [pruneSeenInPlace_of_error lists]
      exact bind_of_error lists
  | ok entries after =>
      rw [pruneSeenInPlace_of_ok lists]
      exact bind_of_ok lists

end InPlace

/-! ## Listings on the wire -/

/-- The line that ends a listing. -/
def IsDotLine (dot : List UInt8) : Prop := dot = [46, 13, 10] ∨ dot = [46, 10]

/-- A listing without the line that ends it: the status line that announces it and its lines,
none of which ends it. -/
structure ListingFront where
  status : Str
  lines : List Str
  entries : List UidlEntry
  noFeed : ∀ text ∈ status :: lines, '\n' ∉ text
  positive : ∃ message, parseStatusLine (status ++ ['\n']) = .ok message
  goesOn : ∀ line ∈ lines, ¬View.EndsBody line
  identified : List.Forall₂ (fun line (entry : UidlEntry) =>
    IsIdentification line entry.messageId.toNat entry.uniqueId)
      (nonEmptyLines (lines.flatMap View.content)) entries

namespace ListingFront

/-- The bytes that it is sent as. -/
def bytes (front : ListingFront) : List UInt8 := utf8 (joined (front.status :: front.lines))

/-- The unique ids that it lists. -/
def uids (front : ListingFront) : List Str := front.entries.map (·.uniqueId)

theorem parseUidlMulti_eq (front : ListingFront) :
    parseUidlMulti (front.lines.flatMap View.content) = .ok front.entries := by
  have identified := front.identified
  simp only [← parseUidlEntry_eq_ok_iff] at identified
  exact mapM_eq_ok_iff.mpr identified

end ListingFront

theorem isDotLine_of_endsBody
    {text : Str}
    (noFeed : '\n' ∉ text)
    (ends : View.EndsBody text) :
    IsDotLine (utf8 (text ++ ['\n'])) := by
  unfold View.EndsBody at ends
  by_cases returns : text.getLast? = some '\r'
  · obtain ⟨front, rfl⟩ := List.getLast?_eq_some_iff.mp returns
    rw [Transport.trimLine_return fun member => noFeed (by simp [member])] at ends
    subst ends
    exact .inl (by decide)
  · rw [Transport.trimLine_feed noFeed returns] at ends
    subst ends
    exact .inr (by decide)

/-- How a listing may end for its reader: with its last line, or with a dot at the end of
the stream. -/
def EndsListing (ending : Loss) (dot rest : List UInt8) : Prop :=
  IsDotLine dot ∨ dot = [46] ∧ rest = [] ∧ ending = .endOfFile

namespace Incoming

variable {ending : Loss} {taken bytes rest : List UInt8} {text : Str}

/-- A line is whole, or all that is left at the end of file. -/
theorem whole_or_last (starts : StartsWithLine ending bytes text rest) :
    (∃ line, text = line ++ ['\n'] ∧ '\n' ∉ line ∧ bytes = utf8 text ++ rest) ∨
      '\n' ∉ text ∧ bytes = utf8 text ∧ rest = [] ∧ ending = .endOfFile := by
  cases starts with
  | @fed front rest text noFeed isText =>
      have same := utf8_of_fromUtf8_eq_some isText
      have split : utf8 text = front ++ asciiByte '\n' :: [] := same
      obtain ⟨before, after, rfl, before_eq, after_eq⟩ :=
        exists_split_of_utf8_eq_append (by decide) split
      rw [utf8_eq_nil_iff] at after_eq
      subst after_eq
      refine .inl ⟨before, rfl, ?_, by rw [same]; simp⟩
      rw [← feed_mem_utf8, before_eq]
      exact noFeed
  | last atEnd noFeed _ isText =>
      have same := utf8_of_fromUtf8_eq_some isText
      rw [← same, feed_mem_utf8] at noFeed
      exact .inr ⟨noFeed, same.symm, rfl, atEnd⟩

/-- What the reader of a line has read. -/
theorem starts_of_readLine
    {after : Incoming}
    (reads : readLine ⟨taken, bytes, ending⟩ = .ok text after) :
    StartsWithLine ending bytes text after.bytes ∧ after.ending = ending ∧
      after.taken ++ after.bytes = taken ++ bytes := by
  rcases starts_or_fails ⟨taken, bytes, ending⟩ with ⟨other, rest, starts⟩ | ⟨_, fails, _⟩
  · obtain ⟨line, _, all, run⟩ := readLine_of_starts starts
    have same := (run taken).symm.trans reads
    injection same with sameText sameAfter
    subst sameText sameAfter
    have all' : bytes = line ++ rest := all
    exact ⟨starts, rfl, by simp [all']⟩
  · rw [reads] at fails
    cases fails

/-- A body that is read is made of whole lines, and a dot. -/
theorem lines_of_readMultilineUpTo
    {rounds : Nat}
    {body result : Str}
    {after : Incoming}
    (reads : readMultilineUpTo rounds body ⟨taken, bytes, ending⟩ = .ok result after) :
    ∃ lines dot, (∀ line ∈ lines, '\n' ∉ line ∧ ¬View.EndsBody line) ∧
      result = body ++ lines.flatMap View.content ∧
      bytes = utf8 (joined lines) ++ dot ++ after.bytes ∧
      after.taken ++ after.bytes = taken ++ bytes ∧ EndsListing ending dot after.bytes := by
  induction rounds generalizing taken bytes body with
  | zero => cases reads
  | succ rounds inductionHypothesis =>
      rw [readMultilineUpTo] at reads
      obtain ⟨text, ⟨taken', rest, ending'⟩, first, goesOn⟩ := exists_of_bind_ok reads
      obtain ⟨starts, sameEnding, all⟩ := starts_of_readLine first
      dsimp only at starts sameEnding all
      subst sameEnding
      by_cases dot : Transport.trimLine text = ".".toList
      · simp only [dot, ↓reduceIte] at goesOn
        cases goesOn
        rcases whole_or_last starts with ⟨line, rfl, noFeed, rfl⟩ | ⟨noFeed, rfl, rfl, atEnd⟩
        · exact ⟨[], _, by simp, by simp, by simp [joined], all,
            .inl (isDotLine_of_endsBody noFeed dot)⟩
        · rw [View.trimLine_of_noFeed noFeed] at dot
          subst dot
          exact ⟨[], [46], by simp, by simp, by simp [joined]; decide, all,
            .inr ⟨rfl, rfl, atEnd⟩⟩
      · simp only [dot, ↓reduceIte] at goesOn
        obtain ⟨lines, last, each, same, split, all', ends⟩ := inductionHypothesis goesOn
        rcases whole_or_last starts with ⟨line, rfl, noFeed, rfl⟩ | ⟨_, _, nothing, _⟩
        · refine ⟨line :: lines, last, ?_, ?_, ?_, all'.trans all, ends⟩
          · intro other member
            rcases List.mem_cons.mp member with rfl | member
            · exact ⟨noFeed, dot⟩
            · exact each other member
          · rw [same, List.flatMap_cons]
            simp [View.content]
          · rw [split]
            simp [joined]
        · rw [nothing] at split
          obtain ⟨noLines, _⟩ := List.append_eq_nil_iff.mp split.symm
          obtain ⟨_, noDot⟩ := List.append_eq_nil_iff.mp noLines
          subst noDot
          rcases ends with (ends | ends) | ⟨ends, _⟩ <;> cases ends

/-- A dot at the end of the stream is taken for the end of the body. -/
theorem readMultilineUpTo_of_torn
    {lines : List Str}
    (each : ∀ line ∈ lines, '\n' ∉ line ∧ ¬View.EndsBody line)
    {rounds : Nat}
    (enough : lines.length < rounds)
    (taken : List UInt8)
    (body : Str) :
    readMultilineUpTo rounds body ⟨taken, utf8 (joined lines) ++ [46], .endOfFile⟩ =
      .ok (body ++ lines.flatMap View.content)
        ⟨taken ++ (utf8 (joined lines) ++ [46]), [], .endOfFile⟩ := by
  obtain ⟨rounds, rfl⟩ := Nat.exists_eq_add_of_lt enough
  induction lines generalizing taken body with
  | nil =>
      have last : readLine ⟨taken, [46], .endOfFile⟩ =
          .ok ".".toList ⟨taken ++ [46], [], .endOfFile⟩ := by
        have noFeed : 10 ∉ ([46] : List UInt8) := by decide
        have isText : fromUtf8 [46] = some ".".toList := by decide
        rw [readLine, Transport.splitFeed_eq_none noFeed]
        exact decode_of_text isText (List.cons_ne_nil _ _) _
      have dot : Transport.trimLine ".".toList = ".".toList := by decide
      simp only [joined, List.flatMap_nil, utf8_nil, List.nil_append, List.append_nil]
      rw [readMultilineUpTo, bind_of_ok last]
      simp only [dot, ↓reduceIte]
      rfl
  | cons line lines inductionHypothesis =>
      obtain ⟨noFeed, goesOn⟩ := each line (by simp)
      have bytes : utf8 (joined (line :: lines)) ++ [46] =
          utf8 (line ++ ['\n']) ++ (utf8 (joined lines) ++ [46]) := by
        simp [joined]
      have goesOn' : Transport.trimLine (line ++ ['\n']) ≠ ".".toList := goesOn
      rw [List.length_cons, Nat.add_right_comm lines.length, readMultilineUpTo, bytes,
        bind_of_ok (readLine_of_text noFeed rfl)]
      simp only [goesOn', ↓reduceIte]
      refine (inductionHypothesis (fun other member => each other (by simp [member]))
        _ _ (by omega)).trans ?_
      simp [View.content]

end Incoming

/-! ## Reading a listing -/

section Reading

variable {transport after : Transport σ}

/-- What the transport has read, its stream has given. -/
theorem Agree.of_returned_ok
    {start : Transport σ}
    {value : α}
    {expected : EStateM.Result Pop3Error Incoming α}
    (agree : Agree start (.ok value after) expected) :
    ∃ incoming, expected = .ok value incoming ∧ Meets start after incoming := by
  rcases agree with ⟨same, meets⟩ | ⟨⟨_, fails, _⟩, _⟩
  · exact ⟨finalState expected, eq_ok_of_returned same.symm, meets⟩
  · cases fails

/-- What has been read is a status line, some lines and a dot. -/
theorem lines_of_readWhole
    (stream : transport.stream ≠ .upgrading)
    {body : Str}
    (reads : readWhole transport = .ok body after) :
    ∃ status lines dot rest, (∀ text ∈ status :: lines, '\n' ∉ text) ∧
      (∃ message, parseStatusLine (status ++ ['\n']) = .ok message) ∧
      (∀ line ∈ lines, ¬View.EndsBody line) ∧ body = lines.flatMap View.content ∧
      transport.buffer ++ transport.net.arriving.1 =
        utf8 (joined (status :: lines)) ++ dot ++ rest ∧
      consumedBytes after.net.trace = consumedBytes transport.net.trace ++
        (utf8 (joined (status :: lines)) ++ dot) ∧
      EndsListing transport.net.arriving.2 dot rest := by
  obtain ⟨line, middle, first, accepts⟩ := exists_of_bind_ok reads
  obtain ⟨message, same, parses, goesOn⟩ := exists_of_bind_ok accepts
  obtain ⟨rfl, positive⟩ := eq_of_ofResult_ok parses
  have agree := (meets_self stream).readLine
  rw [first] at agree
  obtain ⟨⟨taken, left, ending⟩, line', meets⟩ := agree.of_returned_ok
  obtain ⟨starts, sameEnding, all⟩ := Incoming.starts_of_readLine line'
  dsimp only at starts sameEnding all
  subst sameEnding
  have agree' := meets.readMultilineUpTo (same.pending.length + 1) []
  change Agree transport (Transport.readMultiline same) _ at agree'
  rw [goesOn] at agree'
  obtain ⟨⟨taken', rest, ending'⟩, body', meets'⟩ := agree'.of_returned_ok
  obtain ⟨lines, dot, each, result, split, all', ends⟩ :=
    Incoming.lines_of_readMultilineUpTo body'
  dsimp only at split all' ends
  rcases Incoming.whole_or_last starts with ⟨status, rfl, noFeed, bytes⟩ | ⟨_, _, nothing, _⟩
  swap
  · rw [nothing] at split
    obtain ⟨noLines, _⟩ := List.append_eq_nil_iff.mp split.symm
    obtain ⟨_, noDot⟩ := List.append_eq_nil_iff.mp noLines
    subst noDot
    rcases ends with (ends | ends) | ⟨ends, _⟩ <;> cases ends
  have arrived : transport.buffer ++ transport.net.arriving.1 =
      utf8 (joined (status :: lines)) ++ dot ++ rest := by
    rw [bytes, split]
    simp [joined]
  refine ⟨status, lines, dot, rest, ?_, ⟨message, positive⟩, fun line member => (each line member).2,
    result, arrived, ?_, ends⟩
  · intro text member
    rcases List.mem_cons.mp member with rfl | member
    · exact noFeed
    · exact (each text member).1
  · have whole := all'.trans all
    rw [List.nil_append, arrived] at whole
    rw [← List.append_cancel_right whole]
    exact meets'.consumed

/-- A listing that is cut off behind a dot is read all the same. -/
theorem readWhole_of_torn
    (stream : transport.stream ≠ .upgrading)
    {front : ListingFront}
    (arrives : transport.buffer ++ transport.net.arriving.1 = front.bytes ++ [46])
    (ends : transport.net.arriving.2 = .endOfFile) :
    ∃ after, readWhole transport = .ok (front.lines.flatMap View.content) after ∧
      consumedBytes after.net.trace =
        consumedBytes transport.net.trace ++ (front.bytes ++ [46]) := by
  have meets := meets_self stream
  rw [arrives, ends] at meets
  have noFeed := front.noFeed
  obtain ⟨message, positive⟩ := front.positive
  have bytes : front.bytes ++ [46] =
      utf8 (front.status ++ ['\n']) ++ (utf8 (joined front.lines) ++ [46]) := by
    simp [ListingFront.bytes, joined]
  have first : Incoming.readLine ⟨[], front.bytes ++ [46], .endOfFile⟩ = _ :=
    Incoming.readLine_of_text (noFeed front.status (by simp)) bytes
  have agree := meets.readLine
  rw [first] at agree
  obtain ⟨read, meets'⟩ := agree.of_ok
  have enough := meets'.length_lt
  have each : ∀ line ∈ front.lines, '\n' ∉ line ∧ ¬View.EndsBody line :=
    fun line member => ⟨noFeed line (by simp [member]), front.goesOn line member⟩
  have lineCount := View.length_le_joined front.lines
  have agree' := meets'.readMultilineUpTo
    ((finalState (Transport.readLine transport)).pending.length + 1) []
  rw [Incoming.readMultilineUpTo_of_torn each (by
    dsimp only at enough
    rw [List.length_append] at enough
    omega)] at agree'
  obtain ⟨reads, meets''⟩ := agree'.of_ok
  have runs : readWhole transport = _ :=
    (bind_of_ok read).trans ((bind_of_ok (congrArg (ofResult · _) positive)).trans reads)
  exact ⟨_, runs, by rw [meets''.consumed, bytes]; rfl⟩

end Reading

/-! ## Asking for the listing -/

section Listing

variable [Server σ] {client after : Pop3Client σ}

/-- An authenticated client to which nothing is owed. -/
structure AtRest (client : Pop3Client σ) : Prop where
  authenticated : client.state = .authenticated
  ready : Ready stormy client.transport
  pending : client.transport.pending = []

/-- What the server replies to `UIDL`. -/
def listingReply (client : Pop3Client σ) : List UInt8 :=
  (Server.respond client.transport.net.server (utf8 "UIDL".toList)).2.bytes

/-- `UIDL` on the transport. -/
theorem uidl_eq
    (isAuthenticated : client.state = .authenticated) :
    uidl none client =
      (do
        transportField.run (Transport.sendCommand "UIDL".toList)
        let body ← transportField.run readWhole
        ofResult (parseUidlMulti body) : ClientM σ (List UidlEntry)) client := by
  rw [uidl, requireAuth_bind isAuthenticated]
  simp only [sendAndCheck, readBody, readWhole, Field.run_bind, Field.run_ofResult, bind_assoc]

/-- What arrives behind the command is a beginning of the reply. -/
theorem arriving_begins_reply
    (atRest : AtRest client)
    {sent : Transport σ}
    (sends : Transport.sendCommand "UIDL".toList client.transport = .ok () sent) :
    sent.stream ≠ .upgrading ∧ sent.buffer ++ sent.net.arriving.1 <+: listingReply client ∧
      consumedBytes sent.net.trace = consumedBytes client.transport.net.trace := by
  have shown := atRest.ready.shows
  have shows : Shows stormy sent (client.transport.view.hear "UIDL".toList) := by
    rcases writes_command "UIDL".toList client.transport shown.stream shown.writes with
      ⟨after, run, wrote, flushed⟩ | ⟨_, error, after, run, _⟩
    · rw [Transport.sendCommand, mapError_of_ok run] at sends
      cases sends
      exact shown.wrote wrote flushed (shown.net.hear (by decide)) (View.hear_isClosed _ _)
    · rw [Transport.sendCommand, mapError_of_error run] at sends
      cases sends
  have same := (survivesWrites_consumed (consumedBytes client.transport.net.trace)).sendCommand
    "UIDL".toList client.transport rfl
  rw [sends] at same
  refine ⟨shows.stream, ?_, same⟩
  have pending : sent.pending <+: listingReply client := by
    rw [shows.pending, View.hear]
    have nothing : client.transport.view.pending = [] := atRest.pending
    split
    · dsimp only
      rw [nothing]
      exact List.prefix_rfl
    · rw [nothing]
      exact List.nil_prefix
  exact sent.arriving_begins_pending.trans pending

/-- What has been received of the reply reaches the end of this listing. -/
def ReceivedUpToDot (client after : Pop3Client σ) (front : ListingFront) : Prop :=
  ∃ taken dot,
    consumedBytes after.transport.net.trace =
      consumedBytes client.transport.net.trace ++ taken ∧
    IsDotLine dot ∧ front.bytes ++ dot <+: listingReply client ∧
      front.bytes ++ [46] <+: taken ∧ taken <+: front.bytes ++ dot

/-- Pruning is exact and atomic: a listing that is accepted has been received up to its dot,
and what it does not list is pruned; after an error the set is as it was. -/
structure PrunesExactly (seen : UidSet) (client : Pop3Client σ) : Prop where
  fails : ∀ error, returned (pruneSeenInPlace (client, seen)) = .error error →
    (finalState (pruneSeenInPlace (client, seen))).2 = seen
  prunes : ∀ pruned, returned (pruneSeenInPlace (client, seen)) = .ok pruned →
    ∃ front, ReceivedUpToDot client (finalState (pruneSeenInPlace (client, seen))).1 front ∧
      pruned.Nodup ∧ (∀ uid, uid ∈ pruned ↔ uid ∈ seen.elements ∧ uid ∉ front.uids) ∧
      ∀ uid, uid ∈ (finalState (pruneSeenInPlace (client, seen))).2.elements ↔
        uid ∈ seen.elements ∧ uid ∈ front.uids

/-- The stream ends behind a dot at the beginning of a line, and the line goes on in the
reply. -/
def CutBehindDot (client : Pop3Client σ) : Prop :=
  ∃ sent, Transport.sendCommand "UIDL".toList client.transport = .ok () sent ∧
    sent.net.arriving.2 = .endOfFile ∧
    ∃ front : ListingFront, sent.buffer ++ sent.net.arriving.1 = front.bytes ++ [46] ∧
      ∀ dot, IsDotLine dot → ¬front.bytes ++ dot <+: listingReply client

/-- A listing that is accepted is a status line, the lines that are listed and a dot. -/
theorem front_of_uidl
    (atRest : AtRest client)
    {entries : List UidlEntry}
    (lists : uidl none client = .ok entries after) :
    ∃ sent, Transport.sendCommand "UIDL".toList client.transport = .ok () sent ∧
      ∃ front : ListingFront, front.entries = entries ∧ ∃ dot rest,
        sent.buffer ++ sent.net.arriving.1 = front.bytes ++ dot ++ rest ∧
        consumedBytes after.transport.net.trace =
          consumedBytes client.transport.net.trace ++ (front.bytes ++ dot) ∧
        EndsListing sent.net.arriving.2 dot rest := by
  rw [uidl_eq atRest.authenticated] at lists
  obtain ⟨_, heard, sends, answers⟩ := exists_of_bind_ok lists
  obtain ⟨body, read, reads, parses⟩ := exists_of_bind_ok answers
  obtain ⟨rfl, parsed⟩ := eq_of_ofResult_ok parses
  obtain ⟨sent, sending, rfl⟩ := Field.eq_of_run_ok sends
  obtain ⟨last, reading, rfl⟩ := Field.eq_of_run_ok reads
  obtain ⟨stream, _, consumed⟩ := arriving_begins_reply atRest sending
  obtain ⟨status, lines, dot, rest, noFeed, positive, goesOn, rfl, arrived, taken, ends⟩ :=
    lines_of_readWhole stream reading
  have identified := mapM_eq_ok_iff.mp parsed
  simp only [parseUidlEntry_eq_ok_iff] at identified
  refine ⟨sent, sending, { status, lines, entries, noFeed, positive, goesOn, identified }, rfl,
    dot, rest, arrived, ?_, ends⟩
  rw [← consumed]
  exact taken

theorem IsDotLine.begins {dot : List UInt8} (isDot : IsDotLine dot) : [46] <+: dot := by
  rcases isDot with rfl | rfl
  · exact ⟨[13, 10], rfl⟩
  · exact ⟨[10], rfl⟩

/-- A beginning of a dot line that ends with a dot is the dot. -/
theorem IsDotLine.eq_dot
    {dot part : List UInt8}
    (isDot : IsDotLine dot)
    (begins : part <+: dot)
    (ends : part.getLast? = some 46) :
    part = [46] := by
  obtain ⟨rest, rfl⟩ := begins
  have short : part.length ≤ 3 := by
    have whole : (part ++ rest).length ≤ 3 := by rcases isDot with same | same <;> simp [same]
    rw [List.length_append] at whole
    omega
  match part, short with
  | [], _ => cases ends
  | [_], _ => simpa using ends
  | [_, second], _ =>
      obtain rfl : second = 46 := by simpa using ends
      rcases isDot with same | same <;> cases same
  | [_, _, third], _ =>
      obtain rfl : third = 46 := by simpa using ends
      rcases isDot with same | same <;> cases same

/-- A listing that is received up to its dot is the one that was read. -/
theorem eq_of_receivedUpToDot
    {front other : ListingFront}
    (consumed : consumedBytes after.transport.net.trace =
      consumedBytes client.transport.net.trace ++ (front.bytes ++ [46]))
    (received : ReceivedUpToDot client after other) :
    ∃ dot, IsDotLine dot ∧ front.bytes ++ dot <+: listingReply client := by
  obtain ⟨taken, dot, same, isDot, replied, ⟨more, reaches⟩, begins⟩ := received
  have taken_eq : taken = front.bytes ++ [46] := List.append_cancel_left (same.symm.trans consumed)
  have part : [46] ++ more = [46] := by
    refine isDot.eq_dot ?_ ?_
    · rw [← reaches, List.append_assoc] at begins
      exact (List.prefix_append_right_inj _).mp begins
    · have last : taken.getLast? = some 46 := by
        rw [taken_eq]
        simp
      rwa [← reaches, List.append_assoc, List.getLast?_append_of_ne_nil _ (by simp)] at last
  rw [List.append_assoc, part, taken_eq] at reaches
  rw [List.append_cancel_right reaches] at replied
  exact ⟨dot, isDot, replied⟩

end Listing

/-! ## A listing that is cut off -/

/-- A server that lists `a`, a line that starts with a dot, and `c`, and whose reply is cut
off behind the dot. -/
def cutListing : Pop3Client Script :=
  .idle ⟨[{ bytes := utf8 "+OK\r\n1 a\r\n..\r\n2 c\r\n.\r\n".toList }]⟩
    [.arrive 10, .drop .endOfFile] false

theorem atRest_cutListing : AtRest cutListing where
  authenticated := rfl
  ready := (inSync_idle (by simp [ReadTick.Within, stormy]) _ false).shows.ready
  pending := rfl

/-- The part of it that is received. -/
def cutFront : ListingFront where
  status := "+OK\r".toList
  lines := ["1 a\r".toList]
  entries := [⟨1, "a".toList⟩]
  noFeed := by simp
  positive := ⟨[], by decide⟩
  goesOn line member := by
    rw [List.mem_singleton] at member
    subst member
    decide
  identified := by
    have parsed : parseUidlMulti (["1 a\r".toList].flatMap View.content) =
        .ok [⟨1, "a".toList⟩] := by decide
    have identified := mapM_eq_ok_iff.mp parsed
    simp only [parseUidlEntry_eq_ok_iff] at identified
    exact identified

end Pop3
