import Pop3.Authentication
import Pop3.Batches
import Pop3.Parsed
import Pop3.Parsing.Listings

/-!
# Errors of the caller

An operation that blames its caller has not touched the connection, except
`fetch_unseen`, whose message numbers come from the server.
-/

namespace Pop3

open Rust Pop3Client

/-- The errors for which the caller is to blame. -/
def Pop3Error.isCallers : Pop3Error → Bool
  | .invalidInput | .notAuthenticated => true
  | _ => false

/-- No action blames its caller for this result. -/
def Exonerates (result : Except Pop3Error α) : Prop :=
  ∀ error, result = .error error → error.isCallers = false

/-- The action never blames its caller. -/
def Blameless (action : Action Pop3Error S α) : Prop :=
  ∀ state, Exonerates (returned (action state))

/-- If the action blames its caller, it has changed nothing. -/
def DecidedFirst (action : Action Pop3Error S α) (state : S) : Prop :=
  ∀ error, returned (action state) = .error error → error.isCallers = true →
    finalState (action state) = state

/-- If an operation that may parse blames its caller, it has changed nothing. -/
def ParsedFirst (action : Action ParsedError S α) (state : S) : Prop :=
  ∀ error, returned (action state) = .error (.pop3 error) → error.isCallers = true →
    finalState (action state) = state

/-- The action blames its caller only as long as it has changed nothing. -/
def BlamesFirst (action : Action Pop3Error S α) : Prop :=
  ∀ state, DecidedFirst action state

theorem OnlyParse.exonerates {result : Except Pop3Error α} (only : OnlyParse result) :
    Exonerates result := by
  intro error fails
  obtain ⟨message, rfl⟩ := only error fails
  rfl

namespace Blameless

theorem pure (value : α) : Blameless (Pure.pure value : Action Pop3Error S α) :=
  fun _ _ fails => nomatch fails

theorem gets (read : S → α) : Blameless (Rust.gets read : Action Pop3Error S α) :=
  fun _ _ fails => nomatch fails

theorem attempt (action : Action ε S α) :
    Blameless (Rust.attempt action : Action Pop3Error S (Except ε α)) := by
  intro state error fails
  rw [attempt_apply] at fails
  cases fails

theorem ofResult
    {result : Except Pop3Error α}
    (exonerates : Exonerates result) :
    Blameless (Rust.ofResult result : Action Pop3Error S α) := by
  intro state
  rw [returned_ofResult]
  exact exonerates

theorem bind
    {action : Action Pop3Error S α}
    {next : α → Action Pop3Error S β}
    (first : Blameless action)
    (rest : ∀ value, Blameless (next value)) :
    Blameless (action >>= next) := by
  intro state
  cases run : action state with
  | ok value middle =>
      rw [bind_of_ok run]
      exact rest value middle
  | error error middle =>
      rw [bind_of_error run]
      have exonerates := first state
      rw [run] at exonerates
      rintro _ ⟨⟩
      exact exonerates error rfl

theorem mapError
    {convert : Pop3Error → Pop3Error}
    (keeps : ∀ error, error.isCallers = false → (convert error).isCallers = false)
    {action : Action Pop3Error S α}
    (blameless : Blameless action) :
    Blameless (Rust.mapError convert action) := by
  intro state
  cases run : action state with
  | ok value middle =>
      rw [mapError_of_ok run]
      exact fun _ fails => nomatch fails
  | error error middle =>
      rw [mapError_of_error run]
      have exonerates := blameless state
      rw [run] at exonerates
      rintro _ ⟨⟩
      exact keeps error (exonerates error rfl)

theorem field
    (field : Field S T)
    {inner : Action Pop3Error T α}
    (blameless : Blameless inner) :
    Blameless (field.run inner) := by
  intro outer
  rw [Field.returned_run]
  exact blameless _

end Blameless

namespace BlamesFirst

theorem of_blameless
    {action : Action Pop3Error S α}
    (blameless : Blameless action) :
    BlamesFirst action := by
  intro state error fails callers
  rw [blameless state error fails] at callers
  cases callers

/-- What only looks at the state may come first. -/
theorem behind
    {action : Action Pop3Error S α}
    (looks : ∀ state, finalState (action state) = state)
    {next : α → Action Pop3Error S β}
    (rest : ∀ value, BlamesFirst (next value)) :
    BlamesFirst (action >>= next) := by
  intro state error fails callers
  have same := looks state
  cases run : action state with
  | ok value middle =>
      rw [run] at same
      obtain rfl : middle = state := same
      rw [bind_of_ok run] at fails ⊢
      exact rest value middle error fails callers
  | error other middle =>
      rw [run] at same
      rw [bind_of_error run]
      exact same

/-- What never blames the caller may come last. -/
theorem before
    {action : Action Pop3Error S α}
    (first : BlamesFirst action)
    {next : α → Action Pop3Error S β}
    (rest : ∀ value, Blameless (next value)) :
    BlamesFirst (action >>= next) := by
  intro state error fails callers
  cases run : action state with
  | ok value middle =>
      rw [bind_of_ok run] at fails
      rw [rest value middle error fails] at callers
      cases callers
  | error other middle =>
      rw [bind_of_error run] at fails ⊢
      cases fails
      have unchanged := first state error (congrArg returned run) callers
      rwa [run] at unchanged

end BlamesFirst

/-! ## The network is nobody's fault -/

theorem exonerates_parseStatusLine (line : Str) : Exonerates (parseStatusLine line) := by
  intro error fails
  unfold parseStatusLine at fails
  dsimp only at fails
  split at fails
  · cases fails
  · split at fails
    · cases fails
      unfold parseRespCode
      split
      · rfl
      · split
        · rfl
        · dsimp only
          split_ifs <;> rfl
    · cases fails
      rfl

theorem blameless_readLine :
    Blameless (Transport.readLine : TransportM σ Str) := by
  intro transport error fails
  unfold Transport.readLine at fails
  split at fails
  · cases fails
    rfl
  · cases fails
    rfl
  · dsimp only at fails
    split at fails
    · cases fails
      rfl
    · split at fails
      · cases fails
        rfl
      · cases fails

theorem blameless_readMultilineUpTo (rounds : Nat) (body : Str) :
    Blameless (Transport.readMultilineUpTo rounds body : TransportM σ Str) := by
  induction rounds generalizing body with
  | zero =>
      rintro transport error ⟨⟩
      rfl
  | succ rounds inductionHypothesis =>
      rw [Transport.readMultilineUpTo]
      refine .bind blameless_readLine fun line => ?_
      dsimp only
      split
      · exact .pure body
      · exact inductionHypothesis _

theorem blameless_readBody : Blameless (readBody : ClientM σ Str) :=
  .field _ (.bind (.gets _) fun _ => blameless_readMultilineUpTo _ _)

theorem blameless_upgradeInPlace (hostname : Str) :
    Blameless (Transport.upgradeInPlace hostname : TransportM σ Unit) := by
  intro transport error fails
  rcases Transport.upgradeInPlace_cases hostname transport with
    ⟨_, run, ⟨_, _, rfl⟩ | ⟨_, _, rfl⟩⟩ | ⟨_, run, _, ⟨_, rfl⟩ | ⟨_, rfl⟩⟩ | ⟨run, _⟩
  all_goals
    rw [run] at fails
    cases fails
  all_goals rfl

section Operations

variable [Server σ]

theorem blameless_sendCommand (command : Str) :
    Blameless (Transport.sendCommand command : TransportM σ Unit) := by
  intro transport error fails
  unfold Transport.sendCommand Rust.mapError at fails
  split at fails
  · cases fails
  · cases fails
    rfl

theorem blameless_sendAndCheck (command : Str) :
    Blameless (sendAndCheck command : ClientM σ Str) :=
  .bind (.field _ (blameless_sendCommand command)) fun _ =>
    .bind (.field _ blameless_readLine) fun _ => .ofResult (exonerates_parseStatusLine _)

theorem blameless_capa : Blameless (capa : ClientM σ (List Capability)) :=
  .bind (blameless_sendAndCheck _) fun _ => .bind blameless_readBody fun _ => .pure _

theorem blameless_quit : Blameless (quit : ClientM σ Unit) := by
  refine .bind (.field _ (blameless_sendCommand _)) fun _ => .bind (.field _ blameless_readLine)
    fun _ => .bind (.ofResult (exonerates_parseStatusLine _)) fun _ => ?_
  exact fun _ _ fails => nomatch fails

theorem blameless_authenticated : Blameless (authenticated : ClientM σ Unit) :=
  .bind (fun _ _ fails => nomatch fails) fun _ => .bind (.attempt _) fun _ =>
    fun _ _ fails => nomatch fails

/-- A refused login blames nobody. -/
theorem blameless_authError (command : Str) :
    Blameless (mapError authError (sendAndCheck command) : ClientM σ Str) := by
  refine .mapError ?_ (blameless_sendAndCheck command)
  intro error exonerated
  cases error with
  | invalidInput | notAuthenticated => cases exonerated
  | _ => rfl

/-! ## Operations -/

omit [Server σ] in
/-- A check comes first. -/
theorem BlamesFirst.check
    {result : Except Pop3Error α}
    {next : α → ClientM σ β}
    (rest : ∀ value, BlamesFirst (next value)) :
    BlamesFirst (ofResult result >>= next) :=
  .behind (finalState_ofResult result) rest

omit [Server σ] in
/-- The check of the session's state comes first. -/
theorem BlamesFirst.requireAuth
    {next : Unit → ClientM σ β}
    (rest : ∀ value, BlamesFirst (next value)) :
    BlamesFirst (Pop3Client.requireAuth >>= next) :=
  .behind (fun state => by
    rw [Pop3Client.requireAuth, gets_bind_apply]
    exact finalState_ofResult _ state) rest

theorem blamesFirst_stls (hostname : Str) : BlamesFirst (stls hostname : ClientM σ Unit) := by
  refine .behind (fun _ => rfl) fun _ => .check fun _ => .behind (fun _ => rfl) fun _ =>
    .check fun _ => ?_
  exact .of_blameless (.bind (blameless_sendAndCheck _) fun _ =>
    .field _ (blameless_upgradeInPlace hostname))

theorem blamesFirst_login (username password : Str) :
    BlamesFirst (login username password : ClientM σ Unit) := by
  refine .behind (fun _ => rfl) fun _ => .check fun _ => .check fun _ => .check fun _ => ?_
  exact .of_blameless (.bind (blameless_authError _) fun _ =>
    .bind (blameless_authError _) fun _ => blameless_authenticated)

theorem blamesFirst_apop [Md5] (username password : Str) :
    BlamesFirst (apop username password : ClientM σ Unit) := by
  refine .behind (fun _ => rfl) fun _ => .check fun _ => .check fun _ => .check fun _ =>
    .behind (fun _ => rfl) fun _ => .check fun _ => ?_
  exact .of_blameless (.bind (blameless_authError _) fun _ => blameless_authenticated)

theorem blamesFirst_stat : BlamesFirst (stat : ClientM σ Stat) :=
  .requireAuth fun _ => .of_blameless (.bind (blameless_sendAndCheck _) fun text =>
    .ofResult (onlyParse_parseStat text).exonerates)

theorem blamesFirst_list (messageId : Option UInt32) :
    BlamesFirst (list messageId : ClientM σ (List ListEntry)) := by
  refine .requireAuth fun _ => ?_
  cases messageId with
  | some messageId =>
      exact .check fun _ => .of_blameless (.bind (blameless_sendAndCheck _) fun text =>
        .bind (.ofResult (onlyParse_parseListEntry text).exonerates) fun _ => .pure _)
  | none =>
      exact .of_blameless (.bind (blameless_sendAndCheck _) fun _ =>
        .bind blameless_readBody fun _ =>
          .ofResult (OnlyParse.mapM onlyParse_parseListEntry _).exonerates)

theorem blamesFirst_uidl (messageId : Option UInt32) :
    BlamesFirst (uidl messageId : ClientM σ (List UidlEntry)) := by
  refine .requireAuth fun _ => ?_
  cases messageId with
  | some messageId =>
      exact .check fun _ => .of_blameless (.bind (blameless_sendAndCheck _) fun text =>
        .bind (.ofResult (onlyParse_parseUidlEntry text).exonerates) fun _ => .pure _)
  | none =>
      exact .of_blameless (.bind (blameless_sendAndCheck _) fun _ =>
        .bind blameless_readBody fun _ =>
          .ofResult (OnlyParse.mapM onlyParse_parseUidlEntry _).exonerates)

theorem blamesFirst_retr (messageId : UInt32) :
    BlamesFirst (retr messageId : ClientM σ Message) :=
  .requireAuth fun _ => .check fun _ => .of_blameless (.bind (blameless_sendAndCheck _) fun _ =>
    .bind blameless_readBody fun _ => .pure _)

theorem blamesFirst_top (messageId lines : UInt32) :
    BlamesFirst (top messageId lines : ClientM σ Message) :=
  .requireAuth fun _ => .check fun _ => .of_blameless (.bind (blameless_sendAndCheck _) fun _ =>
    .bind blameless_readBody fun _ => .pure _)

theorem blamesFirst_dele (messageId : UInt32) :
    BlamesFirst (dele messageId : ClientM σ Unit) :=
  .requireAuth fun _ => .check fun _ => .of_blameless (.bind (blameless_sendAndCheck _) fun _ =>
    .pure _)

theorem blamesFirst_rset : BlamesFirst (rset : ClientM σ Unit) :=
  .requireAuth fun _ => .of_blameless (.bind (blameless_sendAndCheck _) fun _ => .pure _)

theorem blamesFirst_noop : BlamesFirst (noop : ClientM σ Unit) :=
  .requireAuth fun _ => .of_blameless (.bind (blameless_sendAndCheck _) fun _ => .pure _)

omit [Server σ] in
/-- A batch checks its ids first; the rest of it does not fail. -/
theorem blamesFirst_many
    {sequential inPipeline : List UInt32 → ClientM σ (Items α)}
    (first : ∀ ids state, ∃ items, returned (sequential ids state) = .ok items)
    (second : ∀ ids state, ∃ items, returned (inPipeline ids state) = .ok items)
    (ids : List UInt32) :
    BlamesFirst (many sequential inPipeline ids) := by
  have fine : ∀ {action : ClientM σ (Items α)},
      (∀ state, ∃ items, returned (action state) = .ok items) → Blameless action := by
    intro action isOk state error fails
    obtain ⟨items, succeeds⟩ := isOk state
    rw [succeeds] at fails
    cases fails
  refine .requireAuth fun _ => .check fun _ => .of_blameless ?_
  split
  · exact .pure []
  · refine .bind (.gets _) fun isPipelining => ?_
    split
    · exact fine (second ids)
    · exact fine (first ids)

theorem blamesFirst_unseenUids (seen : UidSet) :
    BlamesFirst (unseenUids seen : ClientM σ (List UidlEntry)) :=
  (blamesFirst_uidl none).before fun _ => .pure _

theorem blamesFirst_pruneSeen (seen : UidSet) :
    BlamesFirst (pruneSeen seen : ClientM σ (List Str × UidSet)) :=
  (blamesFirst_uidl none).before fun _ => .pure _

/-- Every operation blames first, except `fetch_unseen`. -/
theorem Call.blamesFirst_run [Md5]
    (call : Call)
    (other : ∀ seen, call ≠ .fetchUnseen seen) :
    BlamesFirst (call.run : ClientM σ Value) := by
  cases call with
  | stls hostname => exact (blamesFirst_stls hostname).before fun _ => .pure _
  | login username password => exact (blamesFirst_login username password).before fun _ => .pure _
  | apop username password => exact (blamesFirst_apop username password).before fun _ => .pure _
  | capa => exact (BlamesFirst.of_blameless blameless_capa).before fun _ => .pure _
  | stat => exact blamesFirst_stat.before fun _ => .pure _
  | list messageId => exact (blamesFirst_list messageId).before fun _ => .pure _
  | uidl messageId => exact (blamesFirst_uidl messageId).before fun _ => .pure _
  | retr messageId => exact (blamesFirst_retr messageId).before fun _ => .pure _
  | top messageId lines => exact (blamesFirst_top messageId lines).before fun _ => .pure _
  | dele messageId => exact (blamesFirst_dele messageId).before fun _ => .pure _
  | rset => exact blamesFirst_rset.before fun _ => .pure _
  | noop => exact blamesFirst_noop.before fun _ => .pure _
  | retrMany ids =>
      exact (blamesFirst_many (sequentially_isOk _) (fun _ => pipelined_isOk _ _ _) ids).before
        fun _ => .pure _
  | deleMany ids =>
      exact (blamesFirst_many (sequentially_isOk _) (fun _ => pipelined_isOk _ _ _) ids).before
        fun _ => .pure _
  | unseenUids seen => exact (blamesFirst_unseenUids seen).before fun _ => .pure _
  | pruneSeen seen => exact (blamesFirst_pruneSeen seen).before fun _ => .pure _
  | fetchUnseen seen => exact absurd rfl (other seen)

/-! ## What has been heard -/

/-- More has been observed than so many events. -/
abbrev Beyond (count : Nat) : Transport σ → Prop :=
  Observed (fun _ _ => True) fun trace => count < trace.length

theorem lasting_beyond (count : Nat) :
    Lasting (fun _ _ => True) fun trace => count < trace.length := by
  intro trace event _ more
  rw [List.length_append]
  exact Nat.lt_add_right _ more

/-- Whoever has been answered has been heard. -/
theorem beyond_of_sendAndCheck
    {command text : Str}
    {client after : Pop3Client σ}
    (answers : sendAndCheck command client = .ok text after) :
    Beyond client.transport.net.trace.length after.transport := by
  obtain ⟨_, sent, sends, answers⟩ := exists_of_bind_ok answers
  obtain ⟨line, read, reads, answers⟩ := exists_of_bind_ok answers
  obtain ⟨rfl, _⟩ := eq_of_ofResult_ok answers
  have grows : Lasting (fun _ _ => True) fun trace => client.transport.net.trace <+: trace :=
    lasting_begins _
  have begun := (grows.steps.send command client.transport ⟨trivial, List.prefix_rfl⟩).trace
  obtain ⟨middle, sending, rfl⟩ := Field.eq_of_run_ok sends
  obtain ⟨waited, reading, rfl⟩ := Field.eq_of_run_ok reads
  obtain ⟨bytes, heard⟩ := Transport.trace_of_readLine reading
  have same : finalState (Transport.sendCommand command client.transport) = middle :=
    congrArg finalState sending
  rw [same] at begun
  refine ⟨trivial, ?_⟩
  change _ < waited.net.trace.length
  rw [heard, List.length_append]
  exact Nat.lt_succ_of_le begun.length_le

omit [Server σ] in
/-- The check of the session's state passes in the authenticated state. -/
theorem eq_of_requireAuth_ok
    {client after : Pop3Client σ}
    (passes : requireAuth client = .ok () after) :
    after = client ∧ client.state = .authenticated := by
  rw [requireAuth, gets_bind_apply] at passes
  obtain ⟨same, checked⟩ := eq_of_ofResult_ok passes
  refine ⟨same, ?_⟩
  by_contra unauthenticated
  rw [if_pos unauthenticated] at checked
  cases checked

/-- Whoever has got the listing is authenticated, and has been heard. -/
theorem beyond_of_unseenUids
    {seen : UidSet}
    {entries : List UidlEntry}
    {client after : Pop3Client σ}
    (lists : unseenUids seen client = .ok entries after) :
    Beyond client.transport.net.trace.length after.transport ∧ after.state = .authenticated := by
  have state := Program.state (program_unseenUids seen) client
  rw [lists] at state
  obtain ⟨all, listed, uids, rest⟩ := exists_of_bind_ok lists
  injection rest with _ same
  subst same
  obtain ⟨_, checked, passes, asks⟩ := exists_of_bind_ok uids
  obtain ⟨unchanged, isAuthenticated⟩ := eq_of_requireAuth_ok passes
  rw [unchanged] at asks
  obtain ⟨text, answered, answers, takes⟩ := exists_of_bind_ok asks
  obtain ⟨body, read, reads, parses⟩ := exists_of_bind_ok takes
  rw [(eq_of_ofResult_ok parses).1] at state ⊢
  have heard := program_readBody.preserves (lasting_beyond _).steps answered
    (beyond_of_sendAndCheck answers)
  rw [reads] at heard
  exact ⟨heard, state.trans isAuthenticated⟩

/-! ## Message 0 -/

/-- The caller is blamed for what the action does. -/
def Blames (result : Except Pop3Error α) : Prop :=
  ∃ error, result = .error error ∧ error.isCallers = true

omit [Server σ] in
theorem blames_map (wrap : α → β) (result : Except Pop3Error α) :
    Blames (result.map wrap) ↔ Blames result := by
  cases result with
  | ok value =>
      exact iff_of_false (fun ⟨_, same, _⟩ => nomatch same) fun ⟨_, same, _⟩ => nomatch same
  | error error =>
      constructor
      · rintro ⟨_, ⟨⟩, callers⟩
        exact ⟨error, rfl, callers⟩
      · rintro ⟨_, ⟨⟩, callers⟩
        exact ⟨error, rfl, callers⟩

theorem retr_zero
    {client : Pop3Client σ}
    (isAuthenticated : client.state = .authenticated) :
    retr 0 client = .error .invalidInput client := by
  rw [retr, requireAuth_bind isAuthenticated]
  rfl

theorem exonerates_retr
    {client : Pop3Client σ}
    (isAuthenticated : client.state = .authenticated)
    {messageId : UInt32}
    (nonZero : messageId ≠ 0) :
    Exonerates (returned (retr messageId client)) := by
  rw [retr, requireAuth_bind isAuthenticated, validateMessageId, if_neg nonZero, ofResult_ok_bind]
  have blameless : Blameless (do
      let _ ← sendAndCheck (commandFor "RETR ".toList messageId)
      let data ← readBody
      return { data } : ClientM σ Message) :=
    .bind (blameless_sendAndCheck _) fun _ => .bind blameless_readBody fun _ => .pure _
  exact blameless client

/-- The caller is blamed for a message 0 that is reached. -/
theorem blames_fetchEach_iff
    {entries : List UidlEntry}
    {client : Pop3Client σ}
    (isAuthenticated : client.state = .authenticated) :
    Blames (returned (fetchEach entries client)) ↔
      ∃ before entry after fetched, entries = before ++ entry :: after ∧ entry.messageId = 0 ∧
        returned (fetchEach before client) = .ok fetched := by
  induction entries generalizing client with
  | nil =>
      refine iff_of_false ?_ ?_
      · rintro ⟨error, fails, _⟩
        cases fails
      · rintro ⟨before, entry, after, _, split, _⟩
        cases before <;> cases split
  | cons entry entries inductionHypothesis =>
      by_cases zero : entry.messageId = 0
      · refine iff_of_true ⟨.invalidInput, ?_, rfl⟩ ⟨[], entry, entries, [], rfl, zero, rfl⟩
        rw [fetchEach, zero, bind_of_error (retr_zero isAuthenticated)]
        rfl
      have exonerates := exonerates_retr isAuthenticated zero
      have state := Program.state (program_retr entry.messageId) client
      cases run : retr entry.messageId client with
      | error error middle =>
          rw [run] at exonerates
          have fails : ∀ more, returned (fetchEach (entry :: more) client) = .error error := by
            intro more
            rw [fetchEach, bind_of_error run]
            rfl
          refine iff_of_false ?_ ?_
          · rintro ⟨other, same, callers⟩
            rw [fails] at same
            cases same
            rw [exonerates error rfl] at callers
            cases callers
          · rintro ⟨before, other, after, fetched, split, otherZero, fetches⟩
            cases before with
            | nil =>
                injection split with same
                exact zero (same ▸ otherZero)
            | cons first before =>
                injection split with same
                rw [← same, fails] at fetches
                cases fetches
      | ok message middle =>
          rw [run] at state
          have goesOn : ∀ more, returned (fetchEach (entry :: more) client) =
              (returned (fetchEach more middle)).map ((entry, message) :: ·) := by
            intro more
            rw [fetchEach, bind_of_ok run]
            exact returned_bind_pure _ _ _
          rw [goesOn, blames_map]
          refine (inductionHypothesis (state.trans isAuthenticated)).trans ?_
          constructor
          · rintro ⟨before, other, after, fetched, rfl, otherZero, fetches⟩
            refine ⟨entry :: before, other, after, (entry, message) :: fetched, rfl, otherZero, ?_⟩
            rw [finalState_ok] at fetches
            rw [goesOn, fetches]
            rfl
          · rintro ⟨before, other, after, fetched, split, otherZero, fetches⟩
            cases before with
            | nil =>
                injection split with same
                exact absurd (same ▸ otherZero) zero
            | cons first before =>
                injection split with same rest
                rw [← same, goesOn] at fetches
                cases fetched' : returned (fetchEach before middle) with
                | error error =>
                    rw [fetched'] at fetches
                    cases fetches
                | ok values => exact ⟨before, other, after, values, rest, otherZero, fetched'⟩

/-- The listing gives a new message the number 0, and whatever is new before it can be
retrieved. -/
def MeetsZero (seen : UidSet) (client : Pop3Client σ) : Prop :=
  ∃ before entry after fetched,
    returned (unseenUids seen client) = .ok (before ++ entry :: after) ∧ entry.messageId = 0 ∧
      returned (fetchEach before (finalState (unseenUids seen client))) = .ok fetched

theorem decidedFirst_fetchUnseen_iff (seen : UidSet) (client : Pop3Client σ) :
    DecidedFirst (fetchUnseen seen) client ↔ ¬MeetsZero seen client := by
  cases lists : unseenUids seen client with
  | error error middle =>
      have first := (blamesFirst_unseenUids seen) client
      have same : fetchUnseen seen client = .error error middle := bind_of_error lists
      rw [DecidedFirst, lists] at first
      rw [DecidedFirst, same]
      refine iff_of_true (fun other fails => first other (by simpa using fails)) ?_
      rintro ⟨_, _, _, _, listed, _⟩
      rw [lists] at listed
      cases listed
  | ok entries middle =>
      have same : fetchUnseen seen client = fetchEach entries middle := bind_of_ok lists
      obtain ⟨heard, isAuthenticated⟩ := beyond_of_unseenUids lists
      have stillHeard := (program_fetchEach entries).preserves
        (lasting_beyond client.transport.net.trace.length).steps middle heard
      have changed : finalState (fetchEach entries middle) ≠ client := by
        intro unchanged
        rw [unchanged] at stillHeard
        exact Nat.lt_irrefl _ stillHeard.trace
      have meets : MeetsZero seen client ↔ Blames (returned (fetchEach entries middle)) := by
        rw [blames_fetchEach_iff isAuthenticated, MeetsZero, lists]
        simp only [returned_ok, finalState_ok, Except.ok.injEq]
      rw [meets, DecidedFirst, same]
      constructor
      · rintro first ⟨error, fails, callers⟩
        exact changed (first error fails callers)
      · intro noBlame error fails callers
        exact absurd ⟨error, fails, callers⟩ noBlame

theorem Call.decidedFirst_run_iff [Md5] (call : Call) (client : Pop3Client σ) :
    DecidedFirst call.run client ↔
      ∀ seen, call = .fetchUnseen seen → ¬MeetsZero seen client := by
  by_cases fetches : ∃ seen, call = .fetchUnseen seen
  swap
  · rw [not_exists] at fetches
    exact iff_of_true (Call.blamesFirst_run call fetches client)
      fun seen same => absurd same (fetches seen)
  obtain ⟨seen, rfl⟩ := fetches
  have wrapped : DecidedFirst (Call.run (.fetchUnseen seen)) client ↔
      DecidedFirst (Pop3Client.fetchUnseen seen) client := by
    unfold DecidedFirst Call.run
    rw [finalState_bind_pure, returned_bind_pure]
    cases returned (Pop3Client.fetchUnseen seen client) with
    | ok value => exact iff_of_true (fun _ same => nomatch same) fun _ same => nomatch same
    | error error => simp [Except.map]
  rw [wrapped, decidedFirst_fetchUnseen_iff]
  constructor
  · rintro spared other ⟨⟩
    exact spared
  · exact fun spared => spared seen rfl

/-- The only operation that blames its caller when it has talked to the server is
`fetch_unseen`, when the server has numbered a message 0. -/
theorem decidedFirst_iff [Md5] (client : Pop3Client σ) :
    (∀ call : Call, DecidedFirst call.run client ↔
      ∀ seen, call = .fetchUnseen seen → ¬MeetsZero seen client) ∧
    (∀ (parser : MessageParser μ) (call : ParsedCall), ParsedFirst (call.run parser) client ↔
      ∀ seen, call = .plain (.fetchUnseen seen) → ¬MeetsZero seen client) ∧
    DecidedFirst quit client := by
  refine ⟨fun call => call.decidedFirst_run_iff client, fun parser call => ?_,
    BlamesFirst.of_blameless blameless_quit client⟩
  have asRequested : ParsedFirst (call.run parser) client ↔
      DecidedFirst call.request.run client := by
    unfold ParsedFirst DecidedFirst
    simp only [call.finalState_run, call.returned_run_iff]
  rw [asRequested, call.request.decidedFirst_run_iff]
  cases call with
  | plain call => simp only [ParsedCall.request, ParsedCall.plain.injEq]
  | retrParsed messageId => simp [ParsedCall.request]
  | topParsed messageId lines => simp [ParsedCall.request]

end Operations

/-- A server that numbers its only message 0. -/
def fromZero : Pop3Client Script :=
  .idle ⟨[{ bytes := utf8 "+OK\r\n0 a\r\n.\r\n".toList }]⟩ [] false

/-- The caller is blamed for the number, which the server has sent. -/
theorem exists_blamed_after_listing :
    ¬∀ (client : Pop3Client Script) (call : Call),
      DecidedFirst (@Call.run _ _ emptyDigest call) client := by
  intro always
  have blamed : returned (@Call.run _ _ emptyDigest (.fetchUnseen ⟨[], .nil⟩) fromZero) =
      .error .invalidInput := by
    decide +kernel
  have heard : (finalState (@Call.run _ _ emptyDigest (.fetchUnseen ⟨[], .nil⟩)
      fromZero)).transport.net.trace ≠ fromZero.transport.net.trace := by
    decide +kernel
  have unchanged := always fromZero (.fetchUnseen ⟨[], .nil⟩) .invalidInput blamed rfl
  exact heard (by rw [unchanged])

end Pop3
