import Pop3.Batches
import Pop3.Faults.Reading
import Pop3.Parsing.Listings
import Pop3.Reconnecting.Economy
import Pop3.Rust.Promise
import Pop3.Truncation.Reading

/-!
# What calls return

A server may send anything, at any time and in any pieces, and a connection may be lost at
any point.  Whatever a call returns is well-formed all the same.
-/

namespace Pop3

open Rust Framing Pop3Client Transport

/-! ## Well-formed values -/

/-- The text consists of lines without a line feed of their own, each ended by one. -/
def IsLined (text : Str) : Prop :=
  ∃ lines : List Str, (∀ line ∈ lines, '\n' ∉ line) ∧ text = joined lines

/-- The name of a capability and its arguments are single words. -/
def Capability.IsWorded (capability : Capability) : Prop :=
  ∀ word ∈ capability.name :: capability.arguments, IsToken word

/-- What a call promises of its value. -/
def Call.promise : Call → Value → Prop
  | .stls _ | .login _ _ | .apop _ _ | .rset | .noop => fun value => value = .done
  | .capa => fun value => ∃ capabilities, value = .capabilities capabilities ∧
      ∀ capability ∈ capabilities, capability.IsWorded
  | .stat => fun value => ∃ stat, value = .stat stat
  | .list none => fun value => ∃ entries, value = .listing entries
  | .list (some messageId) => fun value => messageId ≠ 0 ∧ ∃ entry, value = .listing [entry]
  | .uidl none => fun value => ∃ entries, value = .uids entries ∧
      ∀ entry ∈ entries, IsToken entry.uniqueId
  | .uidl (some messageId) => fun value => messageId ≠ 0 ∧ ∃ entry, value = .uids [entry] ∧
      IsToken entry.uniqueId
  | .retr messageId | .top messageId _ => fun value => messageId ≠ 0 ∧
      ∃ message, value = .message message ∧ IsLined message.data
  | .dele messageId => fun value => messageId ≠ 0 ∧ value = .done
  | .retrMany ids => fun value => 0 ∉ ids ∧ ∃ items, value = .messages items ∧
      items.length = ids.length ∧ ∀ message, .ok message ∈ items → IsLined message.data
  | .deleMany ids => fun value => 0 ∉ ids ∧ ∃ items, value = .deletions items ∧
      items.length = ids.length
  | .unseenUids seen => fun value => ∃ entries, value = .uids entries ∧
      ∀ entry ∈ entries, IsToken entry.uniqueId ∧ entry.uniqueId ∉ seen.elements
  | .fetchUnseen seen => fun value => ∃ messages, value = .fetched messages ∧
      ∀ fetched ∈ messages, IsToken fetched.1.uniqueId ∧ fetched.1.uniqueId ∉ seen.elements ∧
        fetched.1.messageId ≠ 0 ∧ IsLined fetched.2.data
  | .pruneSeen seen => fun value => ∃ uids kept, value = .pruned uids kept ∧
      (uids ++ kept.elements).Perm seen.elements

/-! ## Lines -/

/-- At most the end of a line is a line feed. -/
def IsLine (line : Str) : Prop :=
  '\n' ∉ line ∨ ∃ front, '\n' ∉ front ∧ line = front ++ ['\n']

theorem promises_readLine : Promises IsLine (readLine : TransportM σ Str) := by
  intro transport line read
  unfold readLine at read
  cases wait : readUntil transport with
  | mk found after =>
      rw [wait] at read
      cases found with
      | timedOut | failed => cases read
      | line bytes =>
          dsimp only at read
          cases decoded : fromUtf8 bytes with
          | none =>
              rw [decoded] at read
              cases read
          | some text =>
              rw [decoded] at read
              dsimp only at read
              have same : utf8 text = bytes := utf8_of_fromUtf8_eq_some decoded
              obtain rfl : text = line := by
                split at read
                · cases read
                · exact Except.ok.inj read
              rcases readUntil_line wait with ⟨_, _, _, _, fed⟩ | noFeed
              · obtain ⟨front, noFeed, ends, _⟩ := splitFeed_eq_some fed
                have newline : ('\n' : Char).val ≤ 127 := by decide
                have split : utf8 text = front ++ asciiByte '\n' :: [] := same.trans ends
                obtain ⟨before, after, rfl, before_eq, after_eq⟩ :=
                  exists_split_of_utf8_eq_append newline split
                rw [utf8_eq_nil_iff] at after_eq
                subst after_eq
                refine .inr ⟨before, fun member => noFeed ?_, rfl⟩
                rw [← before_eq]
                exact (feed_mem_utf8 before).mpr member
              · refine .inl fun member => noFeed ?_
                rw [← same]
                exact (feed_mem_utf8 text).mpr member

theorem noFeed_trimLine {line : Str} (isLine : IsLine line) : '\n' ∉ trimLine line := by
  rcases isLine with noFeed | ⟨front, noFeed, rfl⟩
  · rwa [View.trimLine_of_noFeed noFeed]
  · by_cases returns : front.getLast? = some '\r'
    · obtain ⟨text, rfl⟩ := List.getLast?_eq_some_iff.mp returns
      have shorter : '\n' ∉ text := fun member => noFeed (List.mem_append_left _ member)
      rwa [trimLine_return shorter]
    · rwa [trimLine_feed noFeed returns]

theorem noFeed_unstuff {trimmed : Str} (noFeed : '\n' ∉ trimmed) : '\n' ∉ unstuff trimmed := by
  unfold unstuff
  cases stuffed : stripPrefix "..".toList trimmed with
  | none => exact noFeed
  | some rest =>
      have same := eq_of_stripPrefix stuffed
      rw [same] at noFeed
      simp only [List.mem_append, not_or] at noFeed
      dsimp only
      rw [List.mem_append, not_or]
      exact ⟨by decide, noFeed.2⟩

theorem IsLined.snoc {text line : Str} (isLined : IsLined text) (noFeed : '\n' ∉ line) :
    IsLined (text ++ line ++ "\n".toList) := by
  obtain ⟨lines, noFeeds, rfl⟩ := isLined
  refine ⟨lines ++ [line], fun other member => ?_, ?_⟩
  · rcases List.mem_append.mp member with member | member
    · exact noFeeds other member
    · rwa [List.mem_singleton.mp member]
  · simp [joined]

theorem promises_readMultiline : Promises IsLined (readMultiline : TransportM σ Str) := by
  have upTo : ∀ rounds body, IsLined body →
      Promises IsLined (readMultilineUpTo rounds body : TransportM σ Str) := by
    intro rounds
    induction rounds with
    | zero => exact fun _ _ => .throw _
    | succ rounds inductionHypothesis =>
        intro body isLined
        refine promises_readLine.bind fun line isLine => ?_
        dsimp only
        split
        · exact .pure isLined
        · exact inductionHypothesis _ (isLined.snoc (noFeed_unstuff (noFeed_trimLine isLine)))
  exact .behind fun _ => upTo _ [] ⟨[], by simp, rfl⟩

theorem promises_readBody : Promises IsLined (readBody : ClientM σ Str) :=
  promises_readMultiline.field transportField

/-! ## Entries -/

theorem isToken_of_parseUidlEntry
    {line : Str}
    {entry : UidlEntry}
    (parsed : parseUidlEntry line = .ok entry) :
    IsToken entry.uniqueId := by
  obtain ⟨idStr, spells, _⟩ := parseUidlEntry_eq_ok_iff.mp parsed
  exact spells.isToken _ (by simp)

/-- What is on the right of related lists is related to something. -/
theorem exists_of_mem_right
    {related : α → β → Prop}
    {left : List α}
    {right : List β}
    (all : List.Forall₂ related left right)
    {item : β}
    (member : item ∈ right) :
    ∃ other, related other item := by
  induction all with
  | nil => cases member
  | @cons other _ _ _ first _ inductionHypothesis =>
      rcases List.mem_cons.mp member with rfl | member
      · exact ⟨other, first⟩
      · exact inductionHypothesis member

theorem isToken_of_parseUidlMulti
    {body : Str}
    {entries : List UidlEntry}
    (parsed : parseUidlMulti body = .ok entries) :
    ∀ entry ∈ entries, IsToken entry.uniqueId := by
  intro entry member
  obtain ⟨line, one⟩ := exists_of_mem_right (mapM_eq_ok_iff.mp parsed) member
  exact isToken_of_parseUidlEntry one

theorem isWorded_of_parseCapa (body : Str) :
    ∀ capability ∈ parseCapa body, capability.IsWorded := by
  intro capability member
  obtain ⟨line, _, spells⟩ := exists_of_mem_right (parseCapa_capabilities body) member
  exact spells.isToken

/-! ## Operations -/

section Operations

variable [Server σ]

theorem promises_capa :
    Promises (fun capabilities => ∀ capability ∈ capabilities, capability.IsWorded)
      (capa : ClientM σ (List Capability)) :=
  .behind fun _ => .behind fun body => .pure (isWorded_of_parseCapa body)

omit [Server σ] in
/-- Only valid message numbers pass. -/
theorem promises_validated
    {promise : α → Prop}
    {messageId : UInt32}
    {next : ClientM σ α}
    (rest : messageId ≠ 0 → Promises promise next) :
    Promises promise (do
      ofResult (validateMessageId messageId)
      next) := by
  refine .ofResult_bind fun _ valid => rest ?_
  rintro rfl
  cases valid

theorem promises_uidl_none :
    Promises (fun entries => ∀ entry ∈ entries, IsToken entry.uniqueId)
      (uidl none : ClientM σ (List UidlEntry)) :=
  .behind fun _ => .behind fun _ => .behind fun _ =>
    .ofResult fun _ parsed => isToken_of_parseUidlMulti parsed

theorem promises_uidl_some (messageId : UInt32) :
    Promises (fun entries => messageId ≠ 0 ∧ ∃ entry, entries = [entry] ∧
        IsToken entry.uniqueId)
      (uidl (some messageId) : ClientM σ (List UidlEntry)) :=
  .behind fun _ => promises_validated fun valid => .behind fun _ =>
    .ofResult_bind fun entry parsed =>
      .pure ⟨valid, entry, rfl, isToken_of_parseUidlEntry parsed⟩

theorem promises_list_some (messageId : UInt32) :
    Promises (fun entries => messageId ≠ 0 ∧ ∃ entry, entries = [entry])
      (list (some messageId) : ClientM σ (List ListEntry)) :=
  .behind fun _ => promises_validated fun valid => .behind fun _ =>
    .behind fun entry => .pure ⟨valid, entry, rfl⟩

theorem promises_retr (messageId : UInt32) :
    Promises (fun message => messageId ≠ 0 ∧ IsLined message.data)
      (retr messageId : ClientM σ Message) :=
  .behind fun _ => promises_validated fun valid => .behind fun _ =>
    promises_readBody.bind fun _ isLined => .pure ⟨valid, isLined⟩

theorem promises_top (messageId lines : UInt32) :
    Promises (fun message => messageId ≠ 0 ∧ IsLined message.data)
      (top messageId lines : ClientM σ Message) :=
  .behind fun _ => promises_validated fun valid => .behind fun _ =>
    promises_readBody.bind fun _ isLined => .pure ⟨valid, isLined⟩

theorem promises_dele (messageId : UInt32) :
    Promises (fun _ => messageId ≠ 0) (dele messageId : ClientM σ Unit) :=
  .behind fun _ => promises_validated fun valid => .behind fun _ => .pure valid

omit [Server σ] in
theorem promises_readRetrResponse :
    Promises (fun message => IsLined message.data) (readRetrResponse : ClientM σ Message) :=
  .behind fun _ => .behind fun _ => promises_readBody.bind fun _ isLined => .pure isLined

/-! ## Batches -/

/-- There is an item for each message, and those that succeed meet the condition. -/
def Itemized (promise : α → Prop) (count : Nat) (items : Items α) : Prop :=
  items.length = count ∧ ∀ value, .ok value ∈ items → promise value

omit [Server σ] in
theorem itemized_nil (promise : α → Prop) : Itemized promise 0 [] :=
  ⟨rfl, fun _ member => absurd member List.not_mem_nil⟩

omit [Server σ] in
theorem Itemized.cons
    {promise : α → Prop}
    {count : Nat}
    {items : Items α}
    (itemized : Itemized promise count items)
    {item : Except Pop3Error α}
    (meets : ∀ value, item = .ok value → promise value) :
    Itemized promise (count + 1) (item :: items) := by
  refine ⟨congrArg Nat.succ itemized.1, fun value member => ?_⟩
  rcases List.mem_cons.mp member with same | member
  · exact meets value same.symm
  · exact itemized.2 value member

omit [Server σ] in
theorem Itemized.append
    {promise : α → Prop}
    {count more : Nat}
    {items others : Items α}
    (itemized : Itemized promise count items)
    (followed : Itemized promise more others) :
    Itemized promise (count + more) (items ++ others) := by
  refine ⟨?_, fun value member => ?_⟩
  · rw [List.length_append, itemized.1, followed.1]
  · exact (List.mem_append.mp member).elim (itemized.2 value) (followed.2 value)

omit [Server σ] in
theorem itemized_fillUp (promise : α → Prop) (missing : Nat) (error : Pop3Error) :
    Itemized promise missing (fillUp missing error) := by
  refine ⟨List.length_replicate, fun value member => ?_⟩
  cases List.eq_of_mem_replicate member

omit [Server σ] in
theorem promises_sequentially
    {promise : α → Prop}
    {operation : UInt32 → ClientM σ α}
    (promises : ∀ messageId, Promises promise (operation messageId))
    (ids : List UInt32) :
    Promises (Itemized promise ids.length) (sequentially operation ids) := by
  induction ids with
  | nil => exact .pure (itemized_nil promise)
  | cons messageId ids inductionHypothesis =>
      exact (promises messageId).attempt.bind fun _ meets =>
        inductionHypothesis.bind fun _ itemized => .pure (itemized.cons meets)

omit [Server σ] in
/-- The receive phase of a window has an item for each command, unless it is stopped. -/
theorem promises_drainWindow
    {promise : α → Prop}
    {receive : ClientM σ α}
    (promises : Promises promise receive)
    (window : List UInt32) :
    Promises (fun drained => ∃ count, Itemized promise count drained.1 ∧
        count ≤ window.length ∧ (drained.2 = true → count = window.length))
      (drainWindow receive window) := by
  induction window with
  | nil => exact .pure ⟨0, itemized_nil promise, Nat.le_refl _, fun _ => rfl⟩
  | cons messageId window inductionHypothesis =>
      have goesOn : ∀ item : Except Pop3Error α, (∀ value, item = .ok value → promise value) →
          Promises (fun drained => ∃ count, Itemized promise count drained.1 ∧
              count ≤ (messageId :: window).length ∧
              (drained.2 = true → count = (messageId :: window).length))
            (do
              let drained ← drainWindow receive window
              return (item :: drained.1, drained.2) : ClientM σ (Items α × Bool)) := by
        intro item meets
        refine inductionHypothesis.bind fun drained found => ?_
        obtain ⟨count, itemized, bound, whole⟩ := found
        exact .pure ⟨count + 1, itemized.cons meets, Nat.succ_le_succ bound,
          fun alive => congrArg Nat.succ (whole alive)⟩
      refine promises.attempt.bind fun result meets => ?_
      cases result with
      | ok value => exact goesOn _ meets
      | error error =>
          dsimp only
          split
          · exact .pure ⟨0, itemized_nil promise, Nat.zero_le _, fun alive => by cases alive⟩
          · exact goesOn _ meets

omit [Server σ] in
theorem promises_pipelined
    {promise : α → Prop}
    {send : List UInt32 → Action IoError (Pop3Client σ) Unit}
    {receive : ClientM σ α}
    (promises : Promises promise receive)
    (windows : List (List UInt32)) :
    Promises (Itemized promise windows.flatten.length) (pipelined send receive windows) := by
  induction windows with
  | nil => exact .pure (itemized_nil promise)
  | cons window windows inductionHypothesis =>
      refine .behind fun sent => ?_
      cases sent with
      | error error => exact .pure (itemized_fillUp promise _ _)
      | ok _ =>
          refine (promises_drainWindow promises window).bind fun drained found => ?_
          obtain ⟨results, alive⟩ := drained
          obtain ⟨count, itemized, bound, whole⟩ := found
          have total : (window :: windows).flatten.length =
              window.length + windows.flatten.length := by
            rw [List.flatten_cons, List.length_append]
          cases alive with
          | true =>
              rw [total, ← whole rfl]
              exact inductionHypothesis.bind fun _ more => .pure (itemized.append more)
          | false =>
              have length : results.length = count := itemized.1
              have filled := itemized.append (itemized_fillUp promise
                ((window :: windows).flatten.length - count) .connectionClosed)
              rw [Nat.add_sub_cancel' (by rw [total]; omega)] at filled
              refine .pure ?_
              rw [length]
              exact filled

omit [Server σ] in
theorem promises_many
    {promise : α → Prop}
    {sequential inPipeline : List UInt32 → ClientM σ (Items α)}
    {ids : List UInt32}
    (inSequence : Promises (Itemized promise ids.length) (sequential ids))
    (inWindows : Promises (Itemized promise ids.length) (inPipeline ids)) :
    Promises (fun items => 0 ∉ ids ∧ Itemized promise ids.length items)
      (many sequential inPipeline ids) := by
  refine .behind fun _ => .ofResult_bind fun _ valid => ?_
  have noZero : 0 ∉ ids := fun member =>
    (validateMessageIds_eq_ok_iff ids).mp valid 0 member rfl
  split
  case isTrue empty =>
    subst empty
    exact .pure ⟨noZero, itemized_nil promise⟩
  case isFalse =>
    refine .behind fun isPipelining => ?_
    split
    · exact inWindows.mono fun _ itemized => ⟨noZero, itemized⟩
    · exact inSequence.mono fun _ itemized => ⟨noZero, itemized⟩

theorem promises_retrMany (ids : List UInt32) :
    Promises (fun items => 0 ∉ ids ∧
        Itemized (fun message : Message => IsLined message.data) ids.length items)
      (retrMany ids : ClientM σ (Items Message)) := by
  have inWindows := @promises_pipelined σ _ _
    (fun window => transportField.run (sendWindow "RETR ".toList window)) _
    promises_readRetrResponse (chunks pipelineWindow ids)
  rw [chunks_flatten] at inWindows
  exact promises_many (promises_sequentially
    (fun messageId => (promises_retr messageId).mono fun _ => And.right) ids) inWindows

theorem promises_deleMany (ids : List UInt32) :
    Promises (fun items => 0 ∉ ids ∧ Itemized (fun _ => True) ids.length items)
      (deleMany ids : ClientM σ (Items Unit)) := by
  have inWindows := @promises_pipelined σ _ _
    (fun window => transportField.run (sendWindow "DELE ".toList window)) _
    (Promises.nothing readDeleResponse) (chunks pipelineWindow ids)
  rw [chunks_flatten] at inWindows
  exact promises_many (promises_sequentially (fun _ => .nothing _) ids) inWindows

/-! ## Incremental sync -/

theorem promises_unseenUids (seen : UidSet) :
    Promises (fun entries => ∀ entry ∈ entries, IsToken entry.uniqueId ∧
        entry.uniqueId ∉ seen.elements)
      (unseenUids seen : ClientM σ (List UidlEntry)) := by
  refine promises_uidl_none.bind fun entries areTokens => .pure fun entry member => ?_
  obtain ⟨listed, unseen⟩ := List.mem_filter.mp member
  exact ⟨areTokens entry listed, of_decide_eq_true unseen⟩

theorem promises_fetchEach (entries : List UidlEntry) :
    Promises (fun fetched => ∀ one ∈ fetched, one.1 ∈ entries ∧ one.1.messageId ≠ 0 ∧
        IsLined one.2.data)
      (fetchEach entries : ClientM σ (List (UidlEntry × Message))) := by
  induction entries with
  | nil => exact .pure fun _ member => absurd member List.not_mem_nil
  | cons entry entries inductionHypothesis =>
      refine (promises_retr entry.messageId).bind fun message promised => ?_
      refine inductionHypothesis.bind fun rest others => .pure fun one member => ?_
      rcases List.mem_cons.mp member with rfl | member
      · exact ⟨List.mem_cons_self, promised⟩
      · exact (others one member).imp_left (List.mem_cons_of_mem _)

theorem promises_fetchUnseen (seen : UidSet) :
    Promises (fun fetched => ∀ one ∈ fetched, IsToken one.1.uniqueId ∧
        one.1.uniqueId ∉ seen.elements ∧ one.1.messageId ≠ 0 ∧ IsLined one.2.data)
      (fetchUnseen seen : ClientM σ (List (UidlEntry × Message))) := by
  refine (promises_unseenUids seen).bind fun entries unseen => ?_
  refine (promises_fetchEach entries).mono fun fetched found one member => ?_
  obtain ⟨listed, valid, isLined⟩ := found one member
  exact ⟨(unseen one.1 listed).1, (unseen one.1 listed).2, valid, isLined⟩

theorem promises_pruneSeen (seen : UidSet) :
    Promises (fun pruned => (pruned.1 ++ pruned.2.elements).Perm seen.elements)
      (pruneSeen seen : ClientM σ (List Str × UidSet)) := by
  refine .behind fun entries => .pure ?_
  exact List.perm_append_comm.trans (List.filter_append_perm _ seen.elements)

end Operations

/-! ## Calls -/

section Calls

variable [Server σ] [Md5]

theorem Call.promises_run (call : Call) : Promises call.promise (call.run : ClientM σ Value) := by
  cases call with
  | stls | login | apop | rset | noop => exact .behind fun _ => .pure rfl
  | capa => exact promises_capa.bind fun _ worded => .pure ⟨_, rfl, worded⟩
  | stat => exact .behind fun _ => .pure ⟨_, rfl⟩
  | list messageId =>
      cases messageId with
      | none => exact .behind fun _ => .pure ⟨_, rfl⟩
      | some messageId =>
          refine (promises_list_some messageId).bind fun entries promised => .pure ?_
          obtain ⟨valid, entry, rfl⟩ := promised
          exact ⟨valid, entry, rfl⟩
  | uidl messageId =>
      cases messageId with
      | none => exact promises_uidl_none.bind fun _ areTokens => .pure ⟨_, rfl, areTokens⟩
      | some messageId =>
          refine (promises_uidl_some messageId).bind fun entries promised => .pure ?_
          obtain ⟨valid, entry, rfl, isToken⟩ := promised
          exact ⟨valid, entry, rfl, isToken⟩
  | retr messageId =>
      exact (promises_retr messageId).bind fun _ promised =>
        .pure ⟨promised.1, _, rfl, promised.2⟩
  | top messageId lines =>
      exact (promises_top messageId lines).bind fun _ promised =>
        .pure ⟨promised.1, _, rfl, promised.2⟩
  | dele messageId => exact (promises_dele messageId).bind fun _ valid => .pure ⟨valid, rfl⟩
  | retrMany ids =>
      exact (promises_retrMany ids).bind fun _ promised =>
        .pure ⟨promised.1, _, rfl, promised.2⟩
  | deleMany ids =>
      exact (promises_deleMany ids).bind fun _ promised =>
        .pure ⟨promised.1, _, rfl, promised.2.1⟩
  | unseenUids seen =>
      exact (promises_unseenUids seen).bind fun _ unseen => .pure ⟨_, rfl, unseen⟩
  | fetchUnseen seen =>
      exact (promises_fetchUnseen seen).bind fun _ unseen => .pure ⟨_, rfl, unseen⟩
  | pruneSeen seen =>
      exact (promises_pruneSeen seen).bind fun _ same => .pure ⟨_, _, rfl, same⟩

theorem ReconnectingClient.promises_perform (call : Call) :
    Promises (fun outcome : Outcome Value => call.promise outcome.intoInner)
      (perform call : ReconnectingM σ (Outcome Value)) := by
  intro reconnecting outcome succeeded
  have kept : ∀ {client : Pop3Client σ} {wrap : Value → Outcome Value},
      (∀ value, (wrap value).intoInner = value) →
      (returned (call.run client)).map wrap = .ok outcome → call.promise outcome.intoInner := by
    intro client wrap same wrapped
    cases run : returned (call.run client) with
    | error error =>
        rw [run] at wrapped
        cases wrapped
    | ok value =>
        rw [run] at wrapped
        obtain rfl := Except.ok.inj wrapped
        rw [same]
        exact call.promises_run client value run
  cases command : call.isCommand with
  | false =>
      cases call with
      | stls | login | apop => cases succeeded
      | _ => cases command
  | true =>
      have way := performs command reconnecting
      generalize perform call reconnecting = result at way succeeded
      cases way with
      | stays =>
          rw [returned_ofResult] at succeeded
          exact kept (fun _ => rfl) succeeded
      | refused => cases succeeded
      | renewed =>
          rw [returned_ofResult] at succeeded
          exact kept (fun _ => rfl) succeeded

/-- Whatever the server sends, whatever becomes of the connection and whatever state the
client is in: a call that returns a value returns one that is well-formed, and so does a
reconnecting client, from whichever connection. -/
theorem values_wellFormed (call : Call) :
    (∀ (client : Pop3Client σ) (value : Value),
      returned (call.run client) = .ok value → call.promise value) ∧
    ∀ (reconnecting : ReconnectingClient σ) (outcome : Outcome Value),
      returned (reconnecting.perform call) = .ok outcome → call.promise outcome.intoInner :=
  ⟨call.promises_run, ReconnectingClient.promises_perform call⟩

end Calls

/-- A batch on a connection that has fallen silent. -/
theorem values_wellFormed_silenced :
    let _ := emptyDigest
    ∃ outcome, returned ((Obliging.silenced ⟨[]⟩).perform (.deleMany [1, 2])) = .ok outcome ∧
      Call.promise (.deleMany [1, 2]) outcome.intoInner := by
  let _ := emptyDigest
  have isOk : (returned ((Obliging.silenced ⟨[]⟩).perform (.deleMany [1, 2]))).isOk = true := by
    decide +kernel
  cases run : returned ((Obliging.silenced ⟨[]⟩).perform (.deleMany [1, 2])) with
  | error error =>
      rw [run] at isOk
      cases isOk
  | ok outcome =>
      exact ⟨outcome, run, (values_wellFormed (.deleMany [1, 2])).2 _ outcome run⟩

end Pop3
