import Pop3.Reconnecting.Errors

/-!
# Transient errors and their cause

On a connection that delivers every reply, an operation gives up its session
exactly if something that was replied to it is not text.
-/

namespace Pop3

open Rust Framing Pop3Client

/-! ## Parsing is final -/

theorem failsTransiently_bind
    {result : Except Pop3Error α}
    {next : α → Except Pop3Error β}
    (first : failsTransiently result = false)
    (rest : ∀ value, failsTransiently (next value) = false) :
    failsTransiently (result >>= next) = false := by
  cases result with
  | ok value => exact rest value
  | error error => exact first

theorem OnlyParse.failsTransiently {result : Except Pop3Error α} (only : OnlyParse result) :
    failsTransiently result = false := by
  cases result with
  | ok value => rfl
  | error error =>
      obtain ⟨message, rfl⟩ := only error rfl
      rfl

theorem failsTransiently_validateMessageId (messageId : UInt32) :
    failsTransiently (validateMessageId messageId) = false := by
  unfold validateMessageId
  split <;> rfl

theorem failsTransiently_validateMessageIds (ids : List UInt32) :
    failsTransiently (validateMessageIds ids) = false := by
  induction ids with
  | nil => rfl
  | cons messageId ids inductionHypothesis =>
      exact failsTransiently_bind (failsTransiently_validateMessageId messageId)
        fun _ => inductionHypothesis

/-! ## Single commands -/

/-- Whoever asks the partner discerns its replies. -/
structure Discerning (tuned garbled : T → Prop) (partner : Partner T) : Prop where
  status : ∀ command, isMultiLine (utf8 command) = false →
    Discerns tuned garbled failsTransiently (partner.status command)
  body : ∀ command, isMultiLine (utf8 command) = true →
    Discerns tuned garbled failsTransiently (partner.body command)

namespace Discerning

variable {T : Type} {tuned garbled : T → Prop} {partner : Partner T}

theorem stat (discerning : Discerning tuned garbled partner) :
    Discerns tuned garbled failsTransiently partner.stat :=
  (discerning.status _ (by decide)).bind (fun _ => rfl)
    fun _ => .ofResult (onlyParse_parseStat _).failsTransiently

theorem list
    (discerning : Discerning tuned garbled partner)
    (messageId : Option UInt32) :
    Discerns tuned garbled failsTransiently (partner.list messageId) := by
  cases messageId with
  | some messageId =>
      refine .bind (.ofResult (failsTransiently_validateMessageId _)) (fun _ => rfl) fun _ => ?_
      refine (discerning.status _ (isMultiLine_list _)).bind (fun _ => rfl) fun text => ?_
      exact .bind (.ofResult (onlyParse_parseListEntry text).failsTransiently) (fun _ => rfl)
        fun _ => .pure rfl
  | none =>
      exact (discerning.body _ (by decide)).bind (fun _ => rfl) fun _ =>
        .ofResult (OnlyParse.mapM onlyParse_parseListEntry _).failsTransiently

theorem uidl
    (discerning : Discerning tuned garbled partner)
    (messageId : Option UInt32) :
    Discerns tuned garbled failsTransiently (partner.uidl messageId) := by
  cases messageId with
  | some messageId =>
      refine .bind (.ofResult (failsTransiently_validateMessageId _)) (fun _ => rfl) fun _ => ?_
      refine (discerning.status _ (isMultiLine_uidl _)).bind (fun _ => rfl) fun text => ?_
      exact .bind (.ofResult (onlyParse_parseUidlEntry text).failsTransiently) (fun _ => rfl)
        fun _ => .pure rfl
  | none =>
      exact (discerning.body _ (by decide)).bind (fun _ => rfl) fun _ =>
        .ofResult (OnlyParse.mapM onlyParse_parseUidlEntry _).failsTransiently

theorem retr (discerning : Discerning tuned garbled partner) (messageId : UInt32) :
    Discerns tuned garbled failsTransiently (partner.retr messageId) := by
  refine .bind (.ofResult (failsTransiently_validateMessageId _)) (fun _ => rfl) fun _ => ?_
  exact (discerning.body _ (isMultiLine_retr _)).bind (fun _ => rfl) fun _ => .pure rfl

theorem top (discerning : Discerning tuned garbled partner) (messageId lines : UInt32) :
    Discerns tuned garbled failsTransiently (partner.top messageId lines) := by
  refine .bind (.ofResult (failsTransiently_validateMessageId _)) (fun _ => rfl) fun _ => ?_
  exact (discerning.body _ (isMultiLine_top _ _)).bind (fun _ => rfl) fun _ => .pure rfl

theorem dele (discerning : Discerning tuned garbled partner) (messageId : UInt32) :
    Discerns tuned garbled failsTransiently (partner.dele messageId) := by
  refine .bind (.ofResult (failsTransiently_validateMessageId _)) (fun _ => rfl) fun _ => ?_
  exact (discerning.status _ (isMultiLine_dele _)).bind (fun _ => rfl) fun _ => .pure rfl

theorem rset (discerning : Discerning tuned garbled partner) :
    Discerns tuned garbled failsTransiently partner.rset :=
  (discerning.status _ (by decide)).bind (fun _ => rfl) fun _ => .pure rfl

theorem noop (discerning : Discerning tuned garbled partner) :
    Discerns tuned garbled failsTransiently partner.noop :=
  (discerning.status _ (by decide)).bind (fun _ => rfl) fun _ => .pure rfl

theorem capa (discerning : Discerning tuned garbled partner) :
    Discerns tuned garbled failsTransiently partner.capa :=
  (discerning.body _ (by decide)).bind (fun _ => rfl) fun _ => .pure rfl

theorem unseenUids (discerning : Discerning tuned garbled partner) (seen : UidSet) :
    Discerns tuned garbled failsTransiently (partner.unseenUids seen) :=
  (discerning.uidl none).bind (fun _ => rfl) fun _ => .pure rfl

theorem fetchEach (discerning : Discerning tuned garbled partner) (entries : List UidlEntry) :
    Discerns tuned garbled failsTransiently (partner.fetchEach entries) := by
  induction entries with
  | nil => exact .pure rfl
  | cons entry entries inductionHypothesis =>
      refine (discerning.retr _).bind (fun _ => rfl) fun _ => ?_
      exact inductionHypothesis.bind (fun _ => rfl) fun _ => .pure rfl

theorem fetchUnseen (discerning : Discerning tuned garbled partner) (seen : UidSet) :
    Discerns tuned garbled failsTransiently (partner.fetchUnseen seen) :=
  (discerning.unseenUids seen).bind (fun _ => rfl) discerning.fetchEach

theorem pruneSeen (discerning : Discerning tuned garbled partner) (seen : UidSet) :
    Discerns tuned garbled failsTransiently (partner.pruneSeen seen) :=
  (discerning.uidl none).bind (fun _ => rfl) fun _ => .pure rfl

/-- Every operation that is not a batch discerns the replies to it. -/
theorem perform (discerning : Discerning tuned garbled partner) :
    ∀ call : Call, call.isSingle = true →
      Discerns tuned garbled warrantsReconnect (partner.perform call)
  | .stls _, single | .login _ _, single | .apop _ _, single
  | .retrMany _, single | .deleMany _, single => by cases single
  | .capa, _ => discerning.capa.bind (fun _ => rfl) fun _ => .pure rfl
  | .stat, _ => discerning.stat.bind (fun _ => rfl) fun _ => .pure rfl
  | .list _, _ => (discerning.list _).bind (fun _ => rfl) fun _ => .pure rfl
  | .uidl _, _ => (discerning.uidl _).bind (fun _ => rfl) fun _ => .pure rfl
  | .retr _, _ => (discerning.retr _).bind (fun _ => rfl) fun _ => .pure rfl
  | .top _ _, _ => (discerning.top _ _).bind (fun _ => rfl) fun _ => .pure rfl
  | .dele _, _ => (discerning.dele _).bind (fun _ => rfl) fun _ => .pure rfl
  | .rset, _ => discerning.rset.bind (fun _ => rfl) fun _ => .pure rfl
  | .noop, _ => discerning.noop.bind (fun _ => rfl) fun _ => .pure rfl
  | .unseenUids _, _ => (discerning.unseenUids _).bind (fun _ => rfl) fun _ => .pure rfl
  | .fetchUnseen _, _ => (discerning.fetchUnseen _).bind (fun _ => rfl) fun _ => .pure rfl
  | .pruneSeen _, _ => (discerning.pruneSeen _).bind (fun _ => rfl) fun _ => .pure rfl

end Discerning

/-- A connection that delivers every reply lets its readers discern them. -/
theorem discerning_view [Server σ]
    (delivering : Delivering σ)
    (start : List Event) :
    Discerning (fun view => Met Event.IsClear start view ∨ InTune start view)
      (fun view => Met Event.IsClear start view ∨ Met Event.IsText start view)
      (View.partner : Partner (View σ)) where
  status _ := discerns_status delivering
  body _ := discerns_body delivering

/-! ## Batches -/

section Batching

open ReconnectingClient

theorem anyRetryable_cons (item : Except Pop3Error α) (items : Items α) :
    anyRetryable (item :: items) = (failsTransiently item || anyRetryable items) := by
  cases item <;> rfl

theorem anyRetryable_append (first second : Items α) :
    anyRetryable (first ++ second) = (anyRetryable first || anyRetryable second) :=
  List.any_append

theorem anyRetryable_fillUp
    {missing : Nat}
    (some_missing : 0 < missing) :
    anyRetryable (fillUp missing .connectionClosed : Items α) = true := by
  obtain ⟨fewer, rfl⟩ := Nat.exists_eq_add_of_lt some_missing
  rw [fillUp, Nat.zero_add, List.replicate_succ, anyRetryable_cons]
  rfl

/-- One command at a time, a batch discerns the replies to it. -/
theorem discerns_sequentially
    {tuned garbled : T → Prop}
    {operation : UInt32 → Action Pop3Error T α}
    (discerns : ∀ messageId, Discerns tuned garbled failsTransiently (operation messageId))
    (keeps : ∀ messageId, Preserves garbled (operation messageId))
    (ids : List UInt32) :
    Discerns tuned garbled someFailTransiently (sequentially operation ids) := by
  induction ids with
  | nil => exact .pure rfl
  | cons messageId ids inductionHypothesis =>
      intro state isTuned
      have run : sequentially operation (messageId :: ids) state =
          (do return returned (operation messageId state) :: (← sequentially operation ids) :
            Action Pop3Error T (Items α)) (finalState (operation messageId state)) := by
        rw [sequentially, bind_of_ok (attempt_apply _ _)]
      obtain ⟨items, rest⟩ :=
        sequentially_isOk operation ids (finalState (operation messageId state))
      have result : someFailTransiently (returned (sequentially operation (messageId :: ids) state)) =
          (failsTransiently (returned (operation messageId state)) || anyRetryable items) := by
        rw [run, returned_bind_pure, rest, ← anyRetryable_cons]
        rfl
      rw [result, run, finalState_bind_pure]
      rcases discerns messageId state isTuned with ⟨isTuned', final⟩ | ⟨isGarbled, fails⟩
      · have later := inductionHypothesis _ isTuned'
        rw [rest] at later
        rw [final, Bool.false_or]
        exact later
      · rw [fails, Bool.true_or]
        exact .inr ⟨preserves_sequentially keeps ids _ isGarbled, rfl⟩

variable [Server σ] {start : List Event} {verb : Str} {multiLine : Bool}

/-- Several commands are answered by as many complete replies. -/
theorem View.hearAll_delivers
    (delivering : Delivering σ)
    {commands : List Str}
    (kind : ∀ command ∈ commands, isMultiLine (utf8 command) = multiLine)
    {view : View σ}
    (isOpen : view.isOpen = true)
    (pending : view.pending = []) :
    ∃ replies : List (List UInt8), replies.length = commands.length ∧
      (∀ reply ∈ replies, IsWholeReply multiLine reply) ∧
      (∀ reply ∈ replies, ¬CarriesSysTemp reply) ∧
      (view.hearAll commands).pending = replies.flatten ∧
      (view.hearAll commands).isOpen = true ∧
      (view.hearAll commands).log = view.log ++
        List.zipWith (fun command reply => .answered (utf8 command) reply) commands replies := by
  induction commands generalizing view with
  | nil => exact ⟨[], rfl, by simp, by simp, pending, isOpen, (List.append_nil _).symm⟩
  | cons command commands inductionHypothesis =>
      obtain ⟨reply, isWhole, noSysTemp, pending', isOpen', log⟩ :=
        View.hear_delivers delivering isOpen pending command
      obtain ⟨replies, lengths, whole, noneTemp, pendingRest, isOpenRest, logRest⟩ :=
        inductionHypothesis (fun other member => kind other (List.mem_cons_of_mem _ member))
          (show ({ view.hear command with pending := [] } : View σ).isOpen = true from isOpen') rfl
      have heard := View.hearAll_behind reply commands
        ({ view.hear command with pending := [] } : View σ)
      have together : ({ view.hear command with pending := reply ++ [] } : View σ) =
          view.hear command := by rw [List.append_nil, ← pending']
      dsimp only at heard
      rw [together] at heard
      rw [kind command List.mem_cons_self] at isWhole
      refine ⟨reply :: replies, congrArg Nat.succ lengths, List.forall_mem_cons.mpr ⟨isWhole, whole⟩,
        List.forall_mem_cons.mpr ⟨noSysTemp, noneTemp⟩, ?_, ?_, ?_⟩
      · change ((view.hear command).hearAll commands).pending = _
        rw [heard, pendingRest, List.flatten_cons]
      · change ((view.hear command).hearAll commands).isOpen = _
        rw [heard, isOpenRest]
      · change ((view.hear command).hearAll commands).log = _
        rw [heard, logRest, log, List.zipWith_cons_cons, List.append_assoc, List.singleton_append]

/-- Only text has been replied, or some reply has been met that is not good. -/
theorem spoken_or_met
    {log : List Event}
    (spoken : SpokenSince start log)
    {commands : List Str}
    {replies : List (List UInt8)}
    (lengths : replies.length = commands.length) :
    ((∀ reply ∈ replies, IsUtf8 reply) → SpokenSince start (log ++
      List.zipWith (fun command reply => .answered (utf8 command) reply) commands replies)) ∧
    ∀ good : Event → Prop,
      (∃ reply ∈ replies, ∀ command ∈ commands, ¬good (.answered (utf8 command) reply)) →
        MetSince good start (log ++
          List.zipWith (fun command reply => .answered (utf8 command) reply) commands replies) := by
  constructor
  · intro isText
    refine spoken.append fun event member => ?_
    rw [← List.map_uncurry_zip_eq_zipWith] at member
    obtain ⟨⟨command, reply⟩, paired, rfl⟩ := List.mem_map.mp member
    exact isText reply (List.of_mem_zip paired).2
  · rintro good ⟨reply, member, notGood⟩
    rw [← List.map_snd_zip (Nat.le_of_eq lengths)] at member
    obtain ⟨⟨command, reply⟩, paired, rfl⟩ := List.mem_map.mp member
    rw [← List.map_uncurry_zip_eq_zipWith]
    exact spoken.met (List.mem_map_of_mem paired) (notGood command (List.of_mem_zip paired).1)

theorem preserves_met_hearWindow (good : Event → Prop) (window : List UInt32) :
    Preserves (Met good start) (View.hearWindow verb window : Action IoError (View σ) Unit) := by
  intro view met
  change Met good start (view.hearAll (window.map (commandFor verb)))
  rw [View.hearAll]
  generalize window.map (commandFor verb) = commands
  induction commands generalizing view with
  | nil => exact met
  | cons command commands inductionHypothesis => exact inductionHypothesis _ (met.hear command)

omit [Server σ] in
/-- What holds once a window is sent, and is preserved from there, holds in the end. -/
theorem pipelined_preserves_of_sent
    {invariant : S → Prop}
    {send : List UInt32 → Action IoError S Unit}
    {receive : Action Pop3Error S α}
    (sends : ∀ window, Preserves invariant (send window))
    (preserves : Preserves invariant receive)
    {window : List UInt32}
    {before middle : S}
    (sent : send window before = .ok () middle)
    (holds : invariant middle)
    (windows : List (List UInt32)) :
    invariant (finalState (pipelined send receive (window :: windows) before)) := by
  rw [pipelined, bind_of_ok (attempt_of_ok sent)]
  refine Preserves.bind (preserves_drainWindow preserves window) (fun drained => ?_) middle holds
  dsimp only
  split
  · exact .bind (preserves_pipelined sends preserves windows) fun _ => .pure _
  · exact .pure _

omit [Server σ] in
/-- Replies that are text warrant no reconnect. -/
theorem anyRetryable_of_texts
    {receive : Action Pop3Error (View σ) α}
    {result : List UInt8 → Except Pop3Error α}
    (takes : TakesReplies multiLine receive result)
    (temporary : ∀ view message, returned (receive view) = .error (.sysTemp message) →
      CarriesSysTemp view.pending)
    {replies : List (List UInt8)}
    (seen : ∀ reply ∈ replies, IsSeenReply multiLine reply)
    (noneTemp : ∀ reply ∈ replies, ¬CarriesSysTemp reply)
    (isText : ∀ reply ∈ replies, IsUtf8 reply)
    (view : View σ) :
    anyRetryable (replies.map result) = false := by
  refine List.any_eq_false.mpr fun item member => ?_
  obtain ⟨reply, found, rfl⟩ := List.mem_map.mp member
  have final := final_of_takes takes temporary (seen reply found) (noneTemp reply found)
    (isText reply found) view
  exact Bool.eq_false_iff.mp final

/-- A window with a reply that is not text ends the batch, and its items warrant a
reconnect. -/
theorem pipelined_of_garbled
    {receive : Action Pop3Error (View σ) α}
    {result : List UInt8 → Except Pop3Error α}
    (takes : TakesReplies multiLine receive result)
    {window : List UInt32}
    {replies : List (List UInt8)}
    (lengths : replies.length = window.length)
    (seen : ∀ reply ∈ replies, IsSeenReply multiLine reply)
    (garbled : ¬∀ reply ∈ replies, IsUtf8 reply)
    {view middle : View σ}
    (sent : View.hearWindow verb window view = .ok () middle)
    (pending : middle.pending = replies.flatten)
    (windows : List (List UInt32)) :
    ∃ items, anyRetryable items = true ∧
      pipelined (View.hearWindow verb) receive (window :: windows) view =
        .ok items (finalState (drainWindow receive window middle)) := by
  obtain ⟨good, bad, left, rfl, goodText, noText⟩ := exists_first_not garbled
  have shorter : good.length < window.length := by
    rw [← lengths, List.length_append, List.length_cons]
    omega
  rw [List.flatten_append, List.flatten_cons] at pending
  have drained := drainWindow_of_octets takes
    (fun reply member => seen reply (List.mem_append_left _ member)) goodText
    (seen bad (by simp)) noText shorter pending
  refine ⟨_, ?_, pipelined_of_cut sent (eq_ok_of_returned drained) windows⟩
  rw [anyRetryable_append, anyRetryable_fillUp, Bool.or_true]
  rw [List.flatten_cons, List.length_append, List.length_map]
  omega

/-- Window by window, a batch discerns the replies to it. -/
theorem discerns_pipelined
    (delivering : Delivering σ)
    {receive : Action Pop3Error (View σ) α}
    {result : List UInt8 → Except Pop3Error α}
    (takes : TakesReplies multiLine receive result)
    (keeps : ∀ good, Preserves (Met good start) receive)
    (temporary : ∀ view message, returned (receive view) = .error (.sysTemp message) →
      CarriesSysTemp view.pending)
    (kind : ∀ messageId, isMultiLine (utf8 (commandFor verb messageId)) = multiLine)
    (windows : List (List UInt32)) :
    View.Discerns start someFailTransiently
      (pipelined (View.hearWindow verb) receive windows) := by
  have stays : ∀ windows, Preserves (Met Event.IsClear start)
      (pipelined (View.hearWindow verb) receive windows) :=
    preserves_pipelined (preserves_met_hearWindow _) (keeps _)
  induction windows with
  | nil => exact .pure rfl
  | cons window windows inductionHypothesis =>
      rintro view (blurred | tuned)
      · exact Discerns.of_blurred (stays _ view blurred)
      have kinds : ∀ command ∈ window.map (commandFor verb),
          isMultiLine (utf8 command) = multiLine := by
        simpa using fun messageId _ => kind messageId
      obtain ⟨replies, lengths, _, noneTemp, pending, isOpen, log⟩ :=
        View.hearAll_delivers delivering kinds tuned.isOpen tuned.pending
      obtain ⟨speaks, meets⟩ := spoken_or_met tuned.spoken lengths
      rw [← log] at speaks meets
      rw [List.length_map] at lengths
      have sent : View.hearWindow verb window view =
          .ok () (view.hearAll (window.map (commandFor verb))) := rfl
      by_cases areClear : ∀ reply ∈ replies, IsClearReply multiLine reply
      swap
      · -- Bare LFs may have done harm from here on.
        obtain ⟨reply, member, notClear⟩ := not_forall₂.mp areClear
        have blurred : Met Event.IsClear start (view.hearAll (window.map (commandFor verb))) := by
          refine meets _ ⟨reply, member, fun command inWindow => ?_⟩
          rwa [Event.IsClear, kinds command inWindow]
        exact Discerns.of_blurred
          (pipelined_preserves_of_sent (preserves_met_hearWindow _) (keeps _) sent blurred windows)
      have seen : ∀ reply ∈ replies, IsSeenReply multiLine reply :=
        fun reply member => (areClear reply member).isSeen
      by_cases isText : ∀ reply ∈ replies, IsUtf8 reply
      · have drained := drainWindow_of_texts takes seen isText lengths
          (pending.trans (List.append_nil _).symm)
        have later := inductionHypothesis
          { view.hearAll (window.map (commandFor verb)) with pending := [] }
          (.inr ⟨isOpen, rfl, speaks isText⟩)
        obtain ⟨items, rest⟩ := pipelined_isOk (View.hearWindow verb) receive windows
          { view.hearAll (window.map (commandFor verb)) with pending := [] }
        rw [rest] at later
        rw [pipelined_of_drained sent drained, finalState_bind_pure, returned_bind_pure, rest]
        have appended : someFailTransiently ((.ok items : Except Pop3Error (Items α)).map
            (replies.map result ++ ·)) = anyRetryable items := by
          rw [Except.map, someFailTransiently, anyRetryable_append,
            anyRetryable_of_texts takes temporary seen noneTemp isText view, Bool.false_or]
        rw [appended]
        exact later
      · obtain ⟨reply, member, noText⟩ := not_forall₂.mp isText
        have garbled := meets Event.IsText ⟨reply, member, fun _ _ => noText⟩
        obtain ⟨items, fails, run⟩ :=
          pipelined_of_garbled takes lengths seen isText sent pending windows
        rw [run]
        exact .inr ⟨.inr (preserves_drainWindow (keeps _) window _ garbled), fails⟩

theorem preserves_met_retr (good : Event → Prop) (messageId : UInt32) :
    Preserves (Met good start) ((View.partner : Partner (View σ)).retr messageId) := by
  refine .bind (.ofResult _) fun _ => .bind (fun view met => ?_) fun _ => .pure _
  exact preserves_met_readReply _ (met.hear _)

theorem preserves_met_dele (good : Event → Prop) (messageId : UInt32) :
    Preserves (Met good start) ((View.partner : Partner (View σ)).dele messageId) := by
  refine .bind (.ofResult _) fun _ => .bind (fun view met => ?_) fun _ => .pure _
  exact preserves_met_readStatus _ (met.hear _)

end Batching

/-! ## Calls -/

section Calls

variable {start : List Event}

/-- The client serves a connection in tune, or one on which bare LFs may have done harm. -/
def Tuned (start : List Event) (client : Pop3Client σ) : Prop :=
  ∃ view, Serves calm client view ∧ (Met Event.IsClear start view ∨ InTune start view)

/-- Something has been replied to the client that is not text, or in which bare LFs may have
done harm. -/
def Muddled (start : List Event) (client : Pop3Client σ) : Prop :=
  MetSince Event.IsClear start client.noted ∨ GarbledSince start client.noted

/-- What follows the view discerns what the view does. -/
theorem Discerns.of_follows
    {warrants : Except Pop3Error α → Bool}
    {action : ClientM σ α}
    {ideal : Action Pop3Error (View σ) α}
    (follows : Follows (Serves calm) Escapes.none action ideal)
    (discerns : View.Discerns start warrants ideal) :
    Discerns (Tuned start) (Muddled start) warrants action := by
  rintro client ⟨view, serves, tuned⟩
  obtain ⟨same, serves'⟩ := (follows view).of_none serves
  rw [same]
  refine (discerns view tuned).imp (fun ⟨tuned', final⟩ => ⟨⟨_, serves', tuned'⟩, final⟩)
    fun ⟨met, fails⟩ => ⟨?_, fails⟩
  have log : Pop3Client.noted (finalState (action client)) = _ := serves'.shows.log
  rw [Muddled, log]
  exact met

/-- Either way through a batch discerns the replies to it. -/
theorem discerns_many
    {sequential inPipeline : List UInt32 → ClientM σ (Items α)}
    {ids : List UInt32}
    (first : Discerns (Tuned start) (Muddled start) someFailTransiently (sequential ids))
    (second : Discerns (Tuned start) (Muddled start) someFailTransiently (inPipeline ids)) :
    Discerns (Tuned start) (Muddled start) someFailTransiently
      (many sequential inPipeline ids) := by
  rintro client ⟨view, serves, tuned⟩
  have isTuned : Tuned start client := ⟨view, serves, tuned⟩
  rw [many, requireAuth_bind serves.authenticated]
  cases valid : validateMessageIds ids with
  | error error =>
      refine .inl ⟨isTuned, ?_⟩
      have final := failsTransiently_validateMessageIds ids
      rw [valid] at final
      exact final
  | ok _ =>
      rw [ofResult_ok_bind]
      split
      · exact .inl ⟨isTuned, rfl⟩
      · rw [gets_bind_apply]
        split
        · exact second client isTuned
        · exact first client isTuned

/-- Every call discerns the replies to it. -/
theorem Call.discerns [Server σ] [Md5]
    (delivering : Delivering σ)
    {call : Call}
    (command : call.isCommand = true) :
    Discerns (Tuned start) (Muddled start) warrantsReconnect (call.run : ClientM σ Value) := by
  by_cases single : call.isSingle = true
  · have talks : Talks (clientMishaps calm) (Serves calm) (View.partner : Partner (View σ)) :=
      talks_view rfl
    have follows := talks.perform call single
    rw [clientMishaps_calm] at follows
    exact .of_follows follows ((discerning_view delivering start).perform call single)
  · cases call with
    | retrMany ids =>
        refine Discerns.wrap (discerns_many ?_ ?_) fun result => ?_
        · exact .of_follows (sequentially_retr_follows ids)
            (discerns_sequentially (discerning_view delivering start).retr
              (fun messageId _ => Or.imp (preserves_met_retr _ messageId _)
                (preserves_met_retr _ messageId _)) ids)
        · refine .of_follows (retrManyPipelined_follows ids) (discerns_pipelined delivering
            takesReplies_retr ?_ ?_ isMultiLine_retr _)
          · intro good
            rw [View.readRetrResponse_eq]
            exact .bind preserves_met_readReply fun _ => .pure _
          · intro view message fails
            rw [View.readRetrResponse_eq, returned_bind_pure] at fails
            exact View.carriesSysTemp_of_readReply (map_error fails)
        · cases result <;> rfl
    | deleMany ids =>
        refine Discerns.wrap (discerns_many ?_ ?_) fun result => ?_
        · exact .of_follows (sequentially_dele_follows ids)
            (discerns_sequentially (discerning_view delivering start).dele
              (fun messageId _ => Or.imp (preserves_met_dele _ messageId _)
                (preserves_met_dele _ messageId _)) ids)
        · refine .of_follows (deleManyPipelined_follows ids) (discerns_pipelined delivering
            takesReplies_dele ?_ ?_ isMultiLine_dele _)
          · intro good
            rw [View.readDeleResponse_eq]
            exact .bind preserves_met_readStatus fun _ => .pure _
          · intro view message fails
            rw [View.readDeleResponse_eq, returned_bind_pure] at fails
            exact View.carriesSysTemp_of_readStatus (map_error fails)
        · cases result <;> rfl
    | _ => exact absurd command single

/-- What has been noted stays noted. -/
theorem preserves_noted [Server σ] [Md5]
    {holds : List Event → Prop}
    (grows : ∀ log events, holds log → holds (log ++ events))
    {call : Call}
    (command : call.isCommand = true) :
    Preserves (fun client => holds client.noted) (call.run : ClientM σ Value) := by
  have lasting : Lasting (fun _ _ => True) fun trace => holds (trace.filter Event.isNoted) := by
    intro trace event _ held
    rw [List.filter_append]
    exact grows _ _ held
  intro client held
  exact ((call.program_run command).preserves lasting.steps client ⟨trivial, held⟩).trace

theorem noted_runAll [Server σ] [Md5]
    {holds : List Event → Prop}
    (grows : ∀ log events, holds log → holds (log ++ events))
    {calls : List Call}
    (commands : ∀ call ∈ calls, call.isCommand = true)
    {client : Pop3Client σ}
    (held : holds client.noted) :
    holds (Call.runAll calls client).noted := by
  induction calls generalizing client with
  | nil => exact held
  | cons call calls inductionHypothesis =>
      obtain ⟨command, commands⟩ := List.forall_mem_cons.mp commands
      exact inductionHypothesis commands (preserves_noted grows command client held)

end Calls

/-! ## Operations -/

namespace ReconnectingClient

section Staying

variable [Server σ] [Md5]

/-- The operation keeps the session it found: nothing is dialed, the client is left as
the first attempt leaves it, still connected, and the result is that of this attempt. -/
structure StaysInSession (call : Call) (reconnecting : ReconnectingClient σ) : Prop where
  dialed : (finalState (perform call reconnecting)).dialed = reconnecting.dialed
  client : (finalState (perform call reconnecting)).client =
    finalState (call.run reconnecting.client)
  isOpen : (finalState (perform call reconnecting)).client.transport.net.isOpen = true
  result : returned (perform call reconnecting) =
    (returned (call.run reconnecting.client)).map .fresh

/-- Every operation of a run keeps the session. -/
def StayInSession (calls : List Call) (reconnecting : ReconnectingClient σ) : Prop :=
  ∀ before call after, calls = before ++ call :: after →
    StaysInSession call (performAll before reconnecting)

theorem stayInSession_cons
    {call : Call}
    {calls : List Call}
    {reconnecting : ReconnectingClient σ} :
    StayInSession (call :: calls) reconnecting ↔ StaysInSession call reconnecting ∧
      StayInSession calls (finalState (perform call reconnecting)) := by
  constructor
  · intro stay
    refine ⟨stay [] call calls rfl, fun before later after same => ?_⟩
    exact stay (call :: before) later after (congrArg (call :: ·) same)
  · rintro ⟨first, rest⟩ before later after same
    cases before with
    | nil =>
        obtain ⟨rfl, _⟩ := List.cons.inj same
        exact first
    | cons other before =>
        obtain ⟨rfl, sameRest⟩ := List.cons.inj same
        exact rest before later after sameRest

variable {start : List Event} {reconnecting : ReconnectingClient σ}

/-- A run in whose replies bare LFs do no harm leaves the connection in tune with every
operation in its session, or has met a reply that is not text, and some operation has given
up its session. -/
theorem stayInSession_or_not
    (delivering : Delivering σ)
    {calls : List Call}
    (commands : ∀ call ∈ calls, call.isCommand = true)
    {view : View σ}
    (serves : Serves calm reconnecting.client view)
    (tuned : InTune start view)
    (clear : ¬MetSince Event.IsClear start (Call.runAll calls reconnecting.client).noted) :
    ((∃ last, Serves calm (Call.runAll calls reconnecting.client) last ∧ InTune start last) ∧
        StayInSession calls reconnecting) ∨
      (GarbledSince start (Call.runAll calls reconnecting.client).noted ∧
        ¬StayInSession calls reconnecting) := by
  induction calls generalizing reconnecting view with
  | nil =>
      refine .inl ⟨⟨view, serves, tuned⟩, fun before call after same => ?_⟩
      simp at same
  | cons call calls inductionHypothesis =>
      obtain ⟨command, commands⟩ := List.forall_mem_cons.mp commands
      -- Nothing that is met in this call is forgotten in the rest of the run.
      have met : ∀ {good}, MetSince good start
          (Pop3Client.noted (finalState (call.run reconnecting.client))) →
            MetSince good start (Call.runAll (call :: calls) reconnecting.client).noted :=
        noted_runAll (fun _ events met => met.append events) commands
      rw [stayInSession_cons]
      rcases call.discerns delivering command _ ⟨view, serves, .inr tuned⟩ with
        ⟨⟨next, serves', blurred | tuned'⟩, final⟩ | ⟨blurred | garbled, warranted⟩
      · have noted : Pop3Client.noted (finalState (call.run reconnecting.client)) = _ :=
          serves'.shows.log
        exact absurd (met (noted ▸ blurred)) clear
      · have performed := perform_of_not_warranted command final
        have after : finalState (perform call reconnecting) = attempted call reconnecting := by
          rw [performed, finalState_ofResult]
        have stays : StaysInSession call reconnecting := by
          refine ⟨by rw [after]; rfl, by rw [after]; rfl, ?_, ?_⟩
          · rw [after]
            exact serves'.shows.isOpen.trans tuned'.isOpen
          · rw [performed, returned_ofResult]
            rfl
        have servesNext : Serves calm (attempted call reconnecting).client next := serves'
        rw [after]
        rcases inductionHypothesis commands servesNext tuned' clear with
          ⟨last, rest⟩ | ⟨garbled, leaves⟩
        · exact .inl ⟨last, stays, rest⟩
        · exact .inr ⟨garbled, fun both => leaves both.2⟩
      · exact absurd (met blurred) clear
      · refine .inr ⟨met garbled, fun both => ?_⟩
        have dialed := dialed_lt_of_warranted command warranted
        rw [both.1.dialed] at dialed
        exact Nat.lt_irrefl _ dialed

/-- While the server delivers every reply completely and in time, and none of them is a
temporary failure, a run in whose replies bare LFs do no harm keeps its session exactly if
all that is replied is text. -/
theorem stayInSession_iff
    (delivering : Delivering σ)
    {calls : List Call}
    (commands : ∀ call ∈ calls, call.isCommand = true)
    (ready : Ready calm reconnecting.client.transport)
    (isAuthenticated : reconnecting.client.state = .authenticated)
    (isOpen : reconnecting.client.transport.net.isOpen = true)
    (nothing : reconnecting.client.transport.pending = []) :
    ∃ events,
      (Call.runAll calls reconnecting.client).noted = reconnecting.client.noted ++ events ∧
      ((∀ command reply, .answered command reply ∈ events →
          IsClearReply (isMultiLine command) reply) →
        (StayInSession calls reconnecting ↔
          ∀ command reply, .answered command reply ∈ events → IsUtf8 reply)) := by
  obtain ⟨events, same⟩ : reconnecting.client.noted <+:
      (Call.runAll calls reconnecting.client).noted :=
    noted_runAll (fun _ events begins => begins.trans (List.prefix_append _ events)) commands
      List.prefix_rfl
  refine ⟨events, same.symm, fun areClear => ?_⟩
  have clear : ¬MetSince Event.IsClear reconnecting.client.noted
      (Call.runAll calls reconnecting.client).noted := by
    rintro ⟨new, noted, event, member, notClear⟩
    rw [← same, List.append_cancel_left_eq] at noted
    subst noted
    cases event with
    | answered command reply => exact notClear (areClear command reply member)
    | _ => exact notClear trivial
  rcases stayInSession_or_not delivering commands ⟨ready.shows, isAuthenticated⟩
      ⟨isOpen, nothing, spokenSince_self _⟩ clear with
    ⟨⟨last, serves, tuned⟩, stay⟩ | ⟨⟨new, noted, event, member, noText⟩, leave⟩
  · obtain ⟨new, noted, isText⟩ := tuned.spoken
    rw [← serves.shows.log] at noted
    have sameEvents : events = new := List.append_cancel_left (same.trans noted)
    subst sameEvents
    exact iff_of_true stay fun command reply => isText (.answered command reply)
  · have sameEvents : events = new := List.append_cancel_left (same.trans noted)
    subst sameEvents
    refine iff_of_false leave fun isText => ?_
    cases event with
    | answered command reply => exact noText (isText command reply member)
    | _ => exact noText trivial

end Staying

end ReconnectingClient

/-- A server that accepts every command, with the same body if it has one. -/
structure Obliging where
  body : List OctetLine

instance : AnsweringServer Obliging where
  answer server _ :=
    (server, { isPositive := true, text := .blank, body := server.body })

theorem delivering_obliging : Delivering Obliging where
  isWhole _ _ := Answer.isWholeReply_encode _ _
  stays _ _ := rfl
  noSysTemp server command := by
    rintro ⟨blanks, _, rest, begins⟩
    rw [List.append_assoc, utf8_append, List.append_assoc] at begins
    have negative : (utf8 "-ERR".toList ++
        (utf8 (blanks ++ "[SYS/TEMP]".toList) ++ rest)).head? = some 45 := rfl
    have positive : (Server.respond server command).2.bytes.head? = some 43 := rfl
    rw [begins, positive] at negative
    exact absurd negative (by decide)

/-- A client that can connect to the server again. -/
def Obliging.reconnecting (server : Obliging) : ReconnectingClient Obliging where
  builder := { hostname := [] }
  dials _ := { connects _ _ := .ok { server, wire := utf8 "+OK\r\n".toList } }
  username := []
  password := []
  client := .idle server [] false

/-- A message in Latin-1 makes the client give up its session. -/
theorem exists_session_given_up :
    ¬∀ (reconnecting : ReconnectingClient Obliging) (calls : List Call),
      Delivering Obliging → (∀ call ∈ calls, call.isCommand = true) →
        Ready calm reconnecting.client.transport → reconnecting.client.state = .authenticated →
          reconnecting.client.transport.net.isOpen = true →
            reconnecting.client.transport.pending = [] →
              @ReconnectingClient.StayInSession _ _ emptyDigest calls reconnecting := by
  intro always
  let _ := emptyDigest
  have stay : ReconnectingClient.StayInSession _ _ :=
    always (Obliging.reconnecting ⟨latinMessage.answer.body⟩) [.retr 1]
      delivering_obliging (by simp [Call.isCommand])
      (inSync_idle (by simp) _ false).shows.ready rfl rfl rfl
  have dialed := (stay [] (.retr 1) [] rfl).dialed
  revert dialed
  decide +kernel

/-- A message of text is got, and the session is kept. -/
theorem stayInSession_obliging :
    ∃ events,
      (@Call.runAll _ _ emptyDigest [.retr 1, .noop]
        (Obliging.reconnecting ⟨[]⟩).client).noted = [] ++ events ∧
      ((∀ command reply, .answered command reply ∈ events →
          IsClearReply (isMultiLine command) reply) →
        (@ReconnectingClient.StayInSession _ _ emptyDigest [.retr 1, .noop]
            (Obliging.reconnecting ⟨[]⟩) ↔
          ∀ command reply, .answered command reply ∈ events → IsUtf8 reply)) :=
  @ReconnectingClient.stayInSession_iff _ _ emptyDigest (Obliging.reconnecting ⟨[]⟩)
    delivering_obliging [.retr 1, .noop] (by simp [Call.isCommand])
    (inSync_idle (by simp) _ false).shows.ready rfl rfl rfl

end Pop3
