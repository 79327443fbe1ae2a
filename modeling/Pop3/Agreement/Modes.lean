import Pop3.Agreement.Replies
import Pop3.Connection.Handing
import Pop3.Connection.Readiness
import Pop3.Octets.Calls

/-!
# Two ways through a batch

One command at a time and window by window, a batch returns the same results,
writes the same bytes and leaves the same bytes unread, exactly if every reply is
text.
-/

namespace Pop3

open Rust Framing Pop3Client

/-! ## Streams of replies -/

section Streams

variable [Server σ] {multiLine : Bool}

/-- The stream brings these replies, each of them no later than behind its command,
and leaves the remainder. -/
def Delivers (multiLine : Bool) :
    List (List UInt8) → List Str → View σ → List UInt8 → Prop
  | [], [], view, remainder => view.pending = remainder
  | reply :: replies, command :: commands, view, remainder =>
      IsSeenReply multiLine reply ∧ ∃ rest, (view.hear command).pending = reply ++ rest ∧
        Delivers multiLine replies commands { view.hear command with pending := rest } remainder
  | _, _, _, _ => False

/-- What the server hears does not depend on what is unread. -/
theorem View.hear_behind
    (front : List UInt8)
    (command : Str)
    (view : View σ) :
    View.hear command { view with pending := front ++ view.pending } =
      { view.hear command with pending := front ++ (view.hear command).pending } := by
  unfold View.hear
  dsimp only
  split <;> simp

theorem View.hearAll_behind
    (front : List UInt8)
    (commands : List Str)
    (view : View σ) :
    View.hearAll commands { view with pending := front ++ view.pending } =
      { view.hearAll commands with pending := front ++ (view.hearAll commands).pending } := by
  induction commands generalizing view with
  | nil => rfl
  | cons command commands inductionHypothesis =>
      have step := inductionHypothesis (view.hear command)
      rw [← View.hear_behind] at step
      exact step

/-- The view once the commands have been heard, and this much is unread. -/
def View.afterAll (commands : List Str) (remainder : List UInt8) (view : View σ) : View σ :=
  { view.hearAll commands with pending := remainder }

/-- What was unread before does not matter then. -/
theorem View.afterAll_forgets
    (commands : List Str)
    (remainder : List UInt8)
    (view : View σ)
    (pending : List UInt8) :
    View.afterAll commands remainder { view with pending } =
      view.afterAll commands remainder := by
  induction commands generalizing view pending with
  | nil => rfl
  | cons command commands inductionHypothesis =>
      have step : ∃ pending', View.hear command { view with pending } =
          { view.hear command with pending := pending' } := by
        unfold View.hear
        dsimp only
        split <;> exact ⟨_, rfl⟩
      obtain ⟨pending', step⟩ := step
      change View.afterAll commands remainder (View.hear command { view with pending }) = _
      rw [step]
      exact inductionHypothesis _ _

theorem View.afterAll_append
    (first second : List Str)
    (rest remainder : List UInt8)
    (view : View σ) :
    View.afterAll second remainder { view.hearAll first with pending := rest } =
      view.afterAll (first ++ second) remainder := by
  rw [View.afterAll_forgets, View.afterAll, View.afterAll, View.hearAll, View.hearAll,
    View.hearAll, List.foldl_append]

/-- An answering server delivers its answers, and nothing more. -/
theorem delivers_answers [AnsweringServer τ]
    {commands : List Str}
    (harmless : ∀ (server : τ) command, (AnsweringServer.answer server command).2.IsHarmless)
    (kind : ∀ command ∈ commands, isMultiLine (utf8 command) = multiLine)
    (dialogue : Dialogue τ) :
    Delivers multiLine ((Dialogue.askAll commands dialogue).1.map (Answer.encode multiLine))
      commands dialogue.view [] := by
  induction commands generalizing dialogue with
  | nil => rfl
  | cons command commands inductionHypothesis =>
      have heard := dialogue.hear_view command
      rw [kind command List.mem_cons_self] at heard
      refine ⟨(Answer.isClearReply_encode _ (harmless _ _)).isSeen, [],
        (congrArg View.pending heard).trans (List.append_nil _).symm, ?_⟩
      · rw [heard]
        exact inductionHypothesis
          (fun other member => kind other (List.mem_cons_of_mem _ member)) _

theorem Delivers.length_eq
    {replies : List (List UInt8)}
    {commands : List Str}
    {view : View σ}
    {remainder : List UInt8}
    (delivers : Delivers multiLine replies commands view remainder) :
    replies.length = commands.length := by
  induction replies generalizing commands view with
  | nil =>
      cases commands with
      | nil => rfl
      | cons => exact delivers.elim
  | cons reply replies inductionHypothesis =>
      cases commands with
      | nil => exact delivers.elim
      | cons command commands =>
          obtain ⟨_, rest, _, more⟩ := delivers
          exact congrArg Nat.succ (inductionHypothesis more)

theorem Delivers.isWhole
    {replies : List (List UInt8)}
    {commands : List Str}
    {view : View σ}
    {remainder : List UInt8}
    (delivers : Delivers multiLine replies commands view remainder) :
    ∀ reply ∈ replies, IsSeenReply multiLine reply := by
  induction replies generalizing commands view with
  | nil => exact fun reply member => nomatch member
  | cons reply replies inductionHypothesis =>
      cases commands with
      | nil => exact delivers.elim
      | cons command commands =>
          obtain ⟨whole, rest, _, more⟩ := delivers
          exact List.forall_mem_cons.mpr ⟨whole, inductionHypothesis more⟩

/-- Commands that are heard together have their replies one behind the other. -/
theorem Delivers.hearAll
    {replies : List (List UInt8)}
    {first second : List Str}
    {view : View σ}
    {remainder : List UInt8}
    (delivers : Delivers multiLine replies (first ++ second) view remainder) :
    ∃ now later rest, replies = now ++ later ∧ now.length = first.length ∧
      (view.hearAll first).pending = now.flatten ++ rest ∧
      Delivers multiLine later second { view.hearAll first with pending := rest } remainder := by
  induction first generalizing replies view with
  | nil => exact ⟨[], replies, view.pending, rfl, rfl, rfl, delivers⟩
  | cons command first inductionHypothesis =>
      cases replies with
      | nil => exact delivers.elim
      | cons reply replies =>
          obtain ⟨_, behind, pending, more⟩ := delivers
          obtain ⟨now, later, rest, rfl, lengths, pending', more'⟩ := inductionHypothesis more
          have together : view.hear command = { ({ view.hear command with pending := behind } :
              View σ) with pending := reply ++ behind } := by
            rw [← pending]
          have heard := View.hearAll_behind reply first
            ({ view.hear command with pending := behind } : View σ)
          rw [← together] at heard
          refine ⟨reply :: now, later, rest, rfl, congrArg Nat.succ lengths, ?_, ?_⟩
          · change ((view.hear command).hearAll first).pending = _
            rw [heard, pending', List.flatten_cons, List.append_assoc]
          · change Delivers multiLine later second
              { (view.hear command).hearAll first with pending := rest } remainder
            rw [heard]
            exact more'

end Streams

/-! ## The receive phase of a window -/

section Draining

variable {multiLine : Bool} {receive : Action Pop3Error (View σ) α}
  {result : List UInt8 → Except Pop3Error α}

/-- One reply of text is drained, and the loop goes on. -/
theorem drainWindow_of_text
    (takes : TakesReplies multiLine receive result)
    {reply rest : List UInt8}
    (whole : IsSeenReply multiLine reply)
    (isText : IsUtf8 reply)
    {view : View σ}
    (pending : view.pending = reply ++ rest)
    (messageId : UInt32)
    (window : List UInt32) :
    drainWindow receive (messageId :: window) view =
      (do
        let drained ← drainWindow receive window
        return (result reply :: drained.1, drained.2) : Action Pop3Error (View σ) _)
        { view with pending := rest } := by
  obtain ⟨same, after⟩ := takes.text reply whole isText view rest pending
  rw [drainWindow_goesOn same (takes.isServerLevel reply · whole isText), after]

/-- Replies of text are all drained. -/
theorem drainWindow_of_texts
    (takes : TakesReplies multiLine receive result)
    {window : List UInt32}
    {replies : List (List UInt8)}
    (whole : ∀ reply ∈ replies, IsSeenReply multiLine reply)
    (isText : ∀ reply ∈ replies, IsUtf8 reply)
    (lengths : replies.length = window.length)
    {view : View σ}
    {rest : List UInt8}
    (pending : view.pending = replies.flatten ++ rest) :
    drainWindow receive window view =
      .ok (replies.map result, true) { view with pending := rest } := by
  induction window generalizing replies view with
  | nil =>
      have nothing : replies = [] := List.length_eq_zero_iff.mp lengths
      subst nothing
      have same : view.pending = rest := pending
      rw [← same]
      rfl
  | cons messageId window inductionHypothesis =>
      obtain ⟨reply, replies, rfl⟩ := List.exists_cons_of_length_eq_add_one lengths
      obtain ⟨wholeFirst, whole⟩ := List.forall_mem_cons.mp whole
      obtain ⟨isTextFirst, isText⟩ := List.forall_mem_cons.mp isText
      rw [List.flatten_cons, List.append_assoc] at pending
      rw [drainWindow_of_text takes wholeFirst isTextFirst pending,
        bind_of_ok (inductionHypothesis whole isText (Nat.succ.inj lengths) rfl)]
      rfl

/-- The first reply that is not text stops the loop. -/
theorem drainWindow_of_octets
    (takes : TakesReplies multiLine receive result)
    {window : List UInt32}
    {good : List (List UInt8)}
    {bad rest : List UInt8}
    (whole : ∀ reply ∈ good, IsSeenReply multiLine reply)
    (isText : ∀ reply ∈ good, IsUtf8 reply)
    (wholeBad : IsSeenReply multiLine bad)
    (invalid : ¬IsUtf8 bad)
    (shorter : good.length < window.length)
    {view : View σ}
    (pending : view.pending = good.flatten ++ (bad ++ rest)) :
    returned (drainWindow receive window view) = .ok (good.map result, false) := by
  induction window generalizing good view with
  | nil => exact absurd shorter (Nat.not_lt_zero _)
  | cons messageId window inductionHypothesis =>
      cases good with
      | nil =>
          rw [drainWindow_stops (takes.octets bad wholeBad invalid view rest pending) rfl]
          rfl
      | cons reply good =>
          obtain ⟨wholeFirst, whole⟩ := List.forall_mem_cons.mp whole
          obtain ⟨isTextFirst, isText⟩ := List.forall_mem_cons.mp isText
          rw [List.flatten_cons, List.append_assoc] at pending
          have drained := inductionHypothesis whole isText (Nat.lt_of_succ_lt_succ shorter)
            (show ({ view with pending := good.flatten ++ (bad ++ rest) } : View σ).pending = _
              from rfl)
          rw [drainWindow_of_text takes wholeFirst isTextFirst pending,
            bind_of_ok (eq_ok_of_returned drained)]
          rfl

end Draining

/-! ## Replies that are not text -/

section Octets

variable [Server σ] {multiLine : Bool} {verb : Str} {receive : Action Pop3Error (View σ) α}
  {result : List UInt8 → Except Pop3Error α} {good later : List (List UInt8)} {bad : List UInt8}

/-- One command at a time, the first reply that is not text is reported as such. -/
theorem sequentially_of_octets
    (takes : TakesReplies multiLine receive result)
    {ideal : UInt32 → Action Pop3Error (View σ) α}
    {ids : List UInt32}
    (asks : ∀ messageId ∈ ids, ∀ view,
      ideal messageId view = receive (view.hear (commandFor verb messageId)))
    {view : View σ}
    {remainder : List UInt8}
    (delivers : Delivers multiLine (good ++ bad :: later) (ids.map (commandFor verb)) view
      remainder)
    (isText : ∀ reply ∈ good, IsUtf8 reply)
    (invalid : ¬IsUtf8 bad) :
    ∃ items, returned (sequentially ideal ids view) = .ok items ∧
      items[good.length]? = some (.error (.io invalidUtf8)) := by
  induction ids generalizing good view with
  | nil => cases good <;> exact delivers.elim
  | cons messageId ids inductionHypothesis =>
      have first := asks messageId List.mem_cons_self view
      obtain ⟨others, rest⟩ := sequentially_isOk ideal ids (finalState (ideal messageId view))
      cases good with
      | nil =>
          obtain ⟨whole, behind, pending, _⟩ := delivers
          have stops := takes.octets bad whole invalid _ behind pending
          refine ⟨returned (ideal messageId view) :: others, ?_, ?_⟩
          · rw [sequentially, bind_of_ok (attempt_apply _ _), bind_of_ok (eq_ok_of_returned rest)]
            rfl
          · rw [first, stops]
            rfl
      | cons reply good =>
          obtain ⟨whole, behind, pending, more⟩ := delivers
          obtain ⟨isTextFirst, isText⟩ := List.forall_mem_cons.mp isText
          obtain ⟨_, after⟩ := takes.text reply whole isTextFirst _ behind pending
          obtain ⟨items, run, found⟩ := inductionHypothesis
            (fun other member => asks other (List.mem_cons_of_mem _ member)) more isText
          refine ⟨returned (ideal messageId view) :: items, ?_, found⟩
          rw [sequentially, bind_of_ok (attempt_apply _ _), first, after,
            bind_of_ok (eq_ok_of_returned run)]
          rfl

/-- Window by window, it is reported as a lost connection. -/
theorem pipelined_of_octets
    (takes : TakesReplies multiLine receive result)
    {windows : List (List UInt32)}
    {view : View σ}
    {remainder : List UInt8}
    (delivers : Delivers multiLine (good ++ bad :: later)
      (windows.flatten.map (commandFor verb)) view remainder)
    (isText : ∀ reply ∈ good, IsUtf8 reply)
    (invalid : ¬IsUtf8 bad) :
    ∃ items, returned (pipelined (View.hearWindow verb) receive windows view) = .ok items ∧
      items[good.length]? = some (.error .connectionClosed) := by
  induction windows generalizing good view with
  | nil => cases good <;> exact delivers.elim
  | cons window windows inductionHypothesis =>
      have lengths := delivers.length_eq
      have isWhole := delivers.isWhole
      rw [List.flatten_cons, List.map_append] at delivers
      obtain ⟨now, next, rest, same, nowLength, pending, more⟩ := delivers.hearAll
      rw [List.length_map] at nowLength
      have sent : View.hearWindow verb window view =
          .ok () (view.hearAll (window.map (commandFor verb))) := rfl
      have goesOn : ∀ both, good = now ++ both → next = both ++ bad :: later →
          ∃ items, returned (pipelined (View.hearWindow verb) receive (window :: windows) view) =
              .ok items ∧
            items[good.length]? = some (.error .connectionClosed) := by
        rintro both rfl rfl
        have drained := drainWindow_of_texts takes
          (fun reply member => isWhole reply (by simp [member]))
          (fun reply member => isText reply (List.mem_append_left _ member)) nowLength pending
        obtain ⟨items, run, found⟩ := inductionHypothesis more
          fun reply member => isText reply (List.mem_append_right _ member)
        refine ⟨now.map result ++ items, ?_, ?_⟩
        · rw [pipelined_of_drained sent drained, returned_bind_pure, run]
          rfl
        · rw [List.length_append, List.getElem?_append_right (by simp), List.length_map,
            Nat.add_sub_cancel_left]
          exact found
      rcases List.append_eq_append_iff.mp same with ⟨both, here, tail⟩ | ⟨both, here, tail⟩
      · cases both with
        | nil => exact goesOn [] (by rw [List.append_nil] at here ⊢; exact here.symm) tail.symm
        | cons reply both =>
            obtain ⟨rfl, rfl⟩ := List.cons.inj tail
            have shorter : good.length < window.length := by
              rw [← nowLength, here, List.length_append, List.length_cons]
              omega
            rw [here, List.flatten_append, List.flatten_cons, List.append_assoc,
              List.append_assoc] at pending
            have drained := drainWindow_of_octets takes
              (fun reply member => isWhole reply (by simp [member])) isText
              (isWhole bad (by simp)) invalid shorter pending
            rw [pipelined_of_cut sent (eq_ok_of_returned drained)]
            refine ⟨_, rfl, ?_⟩
            have some_left : good.length < (window :: windows).flatten.length := by
              rw [List.flatten_cons, List.length_append]
              omega
            rw [List.getElem?_append_right (by simp), List.length_map, Nat.sub_self, fillUp,
              List.getElem?_replicate, if_pos (by omega)]
      · exact goesOn both here tail

end Octets

/-! ## Replies of text -/

/-- The client serves the view, and these are the bytes it has written. -/
def Notes (client : Pop3Client σ) (noted : View σ × List UInt8) : Prop :=
  Serves calm client noted.1 ∧ writtenBytes client.transport.net.trace = noted.2

/-- Nothing waits to be written between two operations. -/
theorem Serves.handed_eq
    {client : Pop3Client σ}
    {view : View σ}
    (serves : Serves calm client view) :
    client.transport.handed = writtenBytes client.transport.net.trace := by
  rw [Transport.handed, serves.shows.unflushed, List.append_nil]

/-- The action hands these bytes to the writer of a client that serves the view. -/
def HandsFrom (view : View σ) (bytes : List UInt8) (action : Action ε (Pop3Client σ) α) : Prop :=
  ∀ client, Serves calm client view →
    (finalState (action client)).transport.handed = client.transport.handed ++ bytes

theorem Gives.noting
    {action : Action ε (Pop3Client σ) α}
    {before after : View σ}
    {result : Except ε α}
    {bytes : List UInt8}
    (gives : Gives (Serves calm) Escapes.none action before result after)
    (hands : HandsFrom before bytes action)
    (written : List UInt8) :
    Gives Notes Escapes.none action (before, written) result (after, written ++ bytes) := by
  rintro client ⟨serves, same⟩
  obtain ⟨returns, serves'⟩ := gives.of_none serves
  have handed := hands client serves
  rw [serves.handed_eq, serves'.handed_eq, same] at handed
  exact .inl ⟨returns, serves', handed⟩

/-- What happens behind an action that hands over the bytes. -/
theorem HandsFrom.bind
    {view : View σ}
    {bytes : List UInt8}
    {action : Action ε (Pop3Client σ) α}
    {next : α → Action ε (Pop3Client σ) β}
    (hands : HandsFrom view bytes action)
    (silent : ∀ value handed,
      Preserves (fun client => client.transport.handed = handed) (next value)) :
    HandsFrom view bytes (action >>= next) :=
  fun client serves => Preserves.finalState_bind (hands client serves) fun value => silent value _

theorem silent_readLine (handed : List UInt8) :
    Preserves (fun client : Pop3Client σ => client.transport.handed = handed)
      (transportField.run Transport.readLine) :=
  Preserves.onTransport fun transport same => (Transport.handed_readLine transport).trans same

theorem silent_readBody (handed : List UInt8) :
    Preserves (fun client : Pop3Client σ => client.transport.handed = handed) readBody :=
  Preserves.onTransport (preserves_readMultiline fun transport same =>
    (Transport.handed_readLine transport).trans same)

section Sending

variable [Server σ]

/-- An exchange hands over its command. -/
theorem handsFrom_sendAndCheck
    {command : Str}
    (noFeed : '\n' ∉ command)
    (view : View σ) :
    HandsFrom view (commandLines [command]) (sendAndCheck command) := by
  have sends : HandsFrom view (commandLines [command])
      (transportField.run (Transport.sendCommand command) : ClientM σ Unit) := by
    intro client serves
    have gives : Gives (Shows calm) (mishaps calm) (Transport.sendCommand command) view _ _ :=
      sendCommand_gives noFeed (by simp [calm])
    rw [mishaps_calm] at gives
    obtain ⟨part, _, same, whole⟩ := Transport.hands_sendCommand command client.transport
    rw [Field.finalState_run, ← whole () (gives.of_none serves.shows).1]
    exact same
  exact sends.bind fun _ handed =>
    .bind (silent_readLine handed) fun _ => .ofResult _

/-- A window that is sent hands over all its commands. -/
theorem handsFrom_sendWindow
    {verb : Str}
    (noFeed : '\n' ∉ verb)
    (window : List UInt32)
    (view : View σ) :
    HandsFrom view (commandLines (window.map (commandFor verb)))
      (attempt (transportField.run (sendWindow verb window)) :
        ClientM σ (Except IoError Unit)) := by
  intro client serves
  have gives : Gives (Serves calm) (clientMishaps calm)
      (attempt (transportField.run (sendWindow verb window))) view _ _ :=
    attempt_sendWindow_gives noFeed (by simp [calm]) window
  rw [clientMishaps_calm] at gives
  have sent := (gives.of_none serves).1
  rw [attempt_apply, returned_ok, Field.returned_run] at sent
  obtain ⟨part, _, same, whole⟩ := Transport.hands_sendWindow verb window client.transport
  rw [finalState_attempt, Field.finalState_run, ← whole () (Except.ok.inj sent)]
  exact same

variable {multiLine : Bool} {verb : Str} {ideal : Action Pop3Error (View σ) α}
  {result : List UInt8 → Except Pop3Error α} {replies : List (List UInt8)}
  {remainder : List UInt8}

/-- The operation sends one command and takes its reply. -/
def Operates (verb : Str) (operation : UInt32 → ClientM σ α)
    (ideal : Action Pop3Error (View σ) α) : Prop :=
  ∀ messageId, messageId ≠ 0 → ∀ view,
    Gives (Serves calm) Escapes.none (operation messageId) view
        (returned (ideal (view.hear (commandFor verb messageId))))
        (finalState (ideal (view.hear (commandFor verb messageId)))) ∧
      HandsFrom view (commandLines [commandFor verb messageId]) (operation messageId)

/-- One command at a time, replies of text give their results. -/
theorem sequentially_gives
    (takes : TakesReplies multiLine ideal result)
    {operation : UInt32 → ClientM σ α}
    (operates : Operates verb operation ideal)
    {ids : List UInt32}
    (valid : ∀ messageId ∈ ids, messageId ≠ 0)
    {view : View σ}
    (delivers : Delivers multiLine replies (ids.map (commandFor verb)) view remainder)
    (isText : ∀ reply ∈ replies, IsUtf8 reply)
    (written : List UInt8) :
    Gives Notes Escapes.none (sequentially operation ids) (view, written)
      (.ok (replies.map result))
      (view.afterAll (ids.map (commandFor verb)) remainder,
        written ++ commandLines (ids.map (commandFor verb))) := by
  induction ids generalizing replies view written with
  | nil =>
      cases replies with
      | nil =>
          have same : view.pending = remainder := delivers
          rw [← same]
          have nothing : written ++ commandLines ([].map (commandFor verb)) = written :=
            List.append_nil _
          rw [nothing]
          exact .pure []
      | cons => exact delivers.elim
  | cons messageId ids inductionHypothesis =>
      cases replies with
      | nil => exact delivers.elim
      | cons reply replies =>
          obtain ⟨whole, behind, pending, more⟩ := delivers
          obtain ⟨isTextFirst, isText⟩ := List.forall_mem_cons.mp isText
          obtain ⟨validFirst, valid⟩ := List.forall_mem_cons.mp valid
          obtain ⟨gives, hands⟩ := operates messageId validFirst view
          obtain ⟨same, after⟩ := takes.text reply whole isTextFirst _ behind pending
          have noted := Gives.noting gives hands written
          rw [same, after] at noted
          have rest := inductionHypothesis valid more isText
            (written ++ commandLines [commandFor verb messageId])
          have lines : commandLines ((messageId :: ids).map (commandFor verb)) =
              commandLines [commandFor verb messageId] ++
                commandLines (ids.map (commandFor verb)) :=
            commandLines_append [commandFor verb messageId] _
          have ending : View.afterAll (ids.map (commandFor verb)) remainder
                { view.hear (commandFor verb messageId) with pending := behind } =
              view.afterAll ((messageId :: ids).map (commandFor verb)) remainder :=
            view.afterAll_append [commandFor verb messageId] _ behind remainder
          rw [ending, List.append_assoc, ← lines] at rest
          refine Gives.bind (noted.attempt (fun _ _ stuck => stuck) fun _ gone => gone) ?_
            fun _ _ gone => gone.elim
          exact rest.bind (.pure (result reply :: replies.map result)) fun _ => .pure _

/-- Window by window, replies of text give the same results. -/
theorem pipelined_gives_texts
    (takes : TakesReplies multiLine ideal result)
    (noFeed : '\n' ∉ verb)
    {receive : ClientM σ α}
    (follows : Follows (Serves calm) (clientMishaps calm) receive ideal)
    (silent : ∀ handed, Preserves (fun client => client.transport.handed = handed) receive)
    {windows : List (List UInt32)}
    {view : View σ}
    (delivers : Delivers multiLine replies (windows.flatten.map (commandFor verb)) view remainder)
    (isText : ∀ reply ∈ replies, IsUtf8 reply)
    (written : List UInt8) :
    Gives Notes Escapes.none
      (pipelined (fun window => transportField.run (sendWindow verb window)) receive windows)
      (view, written) (.ok (replies.map result))
      (view.afterAll (windows.flatten.map (commandFor verb)) remainder,
        written ++ commandLines (windows.flatten.map (commandFor verb))) := by
  induction windows generalizing replies view written with
  | nil =>
      cases replies with
      | nil =>
          have same : view.pending = remainder := delivers
          rw [← same]
          have nothing : written ++ commandLines (([] : List (List UInt32)).flatten.map
              (commandFor verb)) = written :=
            List.append_nil _
          rw [nothing]
          exact .pure []
      | cons => exact delivers.elim
  | cons window windows inductionHypothesis =>
      have isWhole := delivers.isWhole
      rw [List.flatten_cons, List.map_append] at delivers ⊢
      obtain ⟨now, later, rest, rfl, lengths, pending, more⟩ := delivers.hearAll
      rw [List.length_map] at lengths
      have sent : Gives (Serves calm) (clientMishaps calm)
          (attempt (transportField.run (sendWindow verb window))) view _ _ :=
        attempt_sendWindow_gives noFeed (by simp [calm]) window
      have drained := drainWindow_follows (neverStuck_of_punctual rfl)
        (fun _ gone => absurd gone.1 Bool.false_ne_true) follows window
        (view.hearAll (window.map (commandFor verb)))
      rw [drainWindow_of_texts takes (fun reply member => isWhole reply (by simp [member]))
        (fun reply member => isText reply (List.mem_append_left _ member)) lengths pending]
        at drained
      rw [clientMishaps_calm] at sent drained
      have sentNoted := Gives.noting sent (handsFrom_sendWindow noFeed window view) written
      have drainedNoted := Gives.noting drained
        (fun client _ => (preserves_drainWindow (silent _) window client rfl).trans
          (List.append_nil _).symm)
        (written ++ commandLines (window.map (commandFor verb)))
      have rest := inductionHypothesis more
        (fun reply member => isText reply (List.mem_append_right _ member))
        (written ++ commandLines (window.map (commandFor verb)))
      rw [View.afterAll_append, List.append_assoc, ← commandLines_append] at rest
      rw [List.append_nil] at drainedNoted
      refine Gives.bind sentNoted ?_ fun _ _ gone => gone.elim
      refine drainedNoted.bind ?_ fun _ _ gone => gone.elim
      rw [List.map_append]
      exact rest.bind (.pure (now.map result ++ later.map result)) fun _ => .pure _

end Sending

/-! ## Both ways -/

/-- The client, with or without pipelining. -/
def Pop3Client.withPipelining (isPipelining : Bool) (client : Pop3Client σ) : Pop3Client σ :=
  { client with isPipelining }

/-- With and without pipelining the batch returns one result for each id, the same ones,
writes the same bytes, and leaves the same bytes unread. -/
structure ModesAgree (many : List UInt32 → ClientM σ (Items α)) (ids : List UInt32)
    (client : Pop3Client σ) : Prop where
  results : ∃ items : Items α, items.length = ids.length ∧
    returned (many ids (client.withPipelining true)) = .ok items ∧
    returned (many ids (client.withPipelining false)) = .ok items
  written :
    writtenBytes (finalState (many ids (client.withPipelining true))).transport.net.trace =
      writtenBytes (finalState (many ids (client.withPipelining false))).transport.net.trace
  unread :
    (finalState (many ids (client.withPipelining true))).transport.pending =
      (finalState (many ids (client.withPipelining false))).transport.pending

/-- A batch of valid ids goes one of the two ways. -/
theorem many_withPipelining
    {sequential inPipeline : List UInt32 → ClientM σ (Items α)}
    (noneAlone : sequential [] = pure [])
    (noneTogether : inPipeline [] = pure [])
    {client : Pop3Client σ}
    (isAuthenticated : client.state = .authenticated)
    {ids : List UInt32}
    (valid : ∀ messageId ∈ ids, messageId ≠ 0)
    (isPipelining : Bool) :
    many sequential inPipeline ids (client.withPipelining isPipelining) =
      (if isPipelining then inPipeline ids else sequential ids)
        (client.withPipelining isPipelining) := by
  rw [many, requireAuth_bind (by exact isAuthenticated),
    (validateMessageIds_eq_ok_iff ids).mpr valid, ofResult_ok_bind]
  by_cases empty : ids = []
  · subst empty
    rw [if_pos rfl, noneAlone, noneTogether]
    cases isPipelining <;> rfl
  · rw [if_neg empty, gets_bind_apply]
    rfl

section Both

variable [Server σ] {multiLine : Bool} {verb : Str} {ideal : Action Pop3Error (View σ) α}
  {result : List UInt8 → Except Pop3Error α} {replies : List (List UInt8)}
  {remainder : List UInt8} {ids : List UInt32} {client : Pop3Client σ}

/-- The two ways agree exactly if every reply is text. -/
theorem modesAgree_iff
    (takes : TakesReplies multiLine ideal result)
    (noFeed : '\n' ∉ verb)
    {operation : UInt32 → ClientM σ α}
    (operates : Operates verb operation ideal)
    {receive : ClientM σ α}
    (program : Program True receive)
    (follows : Follows (Serves calm) (clientMishaps calm) receive ideal)
    (silent : ∀ handed, Preserves (fun client => client.transport.handed = handed) receive)
    {asked : UInt32 → Action Pop3Error (View σ) α}
    (asks : ∀ messageId ∈ ids, ∀ view,
      asked messageId view = ideal (view.hear (commandFor verb messageId)))
    (alone : Follows (Serves calm) Escapes.none (sequentially operation ids)
      (sequentially asked ids))
    {inPipeline : List UInt32 → ClientM σ (Items α)}
    (together : ∀ ids, inPipeline ids = pipelined
      (fun window => transportField.run (sendWindow verb window)) receive
      (chunks pipelineWindow ids))
    (ready : Ready calm client.transport)
    (isAuthenticated : client.state = .authenticated)
    (valid : ∀ messageId ∈ ids, messageId ≠ 0)
    (delivers : Delivers multiLine replies (ids.map (commandFor verb)) client.transport.view
      remainder) :
    ModesAgree (many (sequentially operation) inPipeline) ids client ↔
      ∀ reply ∈ replies, IsUtf8 reply := by
  have serves : ∀ flag, Serves calm (client.withPipelining flag) client.transport.view :=
    fun _ => ⟨ready.shows, isAuthenticated⟩
  have inWindows : Delivers multiLine replies
      ((chunks pipelineWindow ids).flatten.map (commandFor verb)) client.transport.view
      remainder := by
    rwa [chunks_flatten]
  have goes : ∀ flag, many (sequentially operation) inPipeline ids (client.withPipelining flag) =
      (if flag then inPipeline ids else sequentially operation ids)
        (client.withPipelining flag) :=
    many_withPipelining rfl (together []) isAuthenticated valid
  have goesAlone := goes false
  have goesTogether := goes true
  rw [if_pos rfl, together] at goesTogether
  rw [if_neg Bool.false_ne_true] at goesAlone
  constructor
  · intro agree
    by_contra notText
    obtain ⟨good, bad, later, rfl, isText, invalid⟩ := exists_first_not notText
    obtain ⟨items, _, both, single⟩ := agree.results
    obtain ⟨itemsAlone, runAlone, foundAlone⟩ :=
      sequentially_of_octets takes asks delivers isText invalid
    obtain ⟨itemsTogether, runTogether, foundTogether⟩ :=
      pipelined_of_octets takes inWindows isText invalid
    rw [goesAlone, ((alone _).of_none (serves false)).1, runAlone] at single
    rw [goesTogether, ((pipelined_follows_view noFeed program follows _ _).of_none
      (serves true)).1, runTogether] at both
    rw [Except.ok.inj single] at foundAlone
    rw [Except.ok.inj both, foundAlone] at foundTogether
    cases foundTogether
  · intro isText
    have noted : ∀ flag, Notes (client.withPipelining flag)
        (client.transport.view, writtenBytes client.transport.net.trace) :=
      fun flag => ⟨serves flag, rfl⟩
    obtain ⟨returnsAlone, servesAlone, wroteAlone⟩ :=
      (sequentially_gives takes operates valid delivers isText _).of_none (noted false)
    obtain ⟨returnsTogether, servesTogether, wroteTogether⟩ :=
      (pipelined_gives_texts takes noFeed follows silent inWindows isText _).of_none (noted true)
    rw [chunks_flatten] at servesTogether wroteTogether
    rw [← goesAlone] at returnsAlone servesAlone wroteAlone
    rw [← goesTogether] at returnsTogether servesTogether wroteTogether
    have lengths := delivers.length_eq
    rw [List.length_map] at lengths
    exact
      { results := ⟨replies.map result, by rw [List.length_map, lengths], returnsTogether,
          returnsAlone⟩
        written := wroteTogether.trans wroteAlone.symm
        unread := servesTogether.shows.pending.trans servesAlone.shows.pending.symm }

theorem operates_retr : Operates "RETR ".toList (retr : UInt32 → ClientM σ Message)
    View.readRetrResponse := by
  intro messageId valid view
  have talks : Talks (clientMishaps calm) (Serves calm) (View.partner : Partner (View σ)) :=
    talks_view rfl
  have gives := talks.retr messageId view
  rw [retr_hear valid, clientMishaps_calm] at gives
  refine ⟨gives, fun client serves => ?_⟩
  rw [retr, requireAuth_bind serves.authenticated, validateMessageId_of_ne valid,
    ofResult_ok_bind]
  exact (handsFrom_sendAndCheck (noFeed_commandFor (by decide) messageId) view).bind
    (fun _ handed => .bind (silent_readBody handed) fun _ => .pure _) client serves

theorem operates_dele : Operates "DELE ".toList (dele : UInt32 → ClientM σ Unit)
    View.readDeleResponse := by
  intro messageId valid view
  have talks : Talks (clientMishaps calm) (Serves calm) (View.partner : Partner (View σ)) :=
    talks_view rfl
  have gives := talks.toExchanges.dele messageId view
  rw [dele_hear valid, clientMishaps_calm] at gives
  refine ⟨gives, fun client serves => ?_⟩
  rw [dele, requireAuth_bind serves.authenticated, validateMessageId_of_ne valid,
    ofResult_ok_bind]
  exact (handsFrom_sendAndCheck (noFeed_commandFor (by decide) messageId) view).bind
    (fun _ handed => .pure _) client serves

/-- Pipelined or not, a batch of `RETR` or `DELE` comes to the same exactly if every
reply that the stream brings is text. -/
theorem batches_agree_iff
    (ready : Ready calm client.transport)
    (isAuthenticated : client.state = .authenticated)
    (valid : ∀ messageId ∈ ids, messageId ≠ 0) :
    (∀ replies remainder, Delivers true replies (ids.map (commandFor "RETR ".toList))
      client.transport.view remainder →
        (ModesAgree retrMany ids client ↔ ∀ reply ∈ replies, IsUtf8 reply)) ∧
    (∀ replies remainder, Delivers false replies (ids.map (commandFor "DELE ".toList))
      client.transport.view remainder →
        (ModesAgree deleMany ids client ↔ ∀ reply ∈ replies, IsUtf8 reply)) := by
  constructor
  · intro replies remainder delivers
    exact modesAgree_iff takesReplies_retr (by decide) operates_retr program_readRetrResponse
      (readRetrResponse_follows calm)
      (fun handed => .bind (silent_readLine handed) fun _ => .bind (.ofResult _) fun _ =>
        .bind (silent_readBody handed) fun _ => .pure _)
      (fun messageId member => retr_hear (valid messageId member)) (sequentially_retr_follows ids)
      (fun _ => rfl) ready isAuthenticated valid delivers
  · intro replies remainder delivers
    exact modesAgree_iff takesReplies_dele (by decide) operates_dele program_readDeleResponse
      (readDeleResponse_follows calm)
      (fun handed => .bind (silent_readLine handed) fun _ => .bind (.ofResult _) fun _ => .pure _)
      (fun messageId member => dele_hear (valid messageId member)) (sequentially_dele_follows ids)
      (fun _ => rfl) ready isAuthenticated valid delivers

end Both

/-- A message in Latin-1 is an error of its own one command at a time, and a lost
connection in a window. -/
theorem exists_modes_not_agree :
    ¬∀ (client : Pop3Client SameAnswer) (ids : List UInt32) replies remainder,
      Ready calm client.transport → client.state = .authenticated →
      (∀ messageId ∈ ids, messageId ≠ 0) →
      Delivers true replies (ids.map (commandFor "RETR ".toList)) client.transport.view remainder →
        ModesAgree retrMany ids client := by
  intro always
  have delivers : Delivers true _ ([1].map (commandFor "RETR ".toList))
      (Dialogue.mk latinMessage []).view [] :=
    delivers_answers (fun server _ => server.plain.harmless) (by decide) _
  have agree := always (.idle latinMessage [] false) [1] _ _
    (inSync_idle (by simp) latinMessage false).shows.ready rfl (by simp) delivers
  obtain ⟨items, _, together, alone⟩ := agree.results
  have same := together.trans alone.symm
  revert same
  decide +kernel

/-- A server that sends an empty message, whatever it is asked. -/
def emptyMessage : SameAnswer where
  answer := { isPositive := true, text := .blank, body := [] }

/-- Two messages of text are got either way. -/
theorem modesAgree_emptyMessage :
    ModesAgree retrMany [1, 2] (.idle emptyMessage [] false) := by
  have delivers : Delivers true _ ([1, 2].map (commandFor "RETR ".toList))
      (Dialogue.mk emptyMessage []).view [] :=
    delivers_answers (fun server _ => server.plain.harmless) (by decide) _
  exact ((batches_agree_iff (inSync_idle (by simp) emptyMessage false).shows.ready rfl
    (by simp)).1 _ _ delivers).mpr (by decide +kernel)

end Pop3
