import Pop3.Agreement.Modes
import Pop3.Parsing.Listings
import Pop3.Reconnecting.Attempts

/-!
# Errors of complete replies

On a connection that delivers every reply, an action fails with a transient error
exactly if something that was replied to it is not text.
-/

namespace Pop3

open Rust Framing Pop3Client

/-! ## Temporary failures -/

/-- The reply is an error with the response code for a temporary failure. -/
def CarriesSysTemp (reply : List UInt8) : Prop :=
  ∃ blanks : Str, (∀ character ∈ blanks, isWhitespace character = true) ∧
    utf8 ("-ERR".toList ++ blanks ++ "[SYS/TEMP]".toList) <+: reply

/-- A text is read as a temporary failure for its response code. -/
theorem sysTemp_of_parseRespCode
    {text message : Str}
    (parsed : parseRespCode text = .sysTemp message) :
    "[SYS/TEMP]".toList <+: text := by
  unfold parseRespCode at parsed
  split at parsed
  · cases parsed
  · rename_i inner opened
    have front : text = "[".toList ++ inner := eq_of_stripPrefix opened
    split at parsed
    · cases parsed
    · rename_i offset found
      obtain ⟨code, rest, rfl, _, same⟩ := find_eq_some found
      subst same
      rw [sliceTo_append] at parsed
      have isCode : code = "SYS/TEMP".toList := by
        by_contra different
        simp only [different, ↓reduceIte] at parsed
        split at parsed
        · cases parsed
        · split at parsed
          · cases parsed
          · split at parsed
            · cases parsed
            · split at parsed <;> cases parsed
      exact ⟨rest, by rw [front, isCode]; simp⟩

/-- A status line is read as a temporary failure for its response code. -/
theorem sysTemp_of_parseStatusLine
    {line message : Str}
    (parsed : parseStatusLine line = .error (.sysTemp message)) :
    CarriesSysTemp (utf8 line) := by
  unfold parseStatusLine at parsed
  dsimp only at parsed
  split at parsed
  · cases parsed
  · split at parsed
    · rename_i negative
      have trimmed : Transport.trimLine line <+: line :=
        (trimEndMatches_begins _ _).trans (trimEndMatches_begins _ _)
      obtain ⟨suffix, same⟩ := prefix_of_hasKeyword negative
      simp only [← same, sliceFrom_append, Except.error.injEq] at parsed
      obtain ⟨blanks, isBlank, split⟩ := exists_trimStart suffix
      obtain ⟨rest, code⟩ := sysTemp_of_parseRespCode parsed
      obtain ⟨ending, whole⟩ := trimmed
      refine ⟨blanks, isBlank, utf8 (rest ++ ending), ?_⟩
      rw [← utf8_append, ← whole, Transport.trimLine, ← same, split, ← code]
      simp
    · cases parsed

/-! ## Errors of readers -/

namespace View

variable {view : View σ}

/-- A line that is read comes first. -/
theorem readLine_begins
    {line : Str}
    (read : returned view.readLine = .ok line) :
    utf8 line <+: view.pending := by
  unfold readLine at read
  have begins : ∀ bytes rest, nextLine view.isOpen view.pending = (.line bytes, rest) →
      bytes <+: view.pending := by
    intro bytes rest next
    unfold nextLine at next
    split at next
    · rename_i split
      obtain ⟨front, _, rfl, pending⟩ := Transport.splitFeed_eq_some split
      cases next
      exact ⟨rest, by rw [pending]; simp⟩
    · split at next
      · cases next
      · cases next
        exact List.prefix_rfl
  cases next : nextLine view.isOpen view.pending with
  | mk found rest =>
      rw [next] at read
      cases found with
      | timedOut lost => cases read
      | failed error => cases read
      | line bytes =>
          dsimp only at read
          cases decoded : fromUtf8 bytes with
          | none =>
              rw [decoded] at read
              cases read
          | some text =>
              rw [decoded] at read
              dsimp only at read
              split at read
              · cases read
              · cases read
                rw [utf8_of_fromUtf8_eq_some decoded]
                exact begins bytes rest next

/-- Reading a line fails only at the level of the connection. -/
theorem isIoLevel_readLine
    {error : Pop3Error}
    (fails : returned view.readLine = .error error) :
    isIoLevel error = true := by
  unfold readLine at fails
  split at fails
  · cases fails
    rfl
  · cases fails
    rfl
  · dsimp only at fails
    split at fails
    · cases fails
      rfl
    · split at fails
      · cases fails
        rfl
      · cases fails

theorem isIoLevel_readMultilineUpTo
    {error : Pop3Error}
    (rounds : Nat)
    (body : Str)
    {view : View σ}
    (fails : returned (readMultilineUpTo rounds body view) = .error error) :
    isIoLevel error = true := by
  induction rounds generalizing body view with
  | zero =>
      cases fails
      rfl
  | succ rounds inductionHypothesis =>
      rw [readMultilineUpTo] at fails
      cases run : view.readLine with
      | error first after =>
          rw [bind_of_error run] at fails
          cases fails
          exact isIoLevel_readLine (congrArg returned run)
      | ok line after =>
          rw [bind_of_ok run] at fails
          split at fails
          · cases fails
          · exact inductionHypothesis _ fails

/-- A status line says that there is a temporary failure. -/
theorem carriesSysTemp_of_readStatus
    {message : Str}
    (fails : returned view.readStatus = .error (.sysTemp message)) :
    CarriesSysTemp view.pending := by
  rw [readStatus] at fails
  cases run : view.readLine with
  | error error after =>
      rw [bind_of_error run] at fails
      cases fails
      have ioLevel := isIoLevel_readLine (congrArg returned run)
      cases ioLevel
  | ok line after =>
      rw [bind_of_ok run] at fails
      cases parsed : parseStatusLine line with
      | ok text =>
          rw [parsed] at fails
          cases fails
      | error error =>
          rw [parsed] at fails
          cases fails
          obtain ⟨blanks, isBlank, begins⟩ := sysTemp_of_parseStatusLine parsed
          exact ⟨blanks, isBlank, begins.trans (readLine_begins (congrArg returned run))⟩

theorem carriesSysTemp_of_readReply
    {message : Str}
    (fails : returned view.readReply = .error (.sysTemp message)) :
    CarriesSysTemp view.pending := by
  rw [readReply] at fails
  cases run : view.readStatus with
  | error error after =>
      rw [bind_of_error run] at fails
      cases fails
      exact carriesSysTemp_of_readStatus (congrArg returned run)
  | ok text after =>
      rw [bind_of_ok run] at fails
      have ioLevel := isIoLevel_readMultilineUpTo _ _ fails
      cases ioLevel

end View

/-- What is neither at the level of the connection nor a temporary failure is final. -/
theorem isRetryable_eq_false
    {error : Pop3Error}
    (serverLevel : isIoLevel error = false)
    (notTemporary : ∀ message, error ≠ .sysTemp message) :
    isRetryable error = false := by
  cases error with
  | sysTemp message => exact absurd rfl (notTemporary message)
  | io _ | connectionClosed | timeout => cases serverLevel
  | _ => rfl

/-! ## Connections in tune -/

/-- The server delivers every reply completely and keeps the connection, and no reply
is a temporary failure. -/
structure Delivering (σ : Type) [Server σ] : Prop where
  isWhole : ∀ (server : σ) command,
    IsWholeReply (isMultiLine command) (Server.respond server command).2.bytes
  stays : ∀ (server : σ) command, (Server.respond server command).2.close = false
  noSysTemp : ∀ (server : σ) command, ¬CarriesSysTemp (Server.respond server command).2.bytes

/-- The connection is open, nothing is unread, and only text has been replied. -/
structure InTune (start : List Event) (view : View σ) : Prop where
  isOpen : view.isOpen = true
  pending : view.pending = []
  spoken : SpokenSince start view.log

/-- The reply, if the event is one, is complete, and bare LFs in it do no harm. -/
def Event.IsClear : Event → Prop
  | .answered command reply => IsClearReply (isMultiLine command) reply
  | _ => True

/-- Something has been replied that is not good. -/
abbrev Met (good : Event → Prop) (start : List Event) (view : View σ) : Prop :=
  MetSince good start view.log

/-- An action that starts in tune either ends in tune with nothing that warrants a
reconnect, or has met a reply that is not text, and warrants one. -/
def Discerns (tuned garbled : S → Prop) (warrants : Except Pop3Error α → Bool)
    (action : Action Pop3Error S α) : Prop :=
  ∀ state, tuned state →
    (tuned (finalState (action state)) ∧ warrants (returned (action state)) = false) ∨
      (garbled (finalState (action state)) ∧ warrants (returned (action state)) = true)

/-- The action on the view of a connection does so, unless it has met a reply in which
bare LFs may do harm. -/
abbrev View.Discerns (start : List Event) (warrants : Except Pop3Error α → Bool)
    (action : Action Pop3Error (View σ) α) : Prop :=
  Pop3.Discerns (fun view => Met Event.IsClear start view ∨ InTune start view)
    (fun view => Met Event.IsClear start view ∨ Met Event.IsText start view) warrants action

section Meeting

variable {good : Event → Prop} {start : List Event}

theorem preserves_met_readLine :
    Preserves (Met good start) (View.readLine : Action Pop3Error (View σ) Str) := by
  intro view met
  unfold View.readLine
  split
  · exact met.append _
  · exact met
  · dsimp only
    split
    · exact met
    · split <;> exact met

theorem preserves_met_readStatus :
    Preserves (Met good start) (View.readStatus : Action Pop3Error (View σ) Str) :=
  .bind preserves_met_readLine fun _ => .ofResult _

theorem preserves_met_readMultilineUpTo (rounds : Nat) (body : Str) :
    Preserves (Met good start)
      (View.readMultilineUpTo rounds body : Action Pop3Error (View σ) Str) := by
  induction rounds generalizing body with
  | zero => exact .throw _
  | succ rounds inductionHypothesis =>
      refine .bind preserves_met_readLine fun line => ?_
      dsimp only
      split
      · exact .pure body
      · exact inductionHypothesis _

theorem preserves_met_readReply :
    Preserves (Met good start) (View.readReply : Action Pop3Error (View σ) Str) :=
  .bind preserves_met_readStatus fun _ view met =>
    preserves_met_readMultilineUpTo _ _ view met

theorem Met.hear [Server σ]
    {view : View σ}
    (met : Met good start view)
    (command : Str) :
    Met good start (view.hear command) := by
  unfold View.hear
  dsimp only
  split
  · exact met.append _
  · exact met

end Meeting

namespace Discerns

variable {S : Type} {tuned garbled : S → Prop} {warrants : Except Pop3Error β → Bool}

theorem bind
    {action : Action Pop3Error S α}
    {next : α → Action Pop3Error S β}
    (first : Discerns tuned garbled failsTransiently action)
    (errors : ∀ error, warrants (.error error) = isRetryable error)
    (rest : ∀ value, Discerns tuned garbled warrants (next value)) :
    Discerns tuned garbled warrants (action >>= next) := by
  intro state isTuned
  have before := first state isTuned
  cases run : action state with
  | ok value after =>
      rw [run] at before
      rw [bind_of_ok run]
      rcases before with ⟨isTuned', _⟩ | ⟨_, failed⟩
      · exact rest value after isTuned'
      · cases failed
  | error error after =>
      rw [run] at before
      rw [bind_of_error run, returned_error, errors]
      exact before

theorem ofResult
    {result : Except Pop3Error β}
    (final : warrants result = false) :
    Discerns tuned garbled warrants (Rust.ofResult result) := by
  intro state isTuned
  cases result <;> exact .inl ⟨isTuned, final⟩

theorem pure
    {value : β}
    (final : warrants (.ok value) = false) :
    Discerns tuned garbled warrants (Pure.pure value) :=
  fun _ isTuned => .inl ⟨isTuned, final⟩

/-- Where bare LFs may have done harm, a reconnect may be warranted or not. -/
theorem of_blurred
    {blurred isTuned isGarbled : Prop}
    {warranted : Bool}
    (isBlurred : blurred) :
    ((blurred ∨ isTuned) ∧ warranted = false) ∨ ((blurred ∨ isGarbled) ∧ warranted = true) := by
  cases warranted with
  | false => exact .inl ⟨.inl isBlurred, rfl⟩
  | true => exact .inr ⟨.inl isBlurred, rfl⟩

/-- What is made of values does not change which errors warrant a reconnect. -/
theorem wrap
    {action : Action Pop3Error S α}
    {first : Except Pop3Error α → Bool}
    (discerns : Discerns tuned garbled first action)
    {wrap : α → β}
    (same : ∀ result, warrants (result.map wrap) = first result) :
    Discerns tuned garbled warrants (do return wrap (← action)) := by
  intro state isTuned
  rw [finalState_bind_pure, returned_bind_pure, same]
  exact discerns state isTuned

end Discerns

/-! ## Exchanges -/

section Exchanging

variable [Server σ] {start : List Event} {command : Str}

/-- Each command is answered by one complete reply. -/
theorem View.hear_delivers
    (delivering : Delivering σ)
    {view : View σ}
    (isOpen : view.isOpen = true)
    (pending : view.pending = [])
    (command : Str) :
    ∃ reply, IsWholeReply (isMultiLine (utf8 command)) reply ∧ ¬CarriesSysTemp reply ∧
      (view.hear command).pending = reply ∧ (view.hear command).isOpen = true ∧
      (view.hear command).log = view.log ++ [.answered (utf8 command) reply] := by
  obtain ⟨server, bytes, wasOpen, isClosed, log⟩ := view
  dsimp only at isOpen pending
  subst isOpen pending
  refine ⟨(Server.respond server (utf8 command)).2.bytes, delivering.isWhole _ _,
    delivering.noSysTemp _ _, rfl, ?_, rfl⟩
  simp [View.hear, delivering.stays]

omit [Server σ] in
/-- Another reply of text goes on what has been said. -/
theorem SpokenSince.answered
    {log : List Event}
    (spoken : SpokenSince start log)
    {reply : List UInt8}
    (isText : IsUtf8 reply)
    (command : List UInt8) :
    SpokenSince start (log ++ [.answered command reply]) := by
  refine spoken.append fun event member => ?_
  rw [List.mem_singleton] at member
  rw [member]
  exact isText

omit [Server σ] in
/-- What a reader makes of a reply of text is final. -/
theorem final_of_takes
    {multiLine : Bool}
    {receive : Action Pop3Error (View σ) α}
    {result : List UInt8 → Except Pop3Error α}
    (takes : TakesReplies multiLine receive result)
    (temporary : ∀ view message, returned (receive view) = .error (.sysTemp message) →
      CarriesSysTemp view.pending)
    {reply : List UInt8}
    (isSeen : IsSeenReply multiLine reply)
    (noSysTemp : ¬CarriesSysTemp reply)
    (isText : IsUtf8 reply)
    (view : View σ) :
    failsTransiently (result reply) = false := by
  have only : ({ view with pending := reply } : View σ).pending = reply ++ [] :=
    (List.append_nil _).symm
  obtain ⟨same, _⟩ := takes.text reply isSeen isText _ [] only
  cases outcome : result reply with
  | ok value => rfl
  | error error =>
      have serverLevel := takes.isServerLevel reply error isSeen isText outcome
      refine isRetryable_eq_false serverLevel fun message isTemporary => noSysTemp ?_
      exact temporary { view with pending := reply } message
        (by rw [same, outcome, isTemporary])

/-- Whoever takes replies discerns the replies to its commands. -/
theorem discerns_of_takes
    (delivering : Delivering σ)
    {multiLine : Bool}
    {receive : Action Pop3Error (View σ) α}
    {result : List UInt8 → Except Pop3Error α}
    (takes : TakesReplies multiLine receive result)
    (keeps : ∀ good, Preserves (Met good start) receive)
    (temporary : ∀ view message, returned (receive view) = .error (.sysTemp message) →
      CarriesSysTemp view.pending)
    (kind : isMultiLine (utf8 command) = multiLine) :
    View.Discerns start failsTransiently fun view => receive (view.hear command) := by
  rintro view (blurred | tuned)
  · exact Discerns.of_blurred (keeps _ _ (blurred.hear command))
  obtain ⟨reply, _, noSysTemp, pending, isOpen, log⟩ :=
    View.hear_delivers delivering tuned.isOpen tuned.pending command
  have meets : ∀ {good : Event → Prop}, ¬good (.answered (utf8 command) reply) →
      Met good start (finalState (receive (view.hear command))) := by
    intro good notGood
    refine keeps _ _ ?_
    rw [Met, log]
    exact tuned.spoken.met (List.mem_singleton_self _) notGood
  by_cases isClear : (Event.answered (utf8 command) reply).IsClear
  · have isSeen : IsSeenReply multiLine reply := by
      rw [Event.IsClear, kind] at isClear
      exact isClear.isSeen
    have only : (view.hear command).pending = reply ++ [] := by rw [pending, List.append_nil]
    by_cases isText : IsUtf8 reply
    · obtain ⟨same, after⟩ := takes.text reply isSeen isText _ [] only
      refine .inl ⟨.inr ?_, ?_⟩
      · rw [after]
        refine ⟨isOpen, rfl, ?_⟩
        dsimp only
        rw [log]
        exact tuned.spoken.answered isText _
      · rw [same]
        exact final_of_takes takes temporary isSeen noSysTemp isText view
    · refine .inr ⟨.inr (meets isText), ?_⟩
      rw [takes.octets reply isSeen isText _ [] only]
      rfl
  · exact Discerns.of_blurred (meets isClear)

theorem discerns_status
    (delivering : Delivering σ)
    (single : isMultiLine (utf8 command) = false) :
    View.Discerns start failsTransiently ((View.partner : Partner (View σ)).status command) :=
  discerns_of_takes delivering takesReplies_status (fun _ => preserves_met_readStatus)
    (fun _ _ => View.carriesSysTemp_of_readStatus) single

theorem discerns_body
    (delivering : Delivering σ)
    (multi : isMultiLine (utf8 command) = true) :
    View.Discerns start failsTransiently ((View.partner : Partner (View σ)).body command) :=
  discerns_of_takes delivering takesReplies_body (fun _ => preserves_met_readReply)
    (fun _ _ => View.carriesSysTemp_of_readReply) multi

end Exchanging

end Pop3
