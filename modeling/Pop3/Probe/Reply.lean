import Pop3.Batches
import Pop3.Connection.Arrival

/-!
# A whole reply

What a reply to a command with a body looks like as bytes, when the stream ends
behind it in a given way, and that reading succeeds with nothing left on exactly
these bytes.
-/

namespace Pop3

open Rust

/-! ## Lines -/

/-- These bytes start with a line: it has its LF, or it is all there is in front of
the end of file. -/
inductive StartsWithLine (ending : Loss) : List UInt8 → Str → List UInt8 → Prop
  | fed {front rest : List UInt8} {text : Str} :
      10 ∉ front → fromUtf8 (front ++ [10]) = some text →
        StartsWithLine ending (front ++ 10 :: rest) text rest
  | last {bytes : List UInt8} {text : Str} :
      ending = .endOfFile → 10 ∉ bytes → bytes ≠ [] → fromUtf8 bytes = some text →
        StartsWithLine ending bytes text []

/-- A body with its terminator, and nothing behind. -/
inductive IsBody (ending : Loss) : List UInt8 → Prop
  | ends {bytes : List UInt8} {text : Str} :
      StartsWithLine ending bytes text [] → Transport.trimLine text = ".".toList →
        IsBody ending bytes
  | line {bytes rest : List UInt8} {text : Str} :
      StartsWithLine ending bytes text rest → Transport.trimLine text ≠ ".".toList →
        IsBody ending rest → IsBody ending bytes

/-- One reply to a command with a body: a refusal, or an acceptance with the body. -/
inductive IsReply (ending : Loss) (bytes : List UInt8) : Prop
  | refused {text message : Str} :
      StartsWithLine ending bytes text [] →
        parseStatusLine text = .error (parseRespCode message) → IsReply ending bytes
  | accepted {text message : Str} {rest : List UInt8} :
      StartsWithLine ending bytes text rest → parseStatusLine text = .ok message →
        IsBody ending rest → IsReply ending bytes

theorem not_isReply_nil (ending : Loss) : ¬IsReply ending [] := by
  have nothing : ∀ text rest, ¬StartsWithLine ending [] text rest := by
    intro text rest starts
    generalize same : ([] : List UInt8) = bytes at starts
    cases starts with
    | fed => simp at same
    | last _ _ nonempty _ => exact nonempty same.symm
  intro reply
  cases reply with
  | refused starts _ => exact nothing _ _ starts
  | accepted starts _ _ => exact nothing _ _ starts

namespace Incoming

variable {ending : Loss} {bytes rest : List UInt8} {text : Str}

theorem decode_of_text
    (isText : fromUtf8 bytes = some text)
    (nonempty : bytes ≠ [])
    (incoming : Incoming) :
    decode bytes incoming =
      .ok text { incoming with taken := incoming.taken ++ bytes } := by
  have positive : ¬bytes.length = 0 := by simpa using nonempty
  simp only [decode, isText, if_neg positive]

/-- A line that the stream starts with is read. -/
theorem readLine_of_starts (starts : StartsWithLine ending bytes text rest) :
    ∃ line, line ≠ [] ∧ bytes = line ++ rest ∧ ∀ taken, readLine ⟨taken, bytes, ending⟩ =
      .ok text ⟨taken ++ line, rest, ending⟩ := by
  cases starts with
  | @fed front rest text noFeed isText =>
      refine ⟨front ++ [10], by simp, by simp, fun taken => ?_⟩
      rw [readLine, Transport.splitFeed_line noFeed]
      exact decode_of_text isText (by simp) _
  | last atEnd noFeed nonempty isText =>
      subst atEnd
      refine ⟨bytes, nonempty, (List.append_nil _).symm, fun taken => ?_⟩
      rw [readLine, Transport.splitFeed_eq_none noFeed]
      exact decode_of_text isText nonempty _

theorem starts_unique
    {otherText : Str}
    {otherRest : List UInt8}
    (starts : StartsWithLine ending bytes text rest)
    (starts' : StartsWithLine ending bytes otherText otherRest) :
    otherText = text ∧ otherRest = rest := by
  obtain ⟨_, _, _, run⟩ := readLine_of_starts starts
  obtain ⟨_, _, _, run'⟩ := readLine_of_starts starts'
  have same := (run' []).symm.trans (run [])
  simp only [EStateM.Result.ok.injEq, Incoming.mk.injEq] at same
  exact ⟨same.1, same.2.2.1⟩

theorem not_failsIo_of_starts
    (starts : StartsWithLine ending bytes text rest)
    (taken : List UInt8) :
    ¬FailsIo (returned (readLine ⟨taken, bytes, ending⟩)) := by
  obtain ⟨_, _, _, run⟩ := readLine_of_starts starts
  rw [run]
  rintro ⟨_, fails, _⟩
  cases fails

/-- Otherwise reading fails at the level of the connection. -/
theorem starts_or_fails (incoming : Incoming) :
    (∃ text rest, StartsWithLine incoming.ending incoming.bytes text rest) ∨
      FailsIo (returned (readLine incoming)) := by
  have decodes : ∀ bytes incoming, (∃ text, fromUtf8 bytes = some text ∧ bytes ≠ []) ∨
      FailsIo (returned (decode bytes incoming)) := by
    intro bytes incoming
    unfold decode
    dsimp only
    cases isText : fromUtf8 bytes with
    | none => exact .inr ⟨_, rfl, rfl⟩
    | some text =>
        by_cases empty : bytes = []
        · subst empty
          exact .inr ⟨_, rfl, rfl⟩
        · exact .inl ⟨text, rfl, empty⟩
  unfold readLine
  cases found : Transport.splitFeed incoming.bytes with
  | some split =>
      obtain ⟨front, noFeed, line, all⟩ := Transport.splitFeed_eq_some found
      rcases decodes split.1 { incoming with bytes := split.2 } with
        ⟨text, isText, _⟩ | fails
      · rw [line] at isText
        exact .inl ⟨text, split.2, all ▸ .fed noFeed isText⟩
      · exact .inr fails
  | none =>
      dsimp only
      cases kind : incoming.ending with
      | endOfFile =>
          rcases decodes incoming.bytes { incoming with bytes := [] } with
            ⟨text, isText, nonempty⟩ | fails
          · exact .inl ⟨text, [], .last rfl
              (Transport.not_mem_of_splitFeed_eq_none found) nonempty isText⟩
          · rw [kind] at fails
            exact .inr fails
      | error error => exact .inr ⟨_, rfl, rfl⟩
      | silence => exact .inr ⟨_, rfl, rfl⟩

/-! ## Bodies -/

/-- A body that is all of the stream is read with nothing left. -/
theorem readMultilineUpTo_of_isBody
    (isBody : IsBody ending bytes)
    {rounds : Nat}
    (enough : bytes.length < rounds)
    (taken : List UInt8)
    (body : Str) :
    ∃ text, readMultilineUpTo rounds body ⟨taken, bytes, ending⟩ =
      .ok text ⟨taken ++ bytes, [], ending⟩ := by
  induction isBody generalizing rounds taken body with
  | ends starts dot =>
      obtain ⟨line, _, rfl, run⟩ := readLine_of_starts starts
      rw [List.append_nil] at *
      cases rounds with
      | zero => omega
      | succ rounds =>
          refine ⟨body, ?_⟩
          rw [readMultilineUpTo, bind_of_ok (run taken)]
          simp only [dot, ↓reduceIte]
          rfl
  | @line bytes rest text starts goesOn _ inductionHypothesis =>
      obtain ⟨line, nonempty, rfl, run⟩ := readLine_of_starts starts
      cases rounds with
      | zero => omega
      | succ rounds =>
          have shorter : 0 < line.length := List.length_pos_iff.mpr nonempty
          rw [List.length_append] at enough
          obtain ⟨result, reads⟩ := inductionHypothesis (by omega : rest.length < rounds)
            (taken ++ line) (body ++ Transport.unstuff (Transport.trimLine text) ++ "\n".toList)
          refine ⟨result, ?_⟩
          rw [readMultilineUpTo, bind_of_ok (run taken)]
          simp only [goesOn, ↓reduceIte]
          rw [reads, List.append_assoc]

/-- Reading a body fails at the level of the connection, or takes a beginning of the
stream; if that is all of it, it was a body. -/
theorem readMultilineUpTo_cases
    (rounds : Nat)
    (body : Str)
    (incoming : Incoming) :
    FailsIo (returned (readMultilineUpTo rounds body incoming)) ∨
      ∃ text line rest, readMultilineUpTo rounds body incoming =
          .ok text ⟨incoming.taken ++ line, rest, incoming.ending⟩ ∧
        incoming.bytes = line ++ rest ∧ (rest = [] → IsBody incoming.ending incoming.bytes) := by
  induction rounds generalizing body incoming with
  | zero => exact .inl ⟨_, rfl, rfl⟩
  | succ rounds inductionHypothesis =>
      rw [readMultilineUpTo]
      rcases starts_or_fails incoming with ⟨text, rest, starts⟩ | ⟨error, fails, isIo⟩
      · obtain ⟨line, _, all, run⟩ := readLine_of_starts starts
        rw [bind_of_ok (run incoming.taken)]
        by_cases dot : Transport.trimLine text = ".".toList
        · simp only [dot, ↓reduceIte]
          refine .inr ⟨body, line, rest, rfl, all, fun nothing => ?_⟩
          subst nothing
          exact .ends starts dot
        · simp only [dot, ↓reduceIte]
          rcases inductionHypothesis _ ⟨incoming.taken ++ line, rest, incoming.ending⟩ with
            fails | ⟨result, more, left, reads, same, isBody⟩
          · exact .inl fails
          · refine .inr ⟨result, line ++ more, left, ?_, ?_, fun nothing => ?_⟩
            · rw [reads, List.append_assoc]
            · have same' : rest = more ++ left := same
              rw [all, same', List.append_assoc]
            · exact .line starts dot (isBody nothing)
      · rw [bind_of_error (eq_error_of_returned fails)]
        exact .inl ⟨error, rfl, isIo⟩

end Incoming

/-! ## Replies -/

section Answering

variable {transport : Transport σ}

/-- The reply to a command with a body, as the transport reads it. -/
def readWhole : TransportM σ Str := do
  let line ← Transport.readLine
  let _ ← ofResult (parseStatusLine line)
  Transport.readMultiline

/-- The call has succeeded, or the server has refused it. -/
def SucceedsOrRefused (result : Except Pop3Error α) : Prop :=
  (∃ value, result = .ok value) ∨ ∃ message, result = .error (parseRespCode message)

theorem not_failsIo_of_succeedsOrRefused
    {result : Except Pop3Error α}
    (outcome : SucceedsOrRefused result) :
    ¬FailsIo result := by
  rintro ⟨error, fails, isIo⟩
  rcases outcome with ⟨value, same⟩ | ⟨message, same⟩
  · rw [same] at fails
    cases fails
  · rw [same] at fails
    injection fails with fails
    rw [← fails, isIoLevel_parseRespCode] at isIo
    cases isIo

/-- What the transport does where its stream goes on. -/
theorem Agree.of_ok
    {start : Transport σ}
    {result : EStateM.Result Pop3Error (Transport σ) α}
    {value : α}
    {incoming : Incoming}
    (agree : Agree start result (.ok value incoming)) :
    result = .ok value (finalState result) ∧ Meets start (finalState result) incoming := by
  rcases agree with ⟨same, meets⟩ | ⟨_, _, fails, _⟩
  · exact ⟨eq_ok_of_returned same, meets⟩
  · cases fails

theorem Agree.failsIo
    {start : Transport σ}
    {result : EStateM.Result Pop3Error (Transport σ) α}
    {expected : EStateM.Result Pop3Error Incoming α}
    (agree : Agree start result expected)
    (fails : FailsIo (returned expected)) :
    FailsIo (returned result) := by
  rcases agree with ⟨same, _⟩ | ⟨fails', _⟩
  · exact same ▸ fails
  · exact fails'

/-- What reading has come to: it has taken a beginning of these bytes behind what was
consumed before, and the bytes have the property exactly when it took them all. -/
def Took (start after : Transport σ) (consumed bytes : List UInt8) (whole : Prop) : Prop :=
  ∃ taken left, bytes = taken ++ left ∧
    consumedBytes after.net.trace = consumedBytes start.net.trace ++ (consumed ++ taken) ∧
    after.isClosed = start.isClosed ∧ (left = [] ↔ whole)

/-- Behind a positive status line there is a body. -/
theorem readMultiline_cases
    {start : Transport σ}
    {line rest : List UInt8}
    {ending : Loss}
    (meets : Meets start transport ⟨line, rest, ending⟩) :
    FailsIo (returned (Transport.readMultiline transport)) ∧ ¬IsBody ending rest ∨
      (∃ text, returned (Transport.readMultiline transport) = .ok text) ∧
        Took start (finalState (Transport.readMultiline transport)) line rest
          (IsBody ending rest) := by
  have enough := meets.length_lt
  have agree := meets.readMultilineUpTo (transport.pending.length + 1) []
  change Agree start (Transport.readMultiline transport) _ at agree
  rcases Incoming.readMultilineUpTo_cases (transport.pending.length + 1) []
      ⟨line, rest, ending⟩ with fails | ⟨text, more, left, reads, same, isBody⟩
  · refine .inl ⟨agree.failsIo fails, fun isBody => ?_⟩
    obtain ⟨text, reads⟩ := Incoming.readMultilineUpTo_of_isBody isBody enough line []
    obtain ⟨_, fails, _⟩ := fails
    rw [reads] at fails
    cases fails
  · rw [reads] at agree
    obtain ⟨run, meets'⟩ := agree.of_ok
    refine .inr ⟨⟨text, congrArg returned run⟩, more, left, same, meets'.consumed,
      meets'.isClosed, isBody, fun whole => ?_⟩
    obtain ⟨_, reads'⟩ := Incoming.readMultilineUpTo_of_isBody whole enough line []
    have last := reads.symm.trans reads'
    simp only [EStateM.Result.ok.injEq, Incoming.mk.injEq] at last
    exact last.2.2.1

/-- Reading succeeds, or is refused, with all that arrives taken, exactly when that
is a reply. -/
theorem readWhole_cases
    {bytes : List UInt8}
    {ending : Loss}
    (self : Meets transport transport ⟨[], bytes, ending⟩) :
    ¬SucceedsOrRefused (returned (readWhole transport)) ∧ ¬IsReply ending bytes ∨
      SucceedsOrRefused (returned (readWhole transport)) ∧
        Took transport (finalState (readWhole transport)) [] bytes (IsReply ending bytes) := by
  have first := self.readLine
  rcases Incoming.starts_or_fails ⟨[], bytes, ending⟩ with
    ⟨text, rest, starts⟩ | fails
  · obtain ⟨line, _, rfl, run⟩ := Incoming.readLine_of_starts starts
    rw [run []] at first
    obtain ⟨read, meets⟩ := first.of_ok
    generalize finalState (Transport.readLine transport) = middle at read meets
    rw [readWhole, bind_of_ok read]
    cases status : parseStatusLine text with
    | error error =>
        by_cases refusal : ∃ message, error = parseRespCode message
        · obtain ⟨message, rfl⟩ := refusal
          refine .inr ⟨.inr ⟨message, rfl⟩, line, rest, rfl, meets.consumed, meets.isClosed,
            fun nothing => .refused (nothing ▸ starts) status, fun reply => ?_⟩
          cases reply with
          | refused starts' _ => exact (Incoming.starts_unique starts starts').2.symm
          | accepted starts' status' _ =>
              obtain ⟨rfl, _⟩ := Incoming.starts_unique starts starts'
              cases status.symm.trans status'
        · refine .inl ⟨?_, fun reply => ?_⟩
          · rintro (⟨_, same⟩ | ⟨message, same⟩)
            · cases same
            · injection same with same
              exact refusal ⟨message, same⟩
          · cases reply with
            | refused starts' status' =>
                obtain ⟨rfl, _⟩ := Incoming.starts_unique starts starts'
                rw [status] at status'
                injection status' with same
                exact refusal ⟨_, same⟩
            | accepted starts' status' _ =>
                obtain ⟨rfl, _⟩ := Incoming.starts_unique starts starts'
                cases status.symm.trans status'
    | ok message =>
        have isReply_iff : IsReply ending (line ++ rest) ↔ IsBody ending rest := by
          refine ⟨fun reply => ?_, .accepted starts status⟩
          cases reply with
          | refused starts' status' =>
              obtain ⟨rfl, _⟩ := Incoming.starts_unique starts starts'
              cases status.symm.trans status'
          | accepted starts' _ isBody =>
              obtain ⟨_, rfl⟩ := Incoming.starts_unique starts starts'
              exact isBody
        rw [isReply_iff]
        rcases readMultiline_cases meets with
          ⟨fails, noBody⟩ | ⟨⟨text, reads⟩, more, left, same, consumed, isClosed, whole⟩
        · exact .inl ⟨fun outcome => not_failsIo_of_succeedsOrRefused outcome fails, noBody⟩
        · exact .inr ⟨.inl ⟨text, reads⟩, line ++ more, left,
            by rw [same, List.append_assoc], consumed, isClosed, whole⟩
  · obtain ⟨error, fails', isIo⟩ := first.failsIo fails
    rw [readWhole, bind_of_error (eq_error_of_returned fails')]
    refine .inl ⟨fun outcome => not_failsIo_of_succeedsOrRefused outcome ⟨error, rfl, isIo⟩,
      fun reply => ?_⟩
    cases reply with
    | refused starts _ => exact Incoming.not_failsIo_of_starts starts [] fails
    | accepted starts _ _ => exact Incoming.not_failsIo_of_starts starts [] fails

end Answering

end Pop3
