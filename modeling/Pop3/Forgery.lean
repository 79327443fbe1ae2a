import Pop3.Body
import Pop3.Connection.Loss
import Pop3.Segments

/-!
# Message content and protocol framing

A server frames a message line by line, where a line ends with CRLF.  The
reader takes a bare LF for the end of a line too, so the content of a message
can end its own body.
-/

namespace Pop3

open Rust Framing

/-! ## Segments -/

theorem joined_addReturn
    {segments : List Str}
    (nonempty : segments ≠ []) :
    joined (addReturn '\r' segments) = ['\n'].intercalate segments ++ crlf :=
  flatMap_addReturn nonempty

/-- A line ends the body exactly when one of its segments is a single dot. -/
theorem endsBody_addReturn_iff
    {segments : List Str}
    (noFeed : ∀ segment ∈ segments, '\n' ∉ segment)
    (noReturns : NoReturns '\r' segments) :
    (∃ text ∈ addReturn '\r' segments, View.EndsBody text) ↔ ['.'] ∈ segments := by
  match segments with
  | [] => simp [addReturn]
  | [last] =>
      have trimmed := Transport.trimLine_return (noFeed last (by simp))
      simp only [addReturn, List.mem_singleton, exists_eq_left, View.EndsBody, trimmed]
      exact eq_comm
  | segment :: next :: rest =>
      have more := List.cons_ne_nil next rest
      rw [noReturns_cons more] at noReturns
      have tail := endsBody_addReturn_iff
        (fun other member => noFeed other (List.mem_cons_of_mem segment member))
        noReturns.2
      have trimmed := Transport.trimLine_feed (noFeed segment (by simp)) noReturns.1
      rw [addReturn_cons segment more, List.mem_cons, ← tail]
      simp only [List.mem_cons, exists_eq_or_imp, View.EndsBody, trimmed]
      rw [eq_comm]

/-- What the body gains from the segments of a line, but for their stuffing. -/
theorem content_addReturn
    {segments : List Str}
    (noFeed : ∀ segment ∈ segments, '\n' ∉ segment)
    (noReturns : NoReturns '\r' segments) :
    (addReturn '\r' segments).flatMap View.content =
      joined (segments.map Transport.unstuff) := by
  match segments with
  | [] => rfl
  | [last] =>
      have trimmed := Transport.trimLine_return (noFeed last (by simp))
      rw [addReturn, List.flatMap_singleton, View.content, trimmed]
      simp [joined]
  | segment :: next :: rest =>
      have more := List.cons_ne_nil next rest
      rw [noReturns_cons more] at noReturns
      have tail := content_addReturn
        (fun other member => noFeed other (List.mem_cons_of_mem segment member))
        noReturns.2
      have trimmed := Transport.trimLine_feed (noFeed segment (by simp)) noReturns.1
      rw [addReturn_cons segment more, List.flatMap_cons, tail, View.content, trimmed]
      rfl

/-! ## Messages -/

/-- A message as a conforming server sends it. -/
def sent (message : List Str) : Str :=
  message.flatMap (fun line => stuff line ++ crlf) ++ terminator

/-- What the reader takes for the lines of a message. -/
def seenLines (message : List Str) : List Str :=
  message.flatMap fun line => addReturn '\r' ((stuff line).splitOn '\n')

/-- Behind a bare LF, the line has a segment that is a single dot: it contains
LF `.` LF, or ends with LF `.`. -/
def Forges (line : Str) : Prop := ['.'] ∈ (line.splitOn '\n').tail

instance (line : Str) : Decidable (Forges line) :=
  inferInstanceAs (Decidable (_ ∈ _))

theorem joined_seenLines (message : List Str) :
    joined (seenLines message) =
      message.flatMap fun line => stuff line ++ crlf := by
  induction message with
  | nil => rfl
  | cons line message inductionHypothesis =>
      have segments := joined_addReturn (List.splitOn_ne_nil '\n' (stuff line))
      rw [List.intercalate_splitOn] at segments
      rw [joined, seenLines] at inductionHypothesis
      rw [joined] at segments
      rw [joined, seenLines, List.flatMap_cons, List.flatMap_append, segments,
        inductionHypothesis, List.flatMap_cons]

theorem not_mem_seenLines (message : List Str) :
    ∀ text ∈ seenLines message, '\n' ∉ text := by
  intro text member
  obtain ⟨line, _, inLine⟩ := List.mem_flatMap.mp member
  exact not_mem_addReturn (by decide) (not_mem_of_mem_splitOn (stuff line)) text inLine

theorem infix_of_infix_stuff
    {line : Str}
    (inStuffed : crlf <:+: stuff line) :
    crlf <:+: line := by
  rcases stuff_eq line with ⟨same, _⟩ | ⟨rest, rfl, dotted⟩
  · rwa [same] at inStuffed
  · rw [dotted, List.infix_cons_iff] at inStuffed
    rcases inStuffed with atStart | inLine
    · simp [crlf] at atStart
    · exact inLine

/-- The lines of a message end its body exactly when one of them forges. -/
theorem endsBody_seenLines_iff
    {message : List Str}
    (noCrlf : ∀ line ∈ message, ¬crlf <:+: line) :
    (∃ text ∈ seenLines message, View.EndsBody text) ↔
      ∃ line ∈ message, Forges line := by
  have each : ∀ line ∈ message,
      ((∃ text ∈ addReturn '\r' ((stuff line).splitOn '\n'), View.EndsBody text) ↔
        Forges line) := by
    intro line member
    have noReturns : NoReturns '\r' ((stuff line).splitOn '\n') :=
      noReturns_splitOn fun inStuffed => noCrlf line member (infix_of_infix_stuff inStuffed)
    rw [endsBody_addReturn_iff (not_mem_of_mem_splitOn _) noReturns, Forges]
    cases split : line.splitOn '\n' with
    | nil => exact absurd split (List.splitOn_ne_nil '\n' line)
    | cons first rest =>
        rw [splitOn_stuff split]
        simp [Ne.symm (stuff_ne_dot first)]
  constructor
  · rintro ⟨text, member, ends⟩
    obtain ⟨line, inMessage, inLine⟩ := List.mem_flatMap.mp member
    exact ⟨line, inMessage, (each line inMessage).mp ⟨text, inLine, ends⟩⟩
  · rintro ⟨line, inMessage, forges⟩
    obtain ⟨text, inLine, ends⟩ := (each line inMessage).mpr forges
    exact ⟨text, List.mem_flatMap.mpr ⟨line, inMessage, inLine⟩, ends⟩

/-- The line a server ends a body with does end it. -/
theorem endsBody_terminator : View.EndsBody ['.', '\r'] := by decide

/-- The read returns, and leaves exactly the tail. -/
def Transport.ConsumesExactly (transport : Transport σ) (tail : List UInt8) : Prop :=
  ∃ body after, readMultiline transport = .ok body after ∧ after.pending = tail

/-- The first line that ends the body leaves everything behind it. -/
theorem View.readMultiline_of_ending
    {view : View σ}
    {texts : List Str}
    {rest : List UInt8}
    (pending : view.pending = utf8 (joined texts) ++ rest)
    (noFeed : ∀ text ∈ texts, '\n' ∉ text)
    (ends : ∃ text ∈ texts, EndsBody text) :
    ∃ body behind, view.readMultiline =
      .ok body { view with pending := utf8 (joined behind) ++ rest } := by
  have found : (texts.find? (decide <| EndsBody ·)).isSome := by
    simpa [List.find?_isSome] using ends
  obtain ⟨last, found⟩ := Option.isSome_iff_exists.mp found
  obtain ⟨endsLast, before, behind, rfl, goesOn⟩ :=
    List.find?_eq_some_iff_append.mp found
  have split : view.pending = utf8 (joined before) ++
      (utf8 (last ++ ['\n']) ++ (utf8 (joined behind) ++ rest)) := by
    rw [pending]
    simp [joined, utf8_append]
  refine ⟨_, behind, readMultiline_of_body split
    (fun text member => noFeed text (List.mem_append_left _ member)) ?_
    (noFeed last (by simp)) (by simpa using endsLast)⟩
  intro text member
  simpa using goesOn text member

/-- A body that is sent is consumed exactly when no line forges. -/
theorem View.readMultiline_sent_iff
    {view : View σ}
    {message : List Str}
    {tail : List UInt8}
    (noCrlf : ∀ line ∈ message, ¬crlf <:+: line)
    (pending : view.pending = utf8 (sent message) ++ tail) :
    (∃ body after, view.readMultiline = .ok body after ∧ after.pending = tail) ↔
      ∀ line ∈ message, ¬Forges line := by
  have framed : view.pending =
      utf8 (joined (seenLines message)) ++ (utf8 (['.', '\r'] ++ ['\n']) ++ tail) := by
    rw [pending, sent, utf8_append, joined_seenLines, List.append_assoc]
    rfl
  by_cases ends : ∃ text ∈ seenLines message, EndsBody text
  · obtain ⟨body, behind, read⟩ :=
      readMultiline_of_ending framed (not_mem_seenLines message) ends
    obtain ⟨line, member, forges⟩ := (endsBody_seenLines_iff noCrlf).mp ends
    refine iff_of_false ?_ fun none_forges => none_forges line member forges
    rintro ⟨body', after, read', exact_tail⟩
    rw [read] at read'
    cases read'
    have lengths := congrArg List.length exact_tail
    simp only [List.length_append] at lengths
    have positive : 0 < (utf8 (['.', '\r'] ++ ['\n'])).length := by decide
    omega
  · have none_forges : ∀ line ∈ message, ¬Forges line := fun line member forges =>
      ends ((endsBody_seenLines_iff noCrlf).mpr ⟨line, member, forges⟩)
    refine iff_of_true ⟨_, _, readMultiline_of_body framed (not_mem_seenLines message)
      (fun text member endsText => ends ⟨text, member, endsText⟩)
      (by decide) endsBody_terminator, rfl⟩ none_forges

/-- However the bytes arrive, a reader consumes exactly the body of a message
if and only if no line of the message forges its end. -/
theorem consumesExactly_iff
    {transport : Transport σ}
    {view : View σ}
    (shown : Shows calm transport view)
    {message : List Str}
    {tail : List UInt8}
    (noCrlf : ∀ line ∈ message, ¬crlf <:+: line)
    (pending : view.pending = utf8 (sent message) ++ tail) :
    transport.ConsumesExactly tail ↔ ∀ line ∈ message, ¬Forges line := by
  rw [← View.readMultiline_sent_iff noCrlf pending]
  obtain ⟨same, shown'⟩ := shown.readMultiline
  unfold Transport.ConsumesExactly
  constructor
  · rintro ⟨body, after, read, exact_tail⟩
    rw [read] at same shown'
    cases readView : view.readMultiline with
    | ok body' after' =>
        rw [readView] at shown'
        exact ⟨body', after', rfl, shown'.pending.symm.trans exact_tail⟩
    | error error after' =>
        rw [readView] at same
        cases same
  · rintro ⟨body, after, read, exact_tail⟩
    rw [read] at same shown'
    cases readTransport : Transport.readMultiline transport with
    | ok body' after' =>
        rw [readTransport] at shown'
        exact ⟨body', after', rfl, shown'.pending.trans exact_tail⟩
    | error error after' =>
        rw [readTransport] at same
        cases same

/-- A connection on which exactly these bytes have arrived. -/
def arrived (bytes : List UInt8) : Transport Unit :=
  { buffer := bytes, stream := .plain, encrypted := false, net := { server := () } }

theorem shows_arrived (bytes : List UInt8) :
    Shows calm (arrived bytes) { server := (), pending := bytes } where
  server := rfl
  pending := by simp [arrived, Transport.pending]
  isOpen := rfl
  isClosed := rfl
  log := rfl
  stream := by simp [arrived]
  unflushed := rfl
  inbound := rfl
  reads := by simp [arrived]
  writes := by simp [arrived]

/-- A message whose author forges a reply behind a bare LF and a dot. -/
def forgedMessage : List Str := ["Subject: hi".toList, "\n.\n+OK forged".toList]

/-- Not every message without CRLF in its lines is consumed exactly. -/
theorem exists_message_not_consumed :
    ¬∀ (transport : Transport Unit) (view : View Unit), Shows calm transport view →
      ∀ (message : List Str) (tail : List UInt8), (∀ line ∈ message, ¬crlf <:+: line) →
        view.pending = utf8 (sent message) ++ tail → transport.ConsumesExactly tail := by
  intro always
  have exact_tail := always (arrived (utf8 (sent forgedMessage) ++ [])) _ (shows_arrived _)
    forgedMessage [] (by decide +kernel) rfl
  obtain ⟨body, after, read, nothing⟩ := exact_tail
  have left : (finalState (Transport.readMultiline
      (arrived (utf8 (sent forgedMessage) ++ [])))).pending =
        utf8 "+OK forged\r\n.\r\n".toList := by decide +kernel
  rw [read, finalState_ok, nothing] at left
  exact absurd left (by decide +kernel)

/-- Bare LF and dots are harmless apart from each other. -/
theorem consumesExactly_harmless :
    (arrived (utf8 (sent ["a\nb.".toList, ".".toList]) ++ [43])).ConsumesExactly [43] ↔
      ∀ line ∈ ["a\nb.".toList, ".".toList], ¬Forges line :=
  consumesExactly_iff (shows_arrived _) (by decide +kernel) rfl

end Pop3
