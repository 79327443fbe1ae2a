import Pop3.Batches
import Pop3.Octets.Backlog

/-!
# Replies as they stand in the stream

A complete reply to a command, whoever wrote it: a status line, and behind a positive
one to a command with a body any lines up to a lone dot.  For the server a line ends
with CRLF, for the reader with any LF.  Where both see the same reply, the reader takes
it off the stream exactly if it is text.
-/

namespace Pop3

open Rust Framing Pop3Client

/-! ## Replies as the reader sees them -/

/-- A line, without its LF, that ends a body. -/
def IsDot (line : List UInt8) : Prop := line = [46] ∨ line = [46, 13]

instance (line : List UInt8) : Decidable (IsDot line) :=
  inferInstanceAs (Decidable (_ ∨ _))

/-- The lines of a body up to its dot, and nothing behind, where every LF ends a line. -/
inductive IsDotted : List UInt8 → Prop
  | dot {line : List UInt8} : IsDot line → IsDotted (line ++ [10])
  | line {line rest : List UInt8} :
      10 ∉ line → ¬IsDot line → IsDotted rest → IsDotted (line ++ 10 :: rest)

/-- The line, without its LF, is accepted as `+OK`. -/
def IsAccepted (line : List UInt8) : Prop :=
  ∃ text message, fromUtf8 (line ++ [10]) = some text ∧ parseStatusLine text = .ok message

/-- One complete reply where every LF ends a line: an accepted status line, with a body if
the command asks for one, or any other status line.  Behind one that is not text there may
be a body, too. -/
inductive IsSeenReply (multiLine : Bool) : List UInt8 → Prop
  | accepted {line body : List UInt8} :
      10 ∉ line → IsAccepted line → (if multiLine then IsDotted body else body = []) →
        IsSeenReply multiLine (line ++ 10 :: body)
  | other {line : List UInt8} :
      10 ∉ line → ¬IsAccepted line → IsSeenReply multiLine (line ++ [10])
  | garbled {line body : List UInt8} :
      10 ∉ line → ¬IsUtf8 line → multiLine = true → IsDotted body →
        IsSeenReply multiLine (line ++ 10 :: body)

/-! ## Replies as their server frames them -/

/-- A status line and, if there is one, a body up to a single dot.  Every line ends with
CRLF. -/
structure WireReply where
  status : OctetLine
  body : Option (List OctetLine)

namespace WireReply

/-- The body as it stands in the stream. -/
def bodyBytes : Option (List OctetLine) → List UInt8
  | none => []
  | some lines => lines.flatMap (·.octets ++ [13, 10]) ++ [46, 13, 10]

/-- The reply as it stands in the stream. -/
def bytes (reply : WireReply) : List UInt8 :=
  reply.status.octets ++ 13 :: 10 :: bodyBytes reply.body

/-- The reply is complete: no line but the last of the body is a single dot, and there is
a body behind an accepted status line if the command asks for one.  Whether there is one
behind a status line that is not text is left open. -/
structure IsWhole (multiLine : Bool) (reply : WireReply) : Prop where
  noDot : ∀ line ∈ reply.body.getD [], line.octets ≠ [46]
  single : multiLine = false → reply.body = none
  accepted : IsAccepted (reply.status.octets ++ [13]) → reply.body.isSome = multiLine
  refused : IsUtf8 reply.status.octets → ¬IsAccepted (reply.status.octets ++ [13]) →
    reply.body = none

/-- Bare LFs do no harm: there is none in the status line, and in the body a single dot
never stands between two of them, or between one and the end of a line. -/
structure IsClear (reply : WireReply) : Prop where
  status : 10 ∉ reply.status.octets
  body : ∀ line ∈ reply.body.getD [], [46] ∉ line.octets.splitOn 10

end WireReply

/-- One complete reply. -/
def IsWholeReply (multiLine : Bool) (bytes : List UInt8) : Prop :=
  ∃ reply : WireReply, reply.IsWhole multiLine ∧ bytes = reply.bytes

/-- One complete reply in which bare LFs do no harm. -/
def IsClearReply (multiLine : Bool) (bytes : List UInt8) : Prop :=
  ∃ reply : WireReply, reply.IsWhole multiLine ∧ reply.IsClear ∧ bytes = reply.bytes

theorem IsClearReply.isWhole
    {multiLine : Bool}
    {bytes : List UInt8}
    (clear : IsClearReply multiLine bytes) :
    IsWholeReply multiLine bytes := by
  obtain ⟨reply, whole, _, same⟩ := clear
  exact ⟨reply, whole, same⟩

/-- The segments of a line go on a body when none of them is a single dot. -/
theorem isDotted_addReturn
    {segments : List (List UInt8)}
    (noFeed : ∀ segment ∈ segments, 10 ∉ segment)
    (noReturns : NoReturns 13 segments)
    (noDot : [46] ∉ segments)
    {rest : List UInt8}
    (isDotted : IsDotted rest) :
    IsDotted ((addReturn 13 segments).flatMap (· ++ [10]) ++ rest) := by
  match segments with
  | [] => exact isDotted
  | [last] =>
      have absent : 10 ∉ last ++ [13] := by simpa using noFeed last (by simp)
      have goesOn : ¬IsDot (last ++ [13]) := by
        rintro (same | same)
        · simpa using congrArg List.getLast? same
        · exact noDot (by simp [List.append_cancel_right (same.trans
            (show [46, 13] = [46] ++ [13] from rfl))])
      simpa [addReturn] using IsDotted.line absent goesOn isDotted
  | segment :: next :: more =>
      have nonempty := List.cons_ne_nil next more
      rw [noReturns_cons nonempty] at noReturns
      rw [List.mem_cons, not_or] at noDot
      have goesOn : ¬IsDot segment := by
        rintro (same | same)
        · exact noDot.1 same.symm
        · exact noReturns.1 (by rw [same]; rfl)
      have tail := isDotted_addReturn
        (fun other member => noFeed other (List.mem_cons_of_mem segment member))
        noReturns.2 noDot.2 isDotted
      rw [addReturn_cons segment nonempty, List.flatMap_cons, List.append_assoc,
        List.append_assoc]
      exact .line (noFeed segment List.mem_cons_self) goesOn tail

/-- A body in which bare LFs do no harm ends for its reader where it ends. -/
theorem isDotted_lines
    {lines : List OctetLine}
    (clear : ∀ line ∈ lines, [46] ∉ line.octets.splitOn 10) :
    IsDotted (lines.flatMap (·.octets ++ [13, 10]) ++ [46, 13, 10]) := by
  induction lines with
  | nil => exact .dot (.inr rfl)
  | cons line lines inductionHypothesis =>
      obtain ⟨clearFirst, clear⟩ := List.forall_mem_cons.mp clear
      have split : (line.octets ++ [13, 10]) =
          (addReturn 13 (line.octets.splitOn 10)).flatMap (· ++ [10]) := by
        rw [flatMap_addReturn (List.splitOn_ne_nil 10 line.octets), List.intercalate_splitOn]
      rw [List.flatMap_cons, List.append_assoc, split]
      exact isDotted_addReturn (not_mem_of_mem_splitOn line.octets)
        (noReturns_splitOn line.noCrlf) clearFirst (inductionHypothesis clear)

/-- Where bare LFs do no harm, the reader sees the reply that the server has framed. -/
theorem IsClearReply.isSeen
    {multiLine : Bool}
    {bytes : List UInt8}
    (clear : IsClearReply multiLine bytes) :
    IsSeenReply multiLine bytes := by
  obtain ⟨⟨status, body⟩, whole, isClear, rfl⟩ := clear
  have noFeed : 10 ∉ status.octets ++ [13] := by simpa using isClear.status
  cases body with
  | none =>
      have line : WireReply.bytes ⟨status, none⟩ = (status.octets ++ [13]) ++ 10 :: [] := by
        simp [WireReply.bytes, WireReply.bodyBytes]
      rw [line]
      by_cases accepted : IsAccepted (status.octets ++ [13])
      · have single : false = multiLine := whole.accepted accepted
        subst single
        exact .accepted noFeed accepted rfl
      · exact .other noFeed accepted
  | some lines =>
      have multi : multiLine = true := by
        by_contra single
        cases whole.single (Bool.eq_false_iff.mpr single)
      have line : WireReply.bytes ⟨status, some lines⟩ = (status.octets ++ [13]) ++
          10 :: (lines.flatMap (·.octets ++ [13, 10]) ++ [46, 13, 10]) := by
        simp [WireReply.bytes, WireReply.bodyBytes]
      have isDotted := isDotted_lines isClear.body
      rw [line]
      by_cases accepted : IsAccepted (status.octets ++ [13])
      · refine .accepted noFeed accepted ?_
        rw [if_pos multi]
        exact isDotted
      · refine .garbled noFeed (fun isText => ?_) multi isDotted
        have carriageReturn : asciiByte '\r' = 13 := by decide
        rw [← carriageReturn, isUtf8_append_cons (by decide)] at isText
        cases whole.refused isText.1 accepted

/-! ## Reading them -/

theorem isUtf8_feed (left right : List UInt8) :
    IsUtf8 (left ++ 10 :: right) ↔ IsUtf8 left ∧ IsUtf8 right := by
  have feed : asciiByte '\n' = 10 := by decide
  rw [← feed]
  exact isUtf8_append_cons (by decide) left right

/-- The lines that end a body are the dots. -/
theorem endsBody_iff
    {text : Str}
    (noFeed : '\n' ∉ text) :
    View.EndsBody text ↔ IsDot (utf8 text) := by
  have dot : utf8 ['.'] = [46] := by decide
  have dotReturn : utf8 ['.', '\r'] = [46, 13] := by decide
  rw [IsDot, ← dot, ← dotReturn, utf8_injective.eq_iff, utf8_injective.eq_iff, View.EndsBody]
  rcases List.eq_nil_or_concat text with rfl | ⟨front, last, rfl⟩
  · decide
  · rw [List.concat_eq_append] at noFeed ⊢
    by_cases isReturn : last = '\r'
    · subst isReturn
      have noFeed' : '\n' ∉ front := fun member => noFeed (List.mem_append_left _ member)
      rw [Transport.trimLine_return noFeed']
      constructor
      · rintro rfl
        exact .inr rfl
      · rintro (same | same)
        · have ending := congrArg List.getLast? same
          simp at ending
        · exact (List.append_inj' same rfl).1
    · have noReturn : (front ++ [last]).getLast? ≠ some '\r' := by simpa using isReturn
      rw [Transport.trimLine_feed noFeed noReturn]
      constructor
      · exact .inl
      · rintro (same | same)
        · exact same
        · rw [same] at noReturn
          exact absurd rfl noReturn

theorem utf8_line (text : Str) : utf8 (text ++ ['\n']) = utf8 text ++ [10] := by
  rw [utf8_append, show utf8 ['\n'] = [10] from by decide]

namespace View

/-- A dotted body of text is read, and nothing behind it. -/
theorem readMultilineUpTo_of_dotted
    {bytes : List UInt8}
    (isDotted : IsDotted bytes)
    (isUtf8 : IsUtf8 bytes) :
    ∃ text, ∀ (σ : Type) (view : View σ) rest rounds body, bytes.length ≤ rounds →
      view.pending = bytes ++ rest →
        readMultilineUpTo rounds body view = .ok (body ++ text) { view with pending := rest } := by
  induction isDotted with
  | @dot line isDot =>
      obtain ⟨text, rfl⟩ : ∃ text, utf8 text = line := by
        rcases isDot with rfl | rfl
        · exact ⟨['.'], by decide⟩
        · exact ⟨['.', '\r'], by decide⟩
      have noFeed : '\n' ∉ text := by
        intro member
        have found := (feed_mem_utf8 text).mpr member
        rcases isDot with same | same <;> rw [same] at found <;> simp at found
      refine ⟨[], fun _ view rest rounds body enough pending => ?_⟩
      rw [← utf8_line] at enough pending
      obtain ⟨rounds, rfl⟩ : ∃ fewer, rounds = fewer + 1 :=
        Nat.exists_eq_succ_of_ne_zero (by rw [utf8_line] at enough; simp at enough; omega)
      rw [readMultilineUpTo_of_end pending noFeed ((endsBody_iff noFeed).mpr isDot),
        List.append_nil]
  | @line line rest noFeed noDot _ inductionHypothesis =>
      obtain ⟨isText, isTextRest⟩ := (isUtf8_feed line rest).mp isUtf8
      obtain ⟨text, rfl⟩ := (isUtf8_iff line).mp isText
      have noFeed' : '\n' ∉ text := fun member => noFeed ((feed_mem_utf8 text).mpr member)
      obtain ⟨more, reads⟩ := inductionHypothesis isTextRest
      refine ⟨content text ++ more, fun _ view behind rounds body enough pending => ?_⟩
      have split : view.pending = utf8 (text ++ ['\n']) ++ (rest ++ behind) := by
        rw [pending, utf8_line]
        simp
      rw [List.length_append, List.length_cons] at enough
      obtain ⟨rounds, rfl⟩ : ∃ fewer, rounds = fewer + 1 :=
        Nat.exists_eq_succ_of_ne_zero (by omega)
      rw [readMultilineUpTo_of_line split noFeed' fun ends => noDot ((endsBody_iff noFeed').mp ends),
        reads _ _ behind rounds _ (by omega) rfl, List.append_assoc]

/-- A dotted body that is not text is not read. -/
theorem readMultilineUpTo_of_not_isUtf8
    {bytes : List UInt8}
    (isDotted : IsDotted bytes)
    (invalid : ¬IsUtf8 bytes)
    (view : View σ)
    {rest : List UInt8}
    {rounds : Nat}
    (enough : bytes.length ≤ rounds)
    (pending : view.pending = bytes ++ rest)
    (body : Str) :
    returned (readMultilineUpTo rounds body view) = .error (.io invalidUtf8) := by
  induction isDotted generalizing view rounds body with
  | @dot line isDot =>
      rcases isDot with rfl | rfl <;> exact absurd (by decide) invalid
  | @line line behind noFeed noDot _ inductionHypothesis =>
      rw [List.length_append, List.length_cons] at enough
      obtain ⟨rounds, rfl⟩ : ∃ fewer, rounds = fewer + 1 :=
        Nat.exists_eq_succ_of_ne_zero (by omega)
      rw [List.append_assoc, List.cons_append] at pending
      by_cases isText : IsUtf8 line
      · obtain ⟨text, rfl⟩ := (isUtf8_iff line).mp isText
        have noFeed' : '\n' ∉ text := fun member => noFeed ((feed_mem_utf8 text).mpr member)
        have split : view.pending = utf8 (text ++ ['\n']) ++ (behind ++ rest) := by
          rw [pending, utf8_line]
          simp
        have goesOn : ¬EndsBody text := fun ends => noDot ((endsBody_iff noFeed').mp ends)
        rw [readMultilineUpTo_of_line split noFeed' goesOn]
        exact inductionHypothesis
          (fun isTextRest => invalid ((isUtf8_feed _ _).mpr ⟨isText, isTextRest⟩)) _
          (by omega) rfl _
      · rw [readMultilineUpTo_of_error (readLine_of_invalid pending noFeed isText)]
        rfl

end View

/-- A body of text is read as a whole. -/
theorem View.readMultiline_of_dotted
    {bytes : List UInt8}
    (isDotted : IsDotted bytes)
    (isUtf8 : IsUtf8 bytes) :
    ∃ text, ∀ (σ : Type) (view : View σ) rest, view.pending = bytes ++ rest →
      view.readMultiline = .ok text { view with pending := rest } := by
  obtain ⟨text, reads⟩ := View.readMultilineUpTo_of_dotted isDotted isUtf8
  refine ⟨text, fun σ view rest pending => reads σ view rest _ [] ?_ pending⟩
  rw [pending, List.length_append]
  omega

/-- A body that is not text is not read. -/
theorem View.readMultiline_of_not_isUtf8
    {bytes rest : List UInt8}
    (isDotted : IsDotted bytes)
    (invalid : ¬IsUtf8 bytes)
    {view : View σ}
    (pending : view.pending = bytes ++ rest) :
    returned view.readMultiline = .error (.io invalidUtf8) := by
  have enough : bytes.length ≤ view.pending.length + 1 := by
    rw [pending, List.length_append]
    omega
  exact View.readMultilineUpTo_of_not_isUtf8 isDotted invalid view enough pending []

theorem isIoLevel_parseStatusLine
    {line : Str}
    {error : Pop3Error}
    (refused : parseStatusLine line = .error error) :
    isIoLevel error = false := by
  unfold parseStatusLine at refused
  dsimp only at refused
  split at refused
  · cases refused
  · split at refused
    · cases refused
      exact isIoLevel_parseRespCode _
    · cases refused
      rfl

/-! ## The replies of answering servers -/

/-- A stuffed line has no CRLF either. -/
theorem noCrlf_stuffOctets {octets : List UInt8} (noCrlf : ¬[13, 10] <:+: octets) :
    ¬[13, 10] <:+: stuffOctets octets := by
  rcases stuffOctets_eq octets with ⟨same, _⟩ | ⟨rest, rfl, dotted⟩
  · rwa [same]
  · rw [dotted, List.infix_cons_iff]
    rintro (atStart | inLine)
    · simp at atStart
    · exact noCrlf inLine

/-- A stuffed line has a single dot only where the line itself has one behind a bare LF. -/
theorem mem_splitOn_stuffOctets (line : OctetLine) :
    [46] ∈ (stuffOctets line.octets).splitOn 10 ↔ line.Forges := by
  obtain ⟨first, split, noDot⟩ := splitOn_stuffOctets line.octets
  rw [split, List.mem_cons, OctetLine.Forges]
  exact or_iff_right (Ne.symm noDot)

namespace Answer

/-- A line of the body as it is sent. -/
def stuffedLine (line : OctetLine) : OctetLine where
  octets := stuffOctets line.octets
  noCrlf := noCrlf_stuffOctets line.noCrlf

/-- The answer as a reply. -/
def wireReply (multiLine : Bool) (answer : Answer) : WireReply where
  status := ⟨utf8 answer.status, noCrlf_of_noFeed (by simp [answer.noFeed_status])⟩
  body := if multiLine && answer.isPositive then some (answer.body.map stuffedLine) else none

theorem encode_eq_bytes (multiLine : Bool) (answer : Answer) :
    answer.encode multiLine = (answer.wireReply multiLine).bytes := by
  have ending : utf8 crlf = [13, 10] := by decide
  have dot : utf8 terminator = [46, 13, 10] := by decide
  rw [encode, WireReply.bytes, utf8_append, ending, List.append_assoc]
  cases both : multiLine && answer.isPositive with
  | false => simp [wireReply, WireReply.bodyBytes, both]
  | true =>
      simp [wireReply, WireReply.bodyBytes, both, encodeBody, encodeLines, stuffedLine, dot,
        List.flatMap_map]

theorem isAccepted_status (answer : Answer) :
    IsAccepted (utf8 answer.status ++ [13]) ↔ answer.isPositive = true := by
  have line : (utf8 answer.status ++ [13]) ++ [10] = utf8 (answer.status ++ crlf) := by
    rw [utf8_append, show utf8 crlf = [13] ++ [10] from by decide, List.append_assoc]
  have parsed := answer.parseStatusLine_status
  rw [IsAccepted, line, fromUtf8_utf8]
  constructor
  · rintro ⟨text, message, same, accepted⟩
    injection same with same
    rw [← same, parsed, statusResult] at accepted
    by_contra negative
    rw [if_neg negative] at accepted
    cases accepted
  · intro positive
    rw [statusResult, if_pos positive] at parsed
    exact ⟨_, _, rfl, parsed⟩

theorem isWhole_wireReply (multiLine : Bool) (answer : Answer) :
    (answer.wireReply multiLine).IsWhole multiLine where
  noDot line member := by
    unfold wireReply at member
    split at member
    · obtain ⟨original, _, rfl⟩ := List.mem_map.mp member
      intro dot
      obtain ⟨first, split, noDot⟩ := splitOn_stuffOctets original.octets
      rw [show stuffOctets original.octets = [46] from dot] at split
      exact noDot (List.cons.inj split).1.symm
    · cases member
  single noBody := by simp [wireReply, noBody]
  accepted accepted := by
    rw [wireReply, isAccepted_status] at accepted
    cases multiLine <;> simp [wireReply, accepted]
  refused _ refused := by
    rw [wireReply, isAccepted_status] at refused
    simp [wireReply, refused]

/-- What an answering server sends is a complete reply. -/
theorem isWholeReply_encode (multiLine : Bool) (answer : Answer) :
    IsWholeReply multiLine (answer.encode multiLine) :=
  ⟨_, answer.isWhole_wireReply multiLine, answer.encode_eq_bytes multiLine⟩

/-- If no dot is alone behind a bare LF, bare LFs do no harm. -/
theorem isClearReply_encode
    (multiLine : Bool)
    {answer : Answer}
    (harmless : answer.IsHarmless) :
    IsClearReply multiLine (answer.encode multiLine) := by
  refine ⟨_, answer.isWhole_wireReply multiLine, ⟨?_, fun line member => ?_⟩,
    answer.encode_eq_bytes multiLine⟩
  · simp [wireReply, answer.noFeed_status]
  · unfold wireReply at member
    split at member
    · obtain ⟨original, inBody, rfl⟩ := List.mem_map.mp member
      exact fun lone => harmless original inBody ((mem_splitOn_stuffOctets original).mp lone)
    · cases member

end Answer

/-! ## Readers of replies -/

/-- The reader takes a complete reply off the stream exactly if it is text, and reports
no I/O-level error for it. -/
structure TakesReplies (multiLine : Bool) (receive : Action Pop3Error (View σ) α)
    (result : List UInt8 → Except Pop3Error α) : Prop where
  text : ∀ reply, IsSeenReply multiLine reply → IsUtf8 reply →
    ∀ (view : View σ) rest, view.pending = reply ++ rest →
      returned (receive view) = result reply ∧
        finalState (receive view) = { view with pending := rest }
  isServerLevel : ∀ reply error, IsSeenReply multiLine reply → IsUtf8 reply →
    result reply = .error error → isIoLevel error = false
  octets : ∀ reply, IsSeenReply multiLine reply → ¬IsUtf8 reply →
    ∀ (view : View σ) rest, view.pending = reply ++ rest →
      returned (receive view) = .error (.io invalidUtf8)

/-- A reader that takes what it gets from a reply, whatever is behind it. -/
theorem TakesReplies.of_reads
    {multiLine : Bool}
    {receive : ∀ σ : Type, Action Pop3Error (View σ) α}
    (reads : ∀ reply, IsSeenReply multiLine reply → IsUtf8 reply →
      ∃ result : Except Pop3Error α,
        (∀ error, result = .error error → isIoLevel error = false) ∧
        ∀ (σ : Type) (view : View σ) rest, view.pending = reply ++ rest →
          returned (receive σ view) = result ∧
            finalState (receive σ view) = { view with pending := rest })
    (octets : ∀ reply, IsSeenReply multiLine reply → ¬IsUtf8 reply →
      ∀ (view : View σ) rest, view.pending = reply ++ rest →
        returned (receive σ view) = .error (.io invalidUtf8)) :
    TakesReplies multiLine (receive σ)
      fun reply => returned (receive Unit { server := (), pending := reply }) where
  text reply whole isText view rest pending := by
    obtain ⟨result, _, same⟩ := reads reply whole isText
    obtain ⟨returns, after⟩ := same σ view rest pending
    exact ⟨returns.trans (same Unit _ [] (List.append_nil _).symm).1.symm, after⟩
  isServerLevel reply error whole isText := by
    obtain ⟨result, serverLevel, same⟩ := reads reply whole isText
    rw [(same Unit _ [] (List.append_nil _).symm).1]
    exact serverLevel error
  octets := octets

/-- A reply without a body is a line. -/
theorem exists_line_of_wholeReply
    {reply : List UInt8}
    (whole : IsSeenReply false reply) :
    ∃ line, 10 ∉ line ∧ reply = line ++ [10] := by
  cases whole with
  | accepted noFeed _ nothing =>
      cases nothing
      exact ⟨_, noFeed, rfl⟩
  | other noFeed _ => exact ⟨_, noFeed, rfl⟩
  | garbled _ _ multi _ => cases multi

/-- A line of text is decoded with its LF. -/
theorem exists_decoded
    {line : List UInt8}
    (isText : IsUtf8 line) :
    ∃ text, fromUtf8 (line ++ [10]) = some text :=
  Option.isSome_iff_exists.mp ((isUtf8_feed line []).mpr ⟨isText, isUtf8_utf8 []⟩)

/-- A decoded line is read as a status line. -/
theorem View.readStatus_of_line
    {view : View σ}
    {line rest : List UInt8}
    (pending : view.pending = line ++ 10 :: rest)
    (noFeed : 10 ∉ line)
    {text : Str}
    (decoded : fromUtf8 (line ++ [10]) = some text) :
    view.readStatus = ofResult (parseStatusLine text) { view with pending := rest } := by
  have read := View.readLine_of_line pending noFeed
  rw [decoded] at read
  rw [View.readStatus, bind_of_ok read]

/-- What the status line says when there is nothing else to read. -/
def statusReply (reply : List UInt8) : Except Pop3Error Str :=
  returned (View.readStatus ({ server := (), pending := reply } : View Unit))

/-- What the body says when there is nothing else to read. -/
def bodyReply (reply : List UInt8) : Except Pop3Error Str :=
  returned (View.readReply ({ server := (), pending := reply } : View Unit))

/-- Reading a status line takes it. -/
theorem takesReplies_status :
    TakesReplies false (View.readStatus : Action Pop3Error (View σ) Str) statusReply := by
  refine .of_reads (fun reply whole isText => ?_) fun reply whole invalid view rest pending => ?_
  · obtain ⟨line, noFeed, rfl⟩ := exists_line_of_wholeReply whole
    obtain ⟨text, decoded⟩ := exists_decoded ((isUtf8_feed line []).mp isText).1
    refine ⟨parseStatusLine text, fun error => isIoLevel_parseStatusLine,
      fun σ view rest pending => ?_⟩
    rw [List.append_assoc] at pending
    rw [View.readStatus_of_line pending noFeed decoded]
    cases parseStatusLine text <;> exact ⟨rfl, rfl⟩
  · obtain ⟨line, noFeed, rfl⟩ := exists_line_of_wholeReply whole
    rw [List.append_assoc] at pending
    have garbled : ¬IsUtf8 line := fun isText =>
      invalid ((isUtf8_feed line []).mpr ⟨isText, isUtf8_utf8 []⟩)
    rw [View.readStatus, bind_of_error (View.readLine_of_invalid pending noFeed garbled)]
    rfl

/-- Reading a body takes the status line and the body behind it. -/
theorem takesReplies_body :
    TakesReplies true (View.readReply : Action Pop3Error (View σ) Str) bodyReply := by
  refine .of_reads (fun reply whole isText => ?_) fun reply whole invalid view rest pending => ?_
  · cases whole with
    | @accepted line body noFeed isAccepted isDotted =>
        obtain ⟨text, message, decoded, positive⟩ := isAccepted
        obtain ⟨data, reads⟩ :=
          View.readMultiline_of_dotted isDotted ((isUtf8_feed line body).mp isText).2
        refine ⟨.ok data, fun error failed => (nomatch failed), fun σ view rest pending => ?_⟩
        rw [List.append_assoc, List.cons_append] at pending
        have status := View.readStatus_of_line pending noFeed decoded
        rw [positive] at status
        rw [View.readReply, bind_of_ok status, reads σ { view with pending := body ++ rest } rest rfl]
        exact ⟨rfl, rfl⟩
    | @other line noFeed notAccepted =>
        obtain ⟨text, decoded⟩ := exists_decoded ((isUtf8_feed line []).mp isText).1
        cases refused : parseStatusLine text with
        | ok message => exact absurd ⟨text, message, decoded, refused⟩ notAccepted
        | error error =>
            refine ⟨.error error, fun other same => ?_, fun σ view rest pending => ?_⟩
            · cases same
              exact isIoLevel_parseStatusLine refused
            · rw [List.append_assoc] at pending
              have status := View.readStatus_of_line pending noFeed decoded
              rw [refused] at status
              rw [View.readReply, bind_of_error status]
              exact ⟨rfl, rfl⟩
    | @garbled line body _ invalid _ _ =>
        exact absurd ((isUtf8_feed line body).mp isText).1 invalid
  · have stops : ∀ {line behind : List UInt8}, 10 ∉ line → ¬IsUtf8 line →
        view.pending = line ++ 10 :: behind →
          returned view.readReply = .error (.io invalidUtf8) := by
      intro line behind noFeed garbled pending
      have status : view.readStatus = .error (.io invalidUtf8) { view with pending := behind } := by
        rw [View.readStatus, bind_of_error (View.readLine_of_invalid pending noFeed garbled)]
      rw [View.readReply, bind_of_error status]
      rfl
    cases whole with
    | @accepted line body noFeed isAccepted isDotted =>
        obtain ⟨text, message, decoded, positive⟩ := isAccepted
        rw [List.append_assoc, List.cons_append] at pending
        have isText : IsUtf8 (line ++ [10]) := Option.isSome_iff_exists.mpr ⟨text, decoded⟩
        have garbled : ¬IsUtf8 body := fun isTextBody =>
          invalid ((isUtf8_feed line body).mpr ⟨((isUtf8_feed line []).mp isText).1, isTextBody⟩)
        have status := View.readStatus_of_line pending noFeed decoded
        rw [positive] at status
        rw [View.readReply, bind_of_ok status]
        exact View.readMultiline_of_not_isUtf8 isDotted garbled rfl
    | @other line noFeed _ =>
        rw [List.append_assoc] at pending
        have garbled : ¬IsUtf8 line := fun isText =>
          invalid ((isUtf8_feed line []).mpr ⟨isText, isUtf8_utf8 []⟩)
        exact stops noFeed garbled pending
    | @garbled line body noFeed garbled _ _ =>
        rw [List.append_assoc, List.cons_append] at pending
        exact stops noFeed garbled pending

/-- A reader that wraps what another takes. -/
theorem TakesReplies.map
    {multiLine : Bool}
    {receive : Action Pop3Error (View σ) α}
    {result : List UInt8 → Except Pop3Error α}
    (takes : TakesReplies multiLine receive result)
    (wrap : α → β) :
    TakesReplies multiLine (do return wrap (← receive)) fun reply => (result reply).map wrap where
  text reply whole isText view rest pending := by
    obtain ⟨same, after⟩ := takes.text reply whole isText view rest pending
    rw [returned_bind_pure, finalState_bind_pure, same]
    exact ⟨rfl, after⟩
  isServerLevel reply error whole isText failed :=
    takes.isServerLevel reply error whole isText (map_error failed)
  octets reply whole invalid view rest pending := by
    rw [returned_bind_pure, takes.octets reply whole invalid view rest pending]
    rfl

/-- What a `DELE` response says when there is nothing else to read. -/
def deleReply (reply : List UInt8) : Except Pop3Error Unit :=
  returned (View.readDeleResponse ({ server := (), pending := reply } : View Unit))

/-- What a `RETR` response says when there is nothing else to read. -/
def retrReply (reply : List UInt8) : Except Pop3Error Message :=
  returned (View.readRetrResponse ({ server := (), pending := reply } : View Unit))

/-- Reading a `DELE` response takes a status line. -/
theorem takesReplies_dele :
    TakesReplies false (View.readDeleResponse : Action Pop3Error (View σ) Unit) deleReply := by
  have same : deleReply = fun reply => (statusReply reply).map fun _ => () := by
    funext reply
    rw [deleReply, View.readDeleResponse_eq, returned_bind_pure]
    rfl
  rw [View.readDeleResponse_eq, same]
  exact takesReplies_status.map fun _ => ()

/-- Reading a `RETR` response takes a status line and the body behind it. -/
theorem takesReplies_retr :
    TakesReplies true (View.readRetrResponse : Action Pop3Error (View σ) Message)
      retrReply := by
  have same : retrReply = fun reply => (bodyReply reply).map Message.mk := by
    funext reply
    rw [retrReply, View.readRetrResponse_eq, returned_bind_pure]
    rfl
  rw [View.readRetrResponse_eq, same]
  exact takesReplies_body.map Message.mk

end Pop3
