import Pop3.Octets.Backlog

/-!
# Reading a reply that is cut off

The connection ends somewhere inside a reply.  What the reader then makes of
the part that has arrived depends only on whether that part looks whole.
-/

namespace Pop3

open Rust Framing

/-! ## Cuts -/

/-- The beginning of a body is some whole lines and a part of the next. -/
theorem exists_fragment
    {body : List OctetLine}
    (plain : ∀ line ∈ body, line.IsPlain)
    {kept : Nat}
    (proper : kept < (encodeBody body).length) :
    ∃ count fragment, count ≤ body.length ∧ 10 ∉ fragment ∧
      (encodeBody body).take kept = encodeLines (body.take count) ++ fragment := by
  induction body generalizing kept with
  | nil =>
      have ending : encodeBody [] = [46, 13] ++ [10] := by decide
      rw [ending, List.length_append, List.length_singleton] at proper
      refine ⟨0, [46, 13].take kept, Nat.le_refl _, ?_, ?_⟩
      · exact fun member => absurd (List.mem_of_mem_take member) (by decide)
      · rw [ending, List.take_append_of_le_length (by omega)]
        rfl
  | cons line body inductionHypothesis =>
      obtain ⟨plainLine, plainBody⟩ := List.forall_mem_cons.mp plain
      have split : encodeBody (line :: body) =
          (stuffOctets line.octets ++ [13]) ++ [10] ++ encodeBody body := by
        simp [encodeBody, encodeLines]
      rw [split] at proper ⊢
      by_cases inside : kept ≤ (stuffOctets line.octets ++ [13]).length
      · refine ⟨0, (stuffOctets line.octets ++ [13]).take kept, Nat.zero_le _, ?_, ?_⟩
        · exact fun member => noFeed_stuffOctets plainLine (List.mem_of_mem_take member)
        · rw [List.append_assoc, List.take_append_of_le_length inside]
          rfl
      · have whole : (stuffOctets line.octets ++ [13] ++ [10]).length ≤ kept := by
          rw [List.length_append, List.length_singleton]
          omega
        obtain ⟨more, rfl⟩ := Nat.exists_eq_add_of_le whole
        have properRest : more < (encodeBody body).length := by
          simp only [List.length_append] at proper
          omega
        obtain ⟨count, fragment, bound, noFeed, same⟩ := inductionHypothesis plainBody properRest
        refine ⟨count + 1, fragment, Nat.succ_le_succ bound, noFeed, ?_⟩
        rw [List.take_length_add_append, same]
        simp [encodeLines]

/-- A part of a line of text without its LF has none. -/
theorem noFeed_take_status
    {answer : Answer}
    {kept : Nat}
    (proper : kept < (utf8 (answer.status ++ crlf)).length) :
    10 ∉ (utf8 (answer.status ++ crlf)).take kept := by
  have split : utf8 (answer.status ++ crlf) = utf8 (answer.status ++ ['\r']) ++ [10] := by
    have ending : utf8 crlf = utf8 ['\r'] ++ [10] := by decide
    rw [utf8_append, ending, utf8_append, List.append_assoc]
  have noFeed : '\n' ∉ answer.status ++ ['\r'] := by simp [answer.noFeed_status]
  rw [split, List.length_append, List.length_singleton] at proper
  rw [split, List.take_append_of_le_length (by omega)]
  exact fun member => noFeed ((feed_mem_utf8 _).mp (List.mem_of_mem_take member))

/-! ## Reading to the end -/

/-- The action fails. -/
def Fails (result : EStateM.Result Pop3Error S α) : Prop :=
  ∃ error, returned result = .error error

namespace View

variable {view : View σ}

/-- The last text before the end of the connection is read as a line. -/
theorem readLine_of_last
    (closed : view.isOpen = false)
    {text : Str}
    (pending : view.pending = utf8 text)
    (noFeed : '\n' ∉ text)
    (nonempty : text ≠ []) :
    view.readLine = .ok text { view with pending := [] } := by
  have noFeed' : 10 ∉ view.pending := by
    rw [pending]
    exact fun member => noFeed ((feed_mem_utf8 text).mp member)
  have some_left : ¬view.pending.length = 0 := by
    rw [pending, List.length_eq_zero_iff, utf8_eq_nil_iff]
    exact nonempty
  have decoded : fromUtf8 view.pending = some text := by rw [pending, fromUtf8_utf8]
  rw [readLine_of_end closed noFeed', decoded]
  exact if_neg some_left

/-- What is read at the end of the connection is all that is left. -/
theorem fails_or_reads_last
    (closed : view.isOpen = false)
    (noFeed : 10 ∉ view.pending) :
    Fails view.readLine ∨ ∃ text, view.pending = utf8 text ∧ '\n' ∉ text ∧
      view.readLine = .ok text { view with pending := [] } := by
  cases decoded : fromUtf8 view.pending with
  | none =>
      rw [readLine_of_end closed noFeed, decoded]
      exact .inl ⟨_, rfl⟩
  | some text =>
      have pending := (utf8_of_fromUtf8_eq_some decoded).symm
      by_cases empty : text = []
      · rw [readLine_of_end closed noFeed, decoded]
        have nothing : view.pending.length = 0 := by rw [pending, empty]; rfl
        exact .inl ⟨.connectionClosed, by simp [nothing]⟩
      · have noFeed' : '\n' ∉ text := by
          rw [pending, feed_mem_utf8] at noFeed
          exact noFeed
        exact .inr ⟨text, pending, noFeed', readLine_of_last closed pending noFeed' empty⟩

/-- At the end of the connection no body ends. -/
theorem fails_readMultilineUpTo
    (closed : view.isOpen = false)
    (nothing : view.pending = [])
    (rounds : Nat)
    (body : Str) :
    Fails (readMultilineUpTo rounds body view) := by
  cases rounds with
  | zero => exact ⟨_, rfl⟩
  | succ rounds =>
      have ended : view.readLine = .error .connectionClosed
          { view with pending := [], isClosed := true } := by
        rw [readLine_of_end closed (by simp [nothing]), nothing]
        rfl
      rw [readMultilineUpTo_of_error ended]
      exact ⟨_, rfl⟩

theorem trimLine_of_noFeed
    {text : Str}
    (noFeed : '\n' ∉ text) :
    Transport.trimLine text = text := by
  have crlf : ¬"\r\n".toList <:+ text := not_suffix_of_not_mem (by decide) noFeed
  have feed : ¬"\n".toList <:+ text := not_suffix_of_not_mem (by decide) noFeed
  rw [Transport.trimLine, trimEndMatches_eq_self crlf, trimEndMatches_eq_self feed]

/-- A body that is cut off is taken for whole exactly when a single dot is left of its
last line. -/
theorem readMultiline_of_fragment
    (closed : view.isOpen = false)
    {lines : List Line}
    {fragment : List UInt8}
    (noFeed : 10 ∉ fragment)
    (pending : view.pending = encodeLines (lines.map Line.encode) ++ fragment) :
    (fragment = [46] → returned view.readMultiline = .ok (joined (lines.map Line.text))) ∧
      (fragment ≠ [46] → Fails view.readMultiline) := by
  have noFeedLines : ∀ text ∈ lines.map (fun line => bodyLine line.text), '\n' ∉ text := by
    intro text member
    obtain ⟨line, _, rfl⟩ := List.mem_map.mp member
    exact noFeed_bodyLine line.noFeed
  have goesOn : ∀ text ∈ lines.map (fun line => bodyLine line.text), ¬EndsBody text := by
    intro text member
    obtain ⟨line, _, rfl⟩ := List.mem_map.mp member
    exact not_endsBody_bodyLine line.noFeed
  rw [encodeLines_encode] at pending
  obtain ⟨ended, rounds, closedEnd, pendingEnd, same⟩ : ∃ (ended : View σ) (rounds : Nat),
      ended.isOpen = false ∧ ended.pending = fragment ∧ view.readMultiline =
        readMultilineUpTo (rounds + 1)
          ((lines.map fun line => bodyLine line.text).flatMap content) ended := by
    obtain ⟨rounds, same⟩ := readMultiline_of_lines pending noFeedLines goesOn
    exact ⟨{ view with pending := fragment }, rounds, closed, rfl, same⟩
  have contents : (lines.map fun line => bodyLine line.text).flatMap content =
      joined (lines.map Line.text) := by
    rw [joined, List.flatMap_map, List.flatMap_map]
    exact List.flatMap_congr fun line _ => content_bodyLine line.noFeed
  have dot : utf8 ['.'] = [46] := by decide
  rw [same, contents, readMultilineUpTo]
  constructor
  · intro single
    have last : ended.pending = utf8 ['.'] := pendingEnd.trans (single.trans dot.symm)
    rw [bind_of_ok (readLine_of_last closedEnd last (by decide) (by decide))]
    rfl
  · intro different
    rcases fails_or_reads_last closedEnd (pendingEnd ▸ noFeed) with
      ⟨error, failed⟩ | ⟨text, decoded, noFeed', read⟩
    · rw [bind_of_error (eq_error_of_returned failed)]
      exact ⟨error, rfl⟩
    · rw [bind_of_ok read, trimLine_of_noFeed noFeed']
      have noDot : text ≠ ".".toList := by
        rintro rfl
        exact different (pendingEnd.symm.trans (decoded.trans dot))
      rw [if_neg noDot]
      apply fails_readMultilineUpTo
      · exact closedEnd
      · rfl

end View

/-! ## Replies that look whole -/

/-- The answer with only the first lines of its body. -/
def Answer.shorten (count : Nat) (answer : Answer) : Answer :=
  { answer with body := answer.body.take count }

/-- What has arrived of a positive reply looks whole: it is `+OK` and a part of the
status text, or some lines of the body and a dot, and what it carries is accepted. -/
def LooksWhole (multiLine : Bool) (answer : Answer) (accepts : Str → Bool)
    (bytes : List UInt8) : Prop :=
  answer.isPositive = true ∧
    if multiLine then
      ∃ count, (answer.shorten count).IsText ∧
        bytes = utf8 (answer.status ++ crlf) ++
          (encodeLines (answer.shorten count).body ++ [46]) ∧
        accepts (answer.shorten count).bodyText = true
    else
      ∃ text, bytes = utf8 ("+OK".toList ++ text) ∧ accepts (trimStart text) = true

/-- A beginning of a status line that starts with `+OK` is that of a positive one. -/
theorem positive_of_prefix
    {answer : Answer}
    {text : Str}
    (begins : utf8 ("+OK".toList ++ text) <+: utf8 (answer.status ++ crlf)) :
    answer.isPositive = true ∧ IsSpaced text := by
  obtain ⟨rest, same⟩ := begins
  have positive : answer.isPositive = true := by
    by_contra negative
    have keyword : answer.status = "-ERR".toList ++ Answer.suffix answer.text := by
      rw [Answer.status, if_neg negative]
    rw [keyword] at same
    have firstOk : ∀ bytes, utf8 "+OK".toList ++ bytes = 43 :: (utf8 "OK".toList ++ bytes) := by
      intro bytes
      rfl
    have firstErr : ∀ bytes, utf8 "-ERR".toList ++ bytes = 45 :: (utf8 "ERR".toList ++ bytes) := by
      intro bytes
      rfl
    simp only [utf8_append, List.append_assoc, firstOk, firstErr] at same
    injection same with first
    exact absurd first (by decide)
  refine ⟨positive, ?_⟩
  have keyword : answer.status = "+OK".toList ++ Answer.suffix answer.text := by
    rw [Answer.status, if_pos positive]
  rw [keyword] at same
  simp only [utf8_append, List.append_assoc, List.append_cancel_left_eq] at same
  cases text with
  | nil => exact .inl rfl
  | cons character text =>
      refine .inr ⟨character, text, rfl, ?_⟩
      unfold Answer.suffix at same
      split at same
      · have carriageReturn : utf8 [] ++ utf8 crlf = asciiByte '\r' :: [10] := by decide
        rw [carriageReturn] at same
        rw [eq_of_utf8_head (by decide) same]
        decide
      · have space : ∀ bytes, utf8 (' ' :: answer.text.text) ++ bytes =
            asciiByte ' ' :: (utf8 answer.text.text ++ bytes) := fun _ => rfl
        rw [space] at same
        rw [eq_of_utf8_head (by decide) same]
        decide

/-- A status line that is cut off is read as one that looks whole, or not at all. -/
theorem View.readStatus_of_cut
    {view : View σ}
    (closed : view.isOpen = false)
    {answer : Answer}
    {kept : Nat}
    (proper : kept < (utf8 (answer.status ++ crlf)).length)
    (pending : view.pending = (utf8 (answer.status ++ crlf)).take kept) :
    (∃ text, answer.isPositive = true ∧ view.pending = utf8 ("+OK".toList ++ text) ∧
      view.readStatus = .ok (trimStart text) { view with pending := [] }) ∨
    (Fails view.readStatus ∧ ∀ text, view.pending ≠ utf8 ("+OK".toList ++ text)) := by
  have noFeed : 10 ∉ view.pending := pending ▸ noFeed_take_status proper
  have begins : view.pending <+: utf8 (answer.status ++ crlf) :=
    pending ▸ List.take_prefix kept _
  rcases fails_or_reads_last closed noFeed with failed | ⟨line, decoded, noFeedLine, read⟩
  · right
    obtain ⟨error, failed⟩ := failed
    refine ⟨⟨error, ?_⟩, fun text same => ?_⟩
    · rw [readStatus, bind_of_error (eq_error_of_returned failed)]
      rfl
    · have noFeedText : '\n' ∉ "+OK".toList ++ text := by
        rw [same, feed_mem_utf8] at noFeed
        exact noFeed
      rw [readLine_of_last closed same noFeedText (by simp)] at failed
      cases failed
  · rw [readStatus, bind_of_ok read]
    by_cases keyword : "+OK".toList <+: line
    · obtain ⟨text, rfl⟩ := keyword
      obtain ⟨positive, spaced⟩ := positive_of_prefix (decoded ▸ begins)
      refine .inl ⟨text, positive, decoded, ?_⟩
      rw [parseStatusLine_positive (trimLine_of_noFeed noFeedLine) spaced]
      rfl
    · refine .inr ⟨?_, fun text same => ?_⟩
      · cases status : parseStatusLine line with
        | ok text => exact absurd (prefix_of_parseStatusLine status) keyword
        | error error => exact ⟨error, rfl⟩
      · have line_eq : line = "+OK".toList ++ text := utf8_injective (decoded.symm.trans same)
        exact keyword (line_eq ▸ List.prefix_append _ _)

/-! ## Reading a reply that is cut off -/

section Cut

variable {view : View σ} {answer : Answer} {kept : Nat}

theorem fails_ofResult (result : Except Pop3Error α) (state : S) :
    Fails (ofResult result state) ↔ ¬result.isOk = true := by
  cases result with
  | ok value => simp [Fails, Except.isOk, Except.toBool]
  | error error => simp [Fails, Except.isOk, Except.toBool]

theorem Fails.bind
    {action : Action Pop3Error S α}
    {state : S}
    (fails : Fails (action state))
    (next : α → Action Pop3Error S β) :
    Fails ((action >>= next) state) := by
  obtain ⟨error, failed⟩ := fails
  rw [bind_of_error (eq_error_of_returned failed)]
  exact ⟨error, rfl⟩

/-- A reply without a body that is cut off fails unless it looks whole. -/
theorem fails_readStatus_iff
    (closed : view.isOpen = false)
    (proper : kept < (answer.encode false).length)
    (pending : view.pending = (answer.encode false).take kept)
    (parse : Str → Except Pop3Error α) :
    Fails ((do
      let text ← View.readStatus
      ofResult (parse text)) view) ↔
      ¬LooksWhole false answer (fun text => (parse text).isOk) view.pending := by
  have whole : answer.encode false = utf8 (answer.status ++ crlf) := by simp [Answer.encode]
  rw [whole] at proper pending
  rcases View.readStatus_of_cut closed proper pending with
    ⟨text, positive, arrived, read⟩ | ⟨fails, never⟩
  · rw [bind_of_ok read, fails_ofResult]
    refine not_congr ⟨fun accepted => ⟨positive, text, arrived, accepted⟩, ?_⟩
    rintro ⟨_, other, arrived', accepted⟩
    have same := List.append_cancel_left (utf8_injective (arrived.symm.trans arrived'))
    rwa [same]
  · refine iff_of_true (fails.bind _) ?_
    rintro ⟨_, text, arrived, _⟩
    exact never text arrived

/-- A reply with a body that is cut off in its status line fails. -/
theorem fails_readReply_of_status
    (closed : view.isOpen = false)
    (proper : kept < (utf8 (answer.status ++ crlf)).length)
    (pending : view.pending = (utf8 (answer.status ++ crlf)).take kept) :
    Fails view.readReply := by
  rcases View.readStatus_of_cut closed proper pending with ⟨text, _, _, read⟩ | ⟨fails, _⟩
  · rw [View.readReply, bind_of_ok read]
    apply View.fails_readMultilineUpTo
    · exact closed
    · rfl
  · exact fails.bind _

/-- Behind a positive status line the body is read. -/
theorem readReply_of_positive
    (positive : answer.isPositive = true)
    {rest : List UInt8}
    (pending : view.pending = utf8 (answer.status ++ crlf) ++ rest) :
    view.readReply = View.readMultiline { view with pending := rest } := by
  have status : view.readStatus = .ok (trimStart answer.text.text) { view with pending := rest } := by
    rw [View.readStatus, bind_of_ok (View.readLine_of_status pending),
      Answer.parseStatusLine_status, Answer.statusResult, if_pos positive]
    rfl
  rw [View.readReply, bind_of_ok status]

/-- Whole lines of text and a dot are read as a body. -/
theorem readReply_of_dot
    (closed : view.isOpen = false)
    (positive : answer.isPositive = true)
    (plain : answer.IsPlain)
    (isText : answer.IsText)
    (pending : view.pending = utf8 (answer.status ++ crlf) ++ (encodeLines answer.body ++ [46])) :
    returned view.readReply = .ok answer.bodyText := by
  rw [readReply_of_positive positive pending]
  obtain ⟨isPositive, text, body⟩ := answer
  obtain ⟨lines, rfl⟩ := exists_lines_of_isUtf8 plain isText
  rw [bodyText_encode]
  have ended : ({ view with pending := encodeLines (lines.map Line.encode) ++ [46] } :
      View σ).isOpen = false := closed
  exact (View.readMultiline_of_fragment ended (by decide) rfl).1 rfl

/-- A reply with a body that is cut off fails unless it looks whole. -/
theorem fails_readReply_iff
    (plain : answer.IsPlain)
    (closed : view.isOpen = false)
    (proper : kept < (answer.encode true).length)
    (pending : view.pending = (answer.encode true).take kept)
    (parse : Str → Except Pop3Error α) :
    Fails ((do
      let body ← View.readReply
      ofResult (parse body)) view) ↔
      ¬LooksWhole true answer (fun body => (parse body).isOk) view.pending := by
  by_cases inStatus : kept < (utf8 (answer.status ++ crlf)).length
  · have cut : view.pending = (utf8 (answer.status ++ crlf)).take kept := by
      rw [pending, Answer.encode, List.take_append_of_le_length inStatus.le]
    refine iff_of_true ((fails_readReply_of_status closed inStatus cut).bind _) ?_
    rintro ⟨_, count, _, arrived, _⟩
    have shorter : view.pending.length < (utf8 (answer.status ++ crlf)).length := by
      rw [cut, List.length_take]
      omega
    rw [arrived, List.length_append] at shorter
    omega
  · obtain ⟨more, rfl⟩ := Nat.exists_eq_add_of_le (Nat.le_of_not_lt inStatus)
    have positive : answer.isPositive = true := by
      by_contra negative
      have encoded : answer.encode true = utf8 (answer.status ++ crlf) := by
        simp [Answer.encode, negative]
      rw [encoded] at proper
      omega
    have encoded : answer.encode true =
        utf8 (answer.status ++ crlf) ++ encodeBody answer.body := by
      simp [Answer.encode, positive]
    rw [encoded, List.length_append] at proper
    rw [encoded, List.take_length_add_append] at pending
    obtain ⟨count, fragment, bound, noFeed, cut⟩ :=
      exists_fragment plain (Nat.lt_of_add_lt_add_left proper)
    rw [cut] at pending
    have plainly : ∀ count, (answer.shorten count).IsPlain :=
      fun count line member => plain line (List.mem_of_mem_take member)
    constructor
    · rintro fails ⟨_, other, isText, arrived, accepted⟩
      have shorter : (answer.shorten other).isPositive = true := positive
      have read := readReply_of_dot closed shorter (plainly other) isText arrived
      rw [bind_of_ok (eq_ok_of_returned read), fails_ofResult] at fails
      exact fails accepted
    · intro noWhole
      by_cases isText : (answer.shorten count).IsText
      · by_cases dot : fragment = [46]
        · rw [dot] at pending
          have shorter : (answer.shorten count).isPositive = true := positive
          have read := readReply_of_dot closed shorter (plainly count) isText pending
          rw [bind_of_ok (eq_ok_of_returned read), fails_ofResult]
          exact fun accepted => noWhole ⟨positive, count, isText, pending, accepted⟩
        · apply Fails.bind
          rw [readReply_of_positive positive pending]
          obtain ⟨lines, same⟩ := exists_lines_of_isUtf8 (plainly count) isText
          have ended : ({ view with pending := encodeLines (answer.body.take count) ++ fragment } :
              View σ).pending = encodeLines (lines.map Line.encode) ++ fragment :=
            congrArg (encodeLines · ++ fragment) same
          exact (View.readMultiline_of_fragment (by exact closed) noFeed ended).2 dot
      · apply Fails.bind
        rw [readReply_of_positive positive pending]
        have left_over : ({ view with pending := encodeLines (answer.body.take count) ++ fragment } :
            View σ).pending = encodeLines (answer.body.take count) ++ fragment := rfl
        obtain ⟨left, _, stops⟩ :=
          View.readMultiline_of_unreadable_lines (plainly count) left_over isText
        rw [stops]
        exact ⟨_, rfl⟩

end Cut

end Pop3
