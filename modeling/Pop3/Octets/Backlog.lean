import Pop3.Batches

/-!
# Backlogs

A reader that stops at a line that is not text leaves the rest of that reply
behind, and everything it reads from then on is behind by as much.
-/

namespace Pop3

open Rust Framing

/-! ## Readable bytes -/

/-- An ASCII byte in front does not matter. -/
theorem isUtf8_cons
    {character : Char}
    (ascii : character.val ≤ 127)
    (rest : List UInt8) :
    IsUtf8 (asciiByte character :: rest) ↔ IsUtf8 rest := by
  have split := isUtf8_append_cons ascii [] rest
  have empty : IsUtf8 [] := isUtf8_utf8 []
  simpa [empty] using split

theorem isUtf8_stuffOctets (octets : List UInt8) :
    IsUtf8 (stuffOctets octets) ↔ IsUtf8 octets := by
  have dot : asciiByte '.' = 46 := by decide
  have front : ∀ rest, IsUtf8 (46 :: rest) ↔ IsUtf8 rest := by
    rw [← dot]
    exact isUtf8_cons (by decide)
  unfold stuffOctets
  split
  · rw [front]
  · rfl

theorem isUtf8_line (octets rest : List UInt8) :
    IsUtf8 (octets ++ 13 :: 10 :: rest) ↔ IsUtf8 octets ∧ IsUtf8 rest := by
  have carriageReturn : asciiByte '\r' = 13 := by decide
  have feed : asciiByte '\n' = 10 := by decide
  rw [← carriageReturn, isUtf8_append_cons (by decide), ← feed, isUtf8_cons (by decide)]

/-- A body is text when its lines are. -/
theorem isUtf8_encodeBody (lines : List OctetLine) :
    IsUtf8 (encodeBody lines) ↔ ∀ line ∈ lines, IsUtf8 line.octets := by
  induction lines with
  | nil => simp [encodeBody, encodeLines]
  | cons line lines inductionHypothesis =>
      have split : encodeBody (line :: lines) =
          stuffOctets line.octets ++ 13 :: 10 :: encodeBody lines := by
        simp [encodeBody, encodeLines]
      rw [split, isUtf8_line, isUtf8_stuffOctets, inductionHypothesis, List.forall_mem_cons]

/-- A reply is text when what it carries is. -/
theorem Answer.isUtf8_encode (multiLine : Bool) (answer : Answer) :
    IsUtf8 (answer.encode multiLine) ↔
      ((multiLine && answer.isPositive) = true → answer.IsText) := by
  have ending : utf8 crlf = [13, 10] := by decide
  have split : ∀ rest, IsUtf8 (utf8 (answer.status ++ crlf) ++ rest) ↔ IsUtf8 rest := by
    intro rest
    rw [utf8_append, ending, List.append_assoc]
    change IsUtf8 (utf8 answer.status ++ 13 :: 10 :: rest) ↔ _
    rw [isUtf8_line]
    simp
  rw [encode, split]
  by_cases both : (multiLine && answer.isPositive) = true
  · rw [if_pos both, isUtf8_encodeBody]
    exact ⟨fun isText _ => isText, fun readable => readable both⟩
  · rw [if_neg both]
    exact ⟨fun _ holds => absurd holds both, fun _ => isUtf8_utf8 []⟩

/-- An answer with plain lines is readable when it is text. -/
theorem Answer.IsPlain.isUtf8_iff
    {answer : Answer}
    (plain : answer.IsPlain)
    (multiLine : Bool) :
    IsUtf8 (answer.encode multiLine) ↔ answer.IsReadable multiLine := by
  rw [isUtf8_encode]
  exact forall_congr' fun _ => ⟨fun isText => ⟨isText, plain.harmless⟩, IsClear.isText⟩

/-! ## Unreadable bodies -/

/-- Not everything has the property, so something is the first that has not. -/
theorem exists_first_not
    {property : α → Prop}
    {items : List α}
    (notAll : ¬∀ item ∈ items, property item) :
    ∃ good bad left, items = good ++ bad :: left ∧ (∀ item ∈ good, property item) ∧
      ¬property bad := by
  induction items with
  | nil => simp at notAll
  | cons item items inductionHypothesis =>
      by_cases holds : property item
      · have later : ¬∀ other ∈ items, property other := by
          intro others
          exact notAll (List.forall_mem_cons.mpr ⟨holds, others⟩)
        obtain ⟨good, bad, left, rfl, allGood, isBad⟩ := inductionHypothesis later
        exact ⟨item :: good, bad, left, rfl, List.forall_mem_cons.mpr ⟨holds, allGood⟩, isBad⟩
      · exact ⟨[], item, items, rfl, by simp, holds⟩

theorem noFeed_stuffOctets {line : OctetLine} (plain : line.IsPlain) :
    10 ∉ stuffOctets line.octets ++ [13] := by
  have stuffed : 10 ∉ stuffOctets line.octets := by
    have absent := plain.2
    unfold stuffOctets
    split
    · rename_i rest same
      simp_all
    · exact absent
  simp [stuffed]

namespace View

variable {view : View σ}

/-- Lines of a body are read up to the first that is not text. -/
theorem readMultiline_of_unreadable_lines
    {body : List OctetLine}
    (plain : ∀ line ∈ body, line.IsPlain)
    {rest : List UInt8}
    (pending : view.pending = encodeLines body ++ rest)
    (unreadable : ¬∀ line ∈ body, IsUtf8 line.octets) :
    ∃ left, (∀ line ∈ left, line.IsPlain) ∧ view.readMultiline =
      .error (.io invalidUtf8) { view with pending := encodeLines left ++ rest } := by
  obtain ⟨good, bad, left, rfl, goodText, invalid⟩ := exists_first_not unreadable
  obtain ⟨plainGood, plainBad, plainLeft⟩ :
      (∀ line ∈ good, line.IsPlain) ∧ bad.IsPlain ∧ ∀ line ∈ left, line.IsPlain := by
    simpa [or_imp, forall_and] using plain
  obtain ⟨lines, rfl⟩ := exists_lines_of_isUtf8 plainGood goodText
  have noFeed : ∀ text ∈ lines.map (fun line => bodyLine line.text), '\n' ∉ text := by
    intro text member
    obtain ⟨line, _, rfl⟩ := List.mem_map.mp member
    exact noFeed_bodyLine line.noFeed
  have goesOn : ∀ text ∈ lines.map (fun line => bodyLine line.text), ¬EndsBody text := by
    intro text member
    obtain ⟨line, _, rfl⟩ := List.mem_map.mp member
    exact not_endsBody_bodyLine line.noFeed
  have undecoded : ¬IsUtf8 (stuffOctets bad.octets ++ [13]) := by
    have carriageReturn : asciiByte '\r' = 13 := by decide
    rw [← carriageReturn, isUtf8_append_cons (by decide), isUtf8_stuffOctets]
    exact fun both => invalid both.1
  have framed : view.pending = utf8 (joined (lines.map fun line => bodyLine line.text)) ++
      ((stuffOctets bad.octets ++ [13]) ++ 10 :: (encodeLines left ++ rest)) := by
    rw [pending, ← encodeLines_encode]
    simp [encodeLines]
  refine ⟨left, plainLeft, readMultiline_of_error framed noFeed goesOn ?_⟩
  exact readLine_of_invalid rfl (noFeed_stuffOctets plainBad) undecoded

/-- A body is read up to its first line that is not text. -/
theorem readMultiline_of_unreadable
    {body : List OctetLine}
    (plain : ∀ line ∈ body, line.IsPlain)
    {rest : List UInt8}
    (pending : view.pending = encodeBody body ++ rest)
    (unreadable : ¬∀ line ∈ body, IsUtf8 line.octets) :
    ∃ left, (∀ line ∈ left, line.IsPlain) ∧ view.readMultiline =
      .error (.io invalidUtf8) { view with pending := encodeBody left ++ rest } := by
  rw [encodeBody, List.append_assoc] at pending
  obtain ⟨left, plainLeft, stops⟩ := readMultiline_of_unreadable_lines plain pending unreadable
  rw [← List.append_assoc] at stops
  exact ⟨left, plainLeft, stops⟩

end View

/-! ## What is left behind -/

/-- The rest of a body whose reader has stopped, if any, and whole replies behind it. -/
def backlog (left : Option (List OctetLine)) (answers : List Answer) : List UInt8 :=
  (match left with
    | none => []
    | some lines => encodeBody lines) ++ Dialogue.replies true answers

/-- Every line that is left behind is plain. -/
structure PlainlyLeft (left : Option (List OctetLine)) (answers : List Answer) : Prop where
  lines : ∀ lines, left = some lines → ∀ line ∈ lines, line.IsPlain
  answers : ∀ answer ∈ answers, answer.IsPlain

/-- Something is left behind. -/
def IsBacklog (pending : List UInt8) : Prop :=
  ∃ left answers, pending = backlog left answers ∧ PlainlyLeft left answers ∧
    (left ≠ none ∨ answers ≠ [])

theorem IsBacklog.ne_nil {pending : List UInt8} (left : IsBacklog pending) : pending ≠ [] := by
  obtain ⟨left, answers, rfl, _, something⟩ := left
  have ending : utf8 crlf ≠ [] := by decide
  cases left with
  | some lines => simp [backlog, encodeBody, show utf8 terminator ≠ [] by decide]
  | none =>
      cases answers with
      | nil => simp at something
      | cons answer answers => simp [backlog, Dialogue.replies, Answer.encode, ending]

theorem isBacklog_body
    {lines : List OctetLine}
    (plainLines : ∀ line ∈ lines, line.IsPlain)
    {answers : List Answer}
    (plain : ∀ answer ∈ answers, answer.IsPlain) :
    IsBacklog (encodeBody lines ++ Dialogue.replies true answers) := by
  refine ⟨some lines, answers, rfl, ⟨fun _ same => ?_, plain⟩, .inl (by simp)⟩
  cases same
  exact plainLines

theorem isBacklog_replies
    {answers : List Answer}
    (plain : ∀ answer ∈ answers, answer.IsPlain)
    (nonempty : answers ≠ []) :
    IsBacklog (Dialogue.replies true answers) :=
  ⟨none, answers, rfl, ⟨by simp, plain⟩, .inr nonempty⟩

/-- Another reply comes behind the backlog, which is then enough for its reader. -/
theorem IsBacklog.append
    {pending : List UInt8}
    (behind : IsBacklog pending)
    {answer : Answer}
    (plain : answer.IsPlain) :
    ∃ left answers, pending ++ answer.encode true = backlog left answers ∧
      PlainlyLeft left answers ∧ (left ≠ none ∧ answers ≠ [] ∨ 2 ≤ answers.length) := by
  obtain ⟨left, answers, rfl, plainly, something⟩ := behind
  refine ⟨left, answers ++ [answer], by simp [backlog, Dialogue.replies],
    ⟨plainly.lines, ?_⟩, ?_⟩
  · intro other member
    rcases List.mem_append.mp member with before | last
    · exact plainly.answers other before
    · exact List.mem_singleton.mp last ▸ plain
  · refine something.imp (fun some => ⟨some, by simp⟩) fun nonempty => ?_
    have positive := List.length_pos_iff.mpr nonempty
    rw [List.length_append, List.length_singleton]
    omega

/-- The action leaves a backlog and changes nothing else. -/
def LeavesBacklog (result : EStateM.Result Pop3Error (View σ) α) (view : View σ) : Prop :=
  ∃ pending, IsBacklog pending ∧ finalState result = { view with pending }

namespace View

variable {view : View σ}

theorem readMultiline_leavesBacklog
    {body : List OctetLine}
    (plain : ∀ line ∈ body, line.IsPlain)
    {answers : List Answer}
    (plainAnswers : ∀ answer ∈ answers, answer.IsPlain)
    (pending : view.pending = encodeBody body ++ Dialogue.replies true answers)
    (nonempty : answers ≠ []) :
    LeavesBacklog view.readMultiline view := by
  by_cases isText : ∀ line ∈ body, IsUtf8 line.octets
  · have clear : (Answer.mk true .blank body).IsClear :=
      ⟨isText, fun line member => (plain line member).not_forges⟩
    rw [readMultiline_of_clear clear pending]
    exact ⟨_, isBacklog_replies plainAnswers nonempty, rfl⟩
  · obtain ⟨left, plainLeft, stops⟩ := readMultiline_of_unreadable plain pending isText
    rw [stops]
    exact ⟨_, isBacklog_body plainLeft plainAnswers, rfl⟩

/-- Read a whole reply to a command with a body. -/
def readReply : Action Pop3Error (View σ) Str := do
  let _ ← readStatus
  readMultiline

/-- A first line that is read as a status line decides whether a body is read. -/
theorem readReply_of_readLine
    {line : Str}
    {rest : List UInt8}
    (read : view.readLine = .ok line { view with pending := rest })
    (left : IsBacklog rest)
    (body : ∀ text, parseStatusLine line = .ok text →
      LeavesBacklog (readMultiline { view with pending := rest }) view) :
    LeavesBacklog view.readReply view := by
  unfold readReply readStatus
  rw [bind_assoc, bind_of_ok read]
  cases status : parseStatusLine line with
  | ok text => exact body text status
  | error error => exact ⟨rest, left, rfl⟩

theorem readReply_of_error
    {error : Pop3Error}
    {rest : List UInt8}
    (read : view.readLine = .error error { view with pending := rest })
    (left : IsBacklog rest) :
    LeavesBacklog view.readReply view := by
  unfold readReply readStatus
  rw [bind_assoc, bind_of_error read]
  exact ⟨rest, left, rfl⟩

/-- Whoever reads a reply with something left behind and another reply to come
leaves something behind. -/
theorem readReply_leavesBacklog
    {left : Option (List OctetLine)}
    {answers : List Answer}
    (plainly : PlainlyLeft left answers)
    (pending : view.pending = backlog left answers)
    (enough : left ≠ none ∧ answers ≠ [] ∨ 2 ≤ answers.length) :
    LeavesBacklog view.readReply view := by
  have nonempty : answers ≠ [] := by
    rintro rfl
    simp at enough
  match left with
  | some [] =>
      have ended : view.pending = utf8 (['.', '\r'] ++ ['\n']) ++ Dialogue.replies true answers :=
        pending
      refine readReply_of_readLine (readLine_of_text ended (by decide))
        (isBacklog_replies plainly.answers nonempty) fun text status => ?_
      cases status
  | some (line :: lines) =>
      obtain ⟨plain, plainLines⟩ := List.forall_mem_cons.mp (plainly.lines _ rfl)
      have framed : view.pending = (stuffOctets line.octets ++ [13]) ++
          10 :: (encodeBody lines ++ Dialogue.replies true answers) := by
        rw [pending]
        simp [backlog, encodeBody, encodeLines]
      have read := readLine_of_line framed (noFeed_stuffOctets plain)
      have behind := isBacklog_body plainLines plainly.answers
      cases decoded : fromUtf8 (stuffOctets line.octets ++ [13] ++ [10]) with
      | none =>
          rw [decoded] at read
          exact readReply_of_error read behind
      | some text =>
          rw [decoded] at read
          exact readReply_of_readLine read behind
            fun _ _ => readMultiline_leavesBacklog plainLines plainly.answers rfl nonempty
  | none =>
      obtain ⟨answer, answers, rfl⟩ := List.exists_cons_of_ne_nil nonempty
      obtain ⟨plain, plainAnswers⟩ := List.forall_mem_cons.mp plainly.answers
      have more : answers ≠ [] := by
        rintro rfl
        simp at enough
      have framed : view.pending = utf8 (answer.status ++ crlf) ++
          ((if answer.isPositive then encodeBody answer.body else []) ++
            Dialogue.replies true answers) := by
        rw [pending]
        simp [backlog, Dialogue.replies, Answer.encode]
      have read := readLine_of_status framed
      by_cases positive : answer.isPositive = true
      · rw [if_pos positive] at read
        exact readReply_of_readLine read (isBacklog_body plain plainAnswers)
          fun _ _ => readMultiline_leavesBacklog plain plainAnswers rfl more
      · rw [if_neg positive] at read
        refine readReply_of_readLine read (isBacklog_replies plainAnswers more) fun text status => ?_
        rw [Answer.parseStatusLine_status, Answer.statusResult, if_neg positive] at status
        cases status

end View

end Pop3
