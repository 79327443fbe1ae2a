import Pop3.Answers
import Pop3.Connection.Arrival
import Pop3.Forgery

/-!
# Dot-stuffing, there and back

What a server has stuffed is read back as it was, whatever the lines are made
of, and nothing behind the body is touched.
-/

namespace Pop3

open Rust Framing

/-! ## Lines and data -/

theorem splitInclusive_joined
    {message : List Str}
    (noFeed : ∀ line ∈ message, '\n' ∉ line) :
    splitInclusive (joined message) = message.map (· ++ ['\n']) := by
  induction message with
  | nil => rfl
  | cons line message inductionHypothesis =>
      rw [joined] at inductionHypothesis
      rw [joined, List.flatMap_cons, List.append_assoc, List.singleton_append,
        splitInclusive_line (noFeed line (by simp)),
        inductionHypothesis fun other member => noFeed other (by simp [member])]
      rfl

/-- Different messages are different data. -/
theorem joined_injective
    {message other : List Str}
    (noFeed : ∀ line ∈ message, '\n' ∉ line)
    (otherNoFeed : ∀ line ∈ other, '\n' ∉ line)
    (same : joined message = joined other) :
    message = other := by
  have pieces := congrArg splitInclusive same
  rw [splitInclusive_joined noFeed, splitInclusive_joined otherNoFeed] at pieces
  exact List.map_injective_iff.mpr (List.append_left_injective ['\n']) pieces

theorem sent_cons (line : Str) (message : List Str) :
    sent (line :: message) = bodyLine line ++ ['\n'] ++ sent message := by
  simp [sent, bodyLine, crlf]

/-! ## Reading from a stream -/

namespace Incoming

variable {incoming : Incoming} {rest : List UInt8}

/-- A line of text is taken from the stream. -/
theorem readLine_of_text
    {text : Str}
    (noFeed : '\n' ∉ text)
    (bytes : incoming.bytes = utf8 (text ++ ['\n']) ++ rest) :
    incoming.readLine = .ok (text ++ ['\n'])
      { incoming with taken := incoming.taken ++ utf8 (text ++ ['\n']), bytes := rest } := by
  have feed : utf8 ['\n'] = [10] := by decide
  have noFeed' : 10 ∉ utf8 text := fun member => noFeed ((feed_mem_utf8 text).mp member)
  have framed : incoming.bytes = utf8 text ++ 10 :: rest := by
    rw [bytes, utf8_append, feed]
    simp
  have whole : utf8 text ++ [10] = utf8 (text ++ ['\n']) := by rw [utf8_append, feed]
  have nonempty : (utf8 (text ++ ['\n'])).length ≠ 0 := by simp [feed]
  rw [readLine, framed, Transport.splitFeed_line noFeed', whole]
  simp only [decode, fromUtf8_utf8, nonempty, ↓reduceIte]

/-- A stuffed message is read back with nothing else. -/
theorem readMultilineUpTo_of_sent
    {message : List Str}
    (noFeed : ∀ line ∈ message, '\n' ∉ line)
    (bytes : incoming.bytes = utf8 (sent message) ++ rest)
    (rounds : Nat)
    (body : Str) :
    incoming.readMultilineUpTo (rounds + message.length + 1) body =
      .ok (body ++ joined message)
        { incoming with taken := incoming.taken ++ utf8 (sent message), bytes := rest } := by
  induction message generalizing incoming body with
  | nil =>
      have first : incoming.bytes = utf8 (['.', '\r'] ++ ['\n']) ++ rest := bytes
      rw [readMultilineUpTo, bind_of_ok (readLine_of_text (by decide) first)]
      have ends : Transport.trimLine (['.', '\r'] ++ ['\n']) = ".".toList := by decide
      simp only [ends, ↓reduceIte]
      simp [joined, sent, terminator]
  | cons line message inductionHypothesis =>
      have lineNoFeed := noFeed line (by simp)
      have first : incoming.bytes =
          utf8 (bodyLine line ++ ['\n']) ++ (utf8 (sent message) ++ rest) := by
        rw [bytes, sent_cons, utf8_append, List.append_assoc]
      rw [List.length_cons, ← Nat.add_assoc, readMultilineUpTo,
        bind_of_ok (readLine_of_text (noFeed_bodyLine lineNoFeed) first)]
      have goesOn : Transport.trimLine (bodyLine line ++ ['\n']) ≠ ".".toList :=
        not_endsBody_bodyLine lineNoFeed
      simp only [goesOn, ↓reduceIte]
      rw [trimLine_bodyLine lineNoFeed, unstuff_stuff, inductionHypothesis (fun other member => noFeed other (by simp [member])) rfl,
        sent_cons]
      simp [joined]

end Incoming

theorem length_le_sent (message : List Str) : message.length ≤ (utf8 (sent message)).length := by
  induction message with
  | nil => exact Nat.zero_le _
  | cons line message inductionHypothesis =>
      have feed : utf8 ['\n'] = [10] := by decide
      rw [sent_cons, utf8_append, utf8_append, feed]
      simp only [List.length_append, List.length_cons, List.length_nil]
      omega

/-- What a server has stuffed is read back line by line, each with one LF, and
the reader takes exactly the body from the stream; different messages are never
read as the same data. -/
theorem unstuffed_of_stuffed
    {transport : Transport σ}
    (stream : transport.stream ≠ .upgrading)
    {message : List Str}
    (noFeed : ∀ line ∈ message, '\n' ∉ line)
    {tail : List UInt8}
    (arrives : transport.buffer ++ transport.net.arriving.1 = utf8 (sent message) ++ tail) :
    (∃ after, Transport.readMultiline transport = .ok (joined message) after ∧
      after.buffer ++ after.net.arriving.1 = tail ∧
      consumedBytes after.net.trace =
        consumedBytes transport.net.trace ++ utf8 (sent message)) ∧
    ∀ other : List Str, (∀ line ∈ other, '\n' ∉ line) →
      joined other = joined message → other = message := by
  refine ⟨?_, fun other otherNoFeed same => joined_injective otherNoFeed noFeed same⟩
  have enough : message.length ≤ transport.pending.length := by
    have total := transport.arriving_begins_pending.length_le
    rw [arrives, List.length_append] at total
    have each := length_le_sent message
    omega
  obtain ⟨rounds, rounds_eq⟩ := Nat.exists_eq_add_of_le' enough
  have bytes : (Incoming.mk [] (transport.buffer ++ transport.net.arriving.1)
      transport.net.arriving.2).bytes = utf8 (sent message) ++ tail := arrives
  have expected := Incoming.readMultilineUpTo_of_sent noFeed bytes rounds []
  have agree := (meets_self stream).readMultilineUpTo (transport.pending.length + 1) []
  rw [rounds_eq, expected] at agree
  have run : Transport.readMultiline transport =
      Transport.readMultilineUpTo (rounds + message.length + 1) [] transport := by
    rw [← rounds_eq]
    rfl
  rcases agree with ⟨same, meets⟩ | ⟨_, error, fails, _⟩
  · rw [← run] at same meets
    refine ⟨_, eq_ok_of_returned same, meets.arrives, ?_⟩
    exact meets.consumed
  · cases fails

/-- An empty line, lines of dots and a line that ends with CR come back. -/
theorem unstuffed_dots :
    (∃ after, Transport.readMultiline
        (arrived (utf8 (sent ["".toList, ".".toList, "..".toList, "a\r".toList]) ++ [43])) =
          .ok (joined ["".toList, ".".toList, "..".toList, "a\r".toList]) after ∧
      after.buffer ++ after.net.arriving.1 = [43] ∧
      consumedBytes after.net.trace = consumedBytes [] ++
        utf8 (sent ["".toList, ".".toList, "..".toList, "a\r".toList])) ∧
    ∀ other : List Str, (∀ line ∈ other, '\n' ∉ line) →
      joined other = joined ["".toList, ".".toList, "..".toList, "a\r".toList] →
        other = ["".toList, ".".toList, "..".toList, "a\r".toList] :=
  unstuffed_of_stuffed (by simp [arrived]) (by simp) (List.append_nil _)

end Pop3
