import Pop3.Connection.Reading
import Pop3.Framing

/-!
# Reading lines and bodies

What the view reads, as equations: one line, a line that does not decode, the
end of the connection, and a body line by line.
-/

namespace Pop3

open Rust Framing

namespace View

variable {view : View σ}

/-! ## One line -/

theorem readLine_of_line
    {line rest : List UInt8}
    (pending : view.pending = line ++ 10 :: rest)
    (noFeed : 10 ∉ line) :
    view.readLine =
      match fromUtf8 (line ++ [10]) with
      | none => .error (.io invalidUtf8) { view with pending := rest }
      | some text => .ok text { view with pending := rest } := by
  unfold readLine nextLine
  rw [pending, Transport.splitFeed_line noFeed]
  dsimp only
  cases fromUtf8 (line ++ [10]) <;> simp

/-- A line of text is read with its LF. -/
theorem readLine_of_text
    {text : Str}
    {rest : List UInt8}
    (pending : view.pending = utf8 (text ++ ['\n']) ++ rest)
    (noFeed : '\n' ∉ text) :
    view.readLine = .ok (text ++ ['\n']) { view with pending := rest } := by
  have feed : utf8 ['\n'] = [10] := by decide
  have noFeed' : 10 ∉ utf8 text := fun member => noFeed ((feed_mem_utf8 text).mp member)
  have regroup : view.pending = utf8 text ++ 10 :: rest := by
    rw [pending, utf8_append, feed]
    simp
  have decoded : fromUtf8 (utf8 text ++ [10]) = some (text ++ ['\n']) := by
    rw [← feed, ← utf8_append, fromUtf8_utf8]
  rw [readLine_of_line regroup noFeed', decoded]

/-- Bytes that are not text cannot be read as a line. -/
theorem readLine_of_invalid
    {line rest : List UInt8}
    (pending : view.pending = line ++ 10 :: rest)
    (noFeed : 10 ∉ line)
    (invalid : ¬IsUtf8 line) :
    view.readLine = .error (.io invalidUtf8) { view with pending := rest } := by
  have undecoded : fromUtf8 (line ++ [10]) = none := by
    have whole : ¬IsUtf8 (line ++ [10]) := by
      have feed : asciiByte '\n' = 10 := by decide
      rw [← feed, isUtf8_append_cons (by decide)]
      exact fun both => invalid both.1
    simpa [IsUtf8] using whole
  rw [readLine_of_line pending noFeed, undecoded]

/-- The last line before the end of a closed connection needs no LF. -/
theorem readLine_of_end
    (closed : view.isOpen = false)
    (noFeed : 10 ∉ view.pending) :
    view.readLine =
      match fromUtf8 view.pending with
      | none => .error (.io invalidUtf8) { view with pending := [] }
      | some text =>
          if view.pending.length = 0 then
            .error .connectionClosed { view with pending := [], isClosed := true }
          else .ok text { view with pending := [] } := by
  unfold readLine nextLine
  rw [Transport.splitFeed_eq_none noFeed, closed]
  rfl

/-- The next line is at the front of the pending bytes. -/
theorem append_of_nextLine
    {isOpen : Bool}
    {pending line rest : List UInt8}
    (next : nextLine isOpen pending = (.line line, rest)) :
    pending = line ++ rest := by
  unfold nextLine at next
  split at next
  · rename_i found
    cases next
    obtain ⟨front, _, rfl, rfl⟩ := Transport.splitFeed_eq_some found
    simp
  · split at next
    · cases next
    · cases next
      simp

/-- A line that was read is at the front of the pending bytes. -/
theorem eq_of_readLine_ok
    {line : Str}
    {after : View σ}
    (run : view.readLine = .ok line after) :
    ∃ rest, nextLine view.isOpen view.pending = (.line (utf8 line), rest) ∧ line ≠ [] ∧
      after = { view with pending := rest } := by
  unfold readLine at run
  split at run
  · cases run
  · cases run
  · rename_i bytes rest next
    dsimp only at run
    split at run
    · cases run
    · rename_i text decoded
      have bytes_eq := utf8_of_fromUtf8_eq_some decoded
      split at run
      · cases run
      · rename_i nonempty
        cases run
        refine ⟨rest, by rw [bytes_eq, next], ?_, rfl⟩
        rintro rfl
        rw [← bytes_eq] at nonempty
        exact nonempty rfl

/-! ## Bodies -/

/-- What a body gains from a line. -/
def content (text : Str) : Str := Transport.unstuff (Transport.trimLine (text ++ ['\n'])) ++ ['\n']

/-- The line ends the body. -/
def EndsBody (text : Str) : Prop := Transport.trimLine (text ++ ['\n']) = ['.']

instance (text : Str) : Decidable (EndsBody text) :=
  inferInstanceAs (Decidable (_ = _))

theorem readMultilineUpTo_of_line
    {text : Str}
    {rest : List UInt8}
    (pending : view.pending = utf8 (text ++ ['\n']) ++ rest)
    (noFeed : '\n' ∉ text)
    (goesOn : ¬EndsBody text)
    (rounds : Nat)
    (body : Str) :
    readMultilineUpTo (rounds + 1) body view =
      readMultilineUpTo rounds (body ++ content text) { view with pending := rest } := by
  rw [readMultilineUpTo, bind_of_ok (readLine_of_text pending noFeed)]
  have goesOn' : Transport.trimLine (text ++ ['\n']) ≠ ".".toList := goesOn
  simp only [goesOn', ↓reduceIte]
  simp [content]

theorem readMultilineUpTo_of_end
    {text : Str}
    {rest : List UInt8}
    (pending : view.pending = utf8 (text ++ ['\n']) ++ rest)
    (noFeed : '\n' ∉ text)
    (ends : EndsBody text)
    (rounds : Nat)
    (body : Str) :
    readMultilineUpTo (rounds + 1) body view = .ok body { view with pending := rest } := by
  rw [readMultilineUpTo, bind_of_ok (readLine_of_text pending noFeed)]
  have ends' : Transport.trimLine (text ++ ['\n']) = ".".toList := ends
  simp only [ends', ↓reduceIte]
  rfl

/-- A failing read ends the body with its error. -/
theorem readMultilineUpTo_of_error
    {error : Pop3Error}
    {after : View σ}
    (fails : view.readLine = .error error after)
    (rounds : Nat)
    (body : Str) :
    readMultilineUpTo (rounds + 1) body view = .error error after := by
  rw [readMultilineUpTo, bind_of_error fails]

/-- Lines that do not end the body are collected. -/
theorem readMultilineUpTo_of_lines
    {texts : List Str}
    {rest : List UInt8}
    (pending : view.pending = utf8 (joined texts) ++ rest)
    (noFeed : ∀ text ∈ texts, '\n' ∉ text)
    (goesOn : ∀ text ∈ texts, ¬EndsBody text)
    (rounds : Nat)
    (body : Str) :
    readMultilineUpTo (rounds + texts.length) body view =
      readMultilineUpTo rounds (body ++ texts.flatMap content)
        { view with pending := rest } := by
  induction texts generalizing view body with
  | nil =>
      have same : view.pending = rest := by simpa [joined] using pending
      simp [← same]
  | cons text texts inductionHypothesis =>
      have first : view.pending =
          utf8 (text ++ ['\n']) ++ (utf8 (joined texts) ++ rest) := by
        rw [pending, joined, List.flatMap_cons, utf8_append, List.append_assoc, joined]
      rw [List.length_cons, ← Nat.add_assoc,
        readMultilineUpTo_of_line first (noFeed text (by simp)) (goesOn text (by simp)),
        inductionHypothesis rfl
          (fun other member => noFeed other (by simp [member]))
          (fun other member => goesOn other (by simp [member]))]
      simp

theorem length_le_joined (texts : List Str) :
    texts.length ≤ (utf8 (joined texts)).length := by
  induction texts with
  | nil => simp
  | cons text texts inductionHypothesis =>
      have feed : utf8 ['\n'] = [10] := by decide
      rw [joined] at inductionHypothesis
      rw [joined, List.flatMap_cons, utf8_append, utf8_append, feed]
      simp only [List.length_append, List.length_cons, List.length_nil]
      omega

/-- The rounds suffice for all lines that are pending. -/
theorem readMultiline_of_lines
    {texts : List Str}
    {rest : List UInt8}
    (pending : view.pending = utf8 (joined texts) ++ rest)
    (noFeed : ∀ text ∈ texts, '\n' ∉ text)
    (goesOn : ∀ text ∈ texts, ¬EndsBody text) :
    ∃ rounds, view.readMultiline =
      readMultilineUpTo (rounds + 1) (texts.flatMap content)
        { view with pending := rest } := by
  have enough := length_le_joined texts
  have length_eq : view.pending.length = (utf8 (joined texts)).length + rest.length := by
    rw [pending, List.length_append]
  obtain ⟨rounds, rounds_eq⟩ :
      ∃ rounds, view.pending.length + 1 = rounds + 1 + texts.length :=
    ⟨view.pending.length - texts.length, by omega⟩
  refine ⟨rounds, ?_⟩
  rw [readMultiline, rounds_eq, readMultilineUpTo_of_lines pending noFeed goesOn]
  rfl

/-- A body is read up to the first line that ends it. -/
theorem readMultiline_of_body
    {texts : List Str}
    {last : Str}
    {rest : List UInt8}
    (pending : view.pending = utf8 (joined texts) ++ (utf8 (last ++ ['\n']) ++ rest))
    (noFeed : ∀ text ∈ texts, '\n' ∉ text)
    (goesOn : ∀ text ∈ texts, ¬EndsBody text)
    (noFeedLast : '\n' ∉ last)
    (ends : EndsBody last) :
    view.readMultiline = .ok (texts.flatMap content) { view with pending := rest } := by
  obtain ⟨rounds, same⟩ := readMultiline_of_lines pending noFeed goesOn
  rw [same, readMultilineUpTo_of_end rfl noFeedLast ends]

/-- An error behind some lines of a body ends it. -/
theorem readMultiline_of_error
    {texts : List Str}
    {rest : List UInt8}
    {error : Pop3Error}
    {after : View σ}
    (pending : view.pending = utf8 (joined texts) ++ rest)
    (noFeed : ∀ text ∈ texts, '\n' ∉ text)
    (goesOn : ∀ text ∈ texts, ¬EndsBody text)
    (fails : readLine { view with pending := rest } = .error error after) :
    view.readMultiline = .error error after := by
  obtain ⟨rounds, same⟩ := readMultiline_of_lines pending noFeed goesOn
  rw [same, readMultilineUpTo_of_error fails]

end View

/-! ## Trimming -/

namespace Transport

theorem trimEndMatches_crlf
    {text : Str}
    (noSuffix : ¬crlf <:+ text) :
    trimEndMatches "\r\n".toList (text ++ crlf) = text :=
  trimEndMatches_append (by decide) noSuffix

/-- A line that ends with CRLF is trimmed to what is in front. -/
theorem trimLine_return
    {text : Str}
    (noFeed : '\n' ∉ text) :
    trimLine (text ++ ['\r'] ++ ['\n']) = text := by
  have noSuffix : ¬crlf <:+ text := not_suffix_of_not_mem (by decide) noFeed
  have noFeed' : ¬"\n".toList <:+ text := not_suffix_of_not_mem (by decide) noFeed
  have ending : text ++ ['\r'] ++ ['\n'] = text ++ crlf := by simp [crlf]
  rw [trimLine, ending, trimEndMatches_crlf noSuffix, trimEndMatches_eq_self noFeed']

/-- A line that ends with a bare LF is trimmed to what is in front. -/
theorem trimLine_feed
    {text : Str}
    (noFeed : '\n' ∉ text)
    (noReturn : text.getLast? ≠ some '\r') :
    trimLine (text ++ ['\n']) = text := by
  have noSuffix : ¬"\r\n".toList <:+ text ++ ['\n'] := by
    rintro ⟨front, same⟩
    have split : front ++ ['\r'] = text := by
      have regroup : (front ++ ['\r']) ++ ['\n'] = text ++ ['\n'] := by
        rw [← same]
        simp
      exact List.append_cancel_right regroup
    rw [← split] at noReturn
    simp at noReturn
  have noFeed' : ¬"\n".toList <:+ text := not_suffix_of_not_mem (by decide) noFeed
  rw [trimLine, trimEndMatches_eq_self noSuffix]
  exact trimEndMatches_append (by decide) noFeed'

end Transport

end Pop3
