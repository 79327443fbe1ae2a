import Pop3.Parsing.Status
import Pop3.Reconnecting.Errors

/-!
# Refusals

What a login makes of a reply that refuses it: a permanent error, as long as the
reply is text.
-/

namespace Pop3

open Rust Pop3Client

/-! ## Refusals as octets -/

/-- The octets are `-ERR` alone or followed by ASCII whitespace, without the response
code for a temporary failure. -/
structure IsRefusal (reply : List UInt8) : Prop where
  negative : ∃ rest, reply = utf8 "-ERR".toList ++ rest ∧
    ∀ byte ∈ rest.head?, isAsciiWhitespace byte = true
  permanent : ¬CarriesSysTemp reply

/-- ASCII octets in front are these characters in front. -/
theorem exists_text_behind
    {front text : Str}
    (ascii : ∀ character ∈ front, character.val ≤ 127)
    {rest : List UInt8}
    (same : utf8 text = utf8 front ++ rest) :
    ∃ behind, text = front ++ behind ∧ utf8 behind = rest := by
  induction front generalizing text with
  | nil => exact ⟨text, rfl, same⟩
  | cons character front inductionHypothesis =>
      have single := ascii character (by simp)
      rw [utf8_cons, utf8EncodeChar_of_ascii single] at same
      have split : utf8 text = [] ++ asciiByte character :: (utf8 front ++ rest) := by
        rw [same]
        rfl
      obtain ⟨before, after, rfl, nothing, behind_eq⟩ :=
        exists_split_of_utf8_eq_append single split
      obtain rfl := (utf8_eq_nil_iff before).mp nothing
      obtain ⟨behind, rfl, last⟩ := inductionHypothesis
        (fun other member => ascii other (by simp [member])) behind_eq
      exact ⟨behind, rfl, last⟩

/-- What is trimmed consists of the pattern. -/
theorem exists_trimmed (pattern text : Str) :
    ∃ removed, text = trimEndMatches pattern text ++ removed ∧
      ∀ character ∈ removed, character ∈ pattern := by
  have rounds : ∀ rounds text, ∃ removed,
      text = trimEndMatchesUpTo pattern rounds text ++ removed ∧
        ∀ character ∈ removed, character ∈ pattern := by
    intro rounds
    induction rounds with
    | zero => exact fun text => ⟨[], (List.append_nil _).symm, by simp⟩
    | succ rounds inductionHypothesis =>
        intro text
        rw [trimEndMatchesUpTo]
        by_cases suffix : pattern <:+ text
        · obtain ⟨front, rfl⟩ := suffix
          rw [stripSuffix_append]
          obtain ⟨removed, front_eq, inside⟩ := inductionHypothesis front
          refine ⟨removed ++ pattern, ?_, ?_⟩
          · rw [← List.append_assoc]
            exact congrArg (· ++ pattern) front_eq
          · intro character member
            rcases List.mem_append.mp member with member | member
            · exact inside character member
            · exact member
        · rw [stripSuffix_eq_none suffix]
          exact ⟨[], (List.append_nil _).symm, by simp⟩
  exact rounds _ _

/-- Trimming stops at a character that is not in the pattern. -/
theorem trimEndMatches_stops
    {pattern front : Str}
    {character : Char}
    (absent : character ∉ pattern)
    (rest : Str) :
    ∃ left, trimEndMatches pattern (front ++ character :: rest) = front ++ character :: left ∧
      left <+: rest := by
  obtain ⟨removed, text_eq, inside⟩ := exists_trimmed pattern (front ++ character :: rest)
  generalize trimEndMatches pattern (front ++ character :: rest) = kept at text_eq
  have regroup : (front ++ [character]) ++ rest = kept ++ removed := by
    rw [← text_eq]
    simp
  rcases List.append_eq_append_iff.mp regroup with ⟨left, rfl, rest_eq⟩ | ⟨piece, front_eq, removed_eq⟩
  · exact ⟨left, by simp, ⟨removed, rest_eq.symm⟩⟩
  · rcases List.eq_nil_or_concat' piece with rfl | ⟨others, last, rfl⟩
    · rw [List.append_nil] at front_eq
      exact ⟨[], front_eq.symm, List.nil_prefix⟩
    · rw [← List.append_assoc] at front_eq
      obtain ⟨_, same⟩ := List.append_inj' front_eq rfl
      obtain rfl : character = last := by simpa using same
      exact absurd (inside character (by simp [removed_eq])) absent

theorem trimLine_err (rest : Str) :
    ∃ left, Transport.trimLine ("-ERR".toList ++ rest) = "-ERR".toList ++ left ∧
      left <+: rest := by
  have lastCrlf : 'R' ∉ "\r\n".toList := by decide
  have lastFeed : 'R' ∉ "\n".toList := by decide
  obtain ⟨middle, first, begins⟩ :
      ∃ left, trimEndMatches "\r\n".toList ("-ER".toList ++ 'R' :: rest) =
        "-ER".toList ++ 'R' :: left ∧ left <+: rest :=
    trimEndMatches_stops lastCrlf rest
  obtain ⟨left, second, begins'⟩ :
      ∃ left, trimEndMatches "\n".toList ("-ER".toList ++ 'R' :: middle) =
        "-ER".toList ++ 'R' :: left ∧ left <+: middle :=
    trimEndMatches_stops lastFeed middle
  have trimmed : Transport.trimLine ("-ER".toList ++ 'R' :: rest) = "-ER".toList ++ 'R' :: left := by
    rw [Transport.trimLine, first, second]
  exact ⟨left, trimmed, begins'.trans begins⟩

/-- A refusal that is text announces itself as one. -/
theorem announces_of_isRefusal {line : Str} (refusal : IsRefusal (utf8 line)) :
    ∃ rest, Announces "-ERR".toList rest line := by
  obtain ⟨bytes, line_eq, spaced⟩ := refusal.negative
  obtain ⟨rest, rfl, rfl⟩ := exists_text_behind (by simp) line_eq
  obtain ⟨left, trimmed, begins⟩ := trimLine_err rest
  refine ⟨left, trimmed, ?_⟩
  intro character first
  obtain ⟨tail, rfl⟩ := List.head?_eq_some_iff.mp first
  obtain ⟨more, rfl⟩ := begins
  obtain ⟨byte, bytes, encoded⟩ := List.exists_cons_of_ne_nil
    (String.utf8EncodeChar_ne_nil (c := character))
  have member : byte ∈ String.utf8EncodeChar character := by simp [encoded]
  exact mem_asciiSpaces_of_byte member (spaced byte (by simp [encoded]))

/-! ## Refusals as errors -/

/-- The response code for a temporary failure is the only one to retry on. -/
theorem sysTemp_of_isRetryable
    {text : Str}
    (retryable : isRetryable (parseRespCode text) = true) :
    ∃ message, parseRespCode text = .sysTemp message := by
  by_cases carried : ∃ code message, Carries text code message
  · obtain ⟨code, message, carries⟩ := carried
    rw [parseRespCode_of_carries carries] at retryable ⊢
    cases code with
    | sysTemp => exact ⟨_, rfl⟩
    | _ => cases retryable
  · have other : ∀ code message, ¬Carries text code message :=
      fun code message carries => carried ⟨code, message, carries⟩
    rw [parseRespCode_of_other other] at retryable
    cases retryable

/-- The error of a refused login is as retryable as that of its reply. -/
theorem isRetryable_authError (error : Pop3Error) :
    isRetryable (authError error) = isRetryable error := by
  cases error <;> rfl

/-- The error that a login makes of a reply, if the reply is the text of a refusal. -/
def refusalError (reply : List UInt8) : Option Pop3Error :=
  match fromUtf8 reply with
  | none => none
  | some line =>
      match parseStatusLine line with
      | .ok _ => none
      | .error error => some (authError error)

/-- The error of a refusal is permanent. -/
theorem refusalError_of_isRefusal
    {line : Str}
    (refusal : IsRefusal (utf8 line)) :
    ∃ error, parseStatusLine line = .error error ∧
      refusalError (utf8 line) = some (authError error) ∧
      isRetryable (authError error) = false := by
  obtain ⟨rest, announces⟩ := announces_of_isRefusal refusal
  have parsed := parseStatusLine_of_err announces
  refine ⟨_, parsed, by simp [refusalError, parsed], ?_⟩
  rw [isRetryable_authError]
  by_contra retryable
  obtain ⟨message, temporary⟩ := sysTemp_of_isRetryable (Bool.not_eq_false _ ▸ retryable)
  rw [temporary] at parsed
  exact refusal.permanent (sysTemp_of_parseStatusLine parsed)

/-! ## Refused logins -/

section Refusing

variable [Server σ] {username password : Str} {client sent last : Pop3Client σ}
  {reply : List UInt8}

/-- The command reaches the server, or what keeps it from there goes unnoticed. -/
def Sends (command : Str) (client sent : Pop3Client σ) : Prop :=
  transportField.run (Transport.sendCommand command) client = .ok () sent

/-- The client takes a line that the server has sent. -/
def Takes (client : Pop3Client σ) (reply : List UInt8) (last : Pop3Client σ) : Prop :=
  ∃ transport, Transport.readUntil client.transport = (.line reply, transport) ∧
    last = { client with transport := transport.log (.consumed reply) }

/-- A login may begin. -/
structure MayLogin (username password : Str) (client : Pop3Client σ) : Prop where
  connected : client.state = .connected
  username : '\r' ∉ username ∧ '\n' ∉ username
  password : '\r' ∉ password ∧ '\n' ∉ password

/-- `USER` or `PASS` is answered by a refusal; `last` is the client that has read it. -/
inductive LoginRefused (username password : Str) (client : Pop3Client σ)
    (reply : List UInt8) (last : Pop3Client σ) : Prop
  | user {sent : Pop3Client σ} (may : MayLogin username password client)
      (sends : Sends ("USER ".toList ++ username) client sent)
      (takes : Takes sent reply last) (refusal : IsRefusal reply)
  | pass {text : Str} {accepted sent : Pop3Client σ} (may : MayLogin username password client)
      (accepts : sendAndCheck ("USER ".toList ++ username) client = .ok text accepted)
      (sends : Sends ("PASS ".toList ++ password) accepted sent)
      (takes : Takes sent reply last) (refusal : IsRefusal reply)

theorem IsRefusal.ne_nil (refusal : IsRefusal reply) : reply ≠ [] := by
  obtain ⟨rest, rfl, _⟩ := refusal.negative
  simp

/-- A refusal that is text is reported for good. -/
theorem sendAndCheck_of_refusal
    {command : Str}
    (sends : Sends command client sent)
    (takes : Takes sent reply last)
    (refusal : IsRefusal reply)
    (isText : IsUtf8 reply) :
    ∃ error, refusalError reply = some error ∧ isRetryable error = false ∧
      mapError authError (sendAndCheck command) client = .error error last := by
  obtain ⟨line, rfl⟩ := (isUtf8_iff reply).mp isText
  obtain ⟨error, parsed, reported, permanent⟩ := refusalError_of_isRefusal refusal
  obtain ⟨transport, waited, rfl⟩ := takes
  refine ⟨_, reported, permanent, mapError_of_error ?_⟩
  have nonempty : (utf8 line).length ≠ 0 := fun empty =>
    refusal.ne_nil (List.eq_nil_of_length_eq_zero empty)
  have read : Transport.readLine sent.transport = .ok line 
      (transport.log (.consumed (utf8 line))) := by
    rw [Transport.readLine_eq, waited]
    simp only [Transport.afterWait, fromUtf8_utf8, nonempty, ↓reduceIte]
  rw [sendAndCheck, bind_of_ok sends, bind_of_ok (Field.run_of_ok read), parsed]
  rfl

/-- A refusal that is not text is reported as an I/O error. -/
theorem sendAndCheck_of_garbled
    {command : Str}
    (sends : Sends command client sent)
    (takes : Takes sent reply last)
    (noText : ¬IsUtf8 reply) :
    mapError authError (sendAndCheck command) client = .error (.io invalidUtf8) last := by
  obtain ⟨transport, waited, rfl⟩ := takes
  have undecoded : fromUtf8 reply = none := by simpa [IsUtf8] using noText
  have read : Transport.readLine sent.transport =
      .error (.io invalidUtf8) (transport.log (.consumed reply)) := by
    rw [Transport.readLine_eq, waited]
    simp only [Transport.afterWait, undecoded]
  have failed : sendAndCheck command client = .error (.io invalidUtf8)
      { sent with transport := transport.log (.consumed reply) } := by
    rw [sendAndCheck, bind_of_ok sends, bind_of_error (Field.run_of_error read)]
    rfl
  exact mapError_of_error failed

/-- A login that may begin sends `USER`, and `PASS` if that was accepted. -/
theorem login_of_mayLogin (may : MayLogin username password client) :
    login username password client = (do
      let _ ← mapError authError (sendAndCheck ("USER ".toList ++ username))
      let _ ← mapError authError (sendAndCheck ("PASS ".toList ++ password))
      authenticated : ClientM σ Unit) client := by
  have name : checkNoCrlf username = .ok () :=
    if_neg (not_or.mpr may.username)
  have word : checkNoCrlf password = .ok () :=
    if_neg (not_or.mpr may.password)
  rw [login, gets_bind_apply, may.connected, name, word]
  rfl

/-- A refused login ends with the refusal: what is made of it is returned, and the client
that has read it is left. -/
theorem login_of_refused (refused : LoginRefused username password client reply last) :
    (IsUtf8 reply → ∃ error, refusalError reply = some error ∧ isRetryable error = false ∧
      login username password client = .error error last) ∧
    (¬IsUtf8 reply →
      login username password client = .error (.io invalidUtf8) last) := by
  cases refused with
  | user may sends takes refusal =>
      rw [login_of_mayLogin may]
      constructor
      · intro isText
        obtain ⟨error, reported, permanent, fails⟩ :=
          sendAndCheck_of_refusal sends takes refusal isText
        exact ⟨error, reported, permanent, bind_of_error fails⟩
      · intro noText
        exact bind_of_error (sendAndCheck_of_garbled sends takes noText)
  | pass may accepts sends takes refusal =>
      rw [login_of_mayLogin may, bind_of_ok (mapError_of_ok accepts)]
      constructor
      · intro isText
        obtain ⟨error, reported, permanent, fails⟩ :=
          sendAndCheck_of_refusal sends takes refusal isText
        exact ⟨error, reported, permanent, bind_of_error fails⟩
      · intro noText
        exact bind_of_error (sendAndCheck_of_garbled sends takes noText)

end Refusing

end Pop3
