import Pop3.Connecting
import Pop3.Reconnecting.Callback
import Pop3.Reconnecting.Refusals

/-!
# No lockout

A login that the server has refused is not repeated, as long as the refusal is
text.
-/

namespace Pop3

open Rust Pop3Client

namespace ReconnectingClientBuilder

section Attempts

variable [Server σ] [Md5]

/-- Each attempt dials the next connection. -/
theorem tries_getElem?
    (builder : Pop3ClientBuilder)
    (username password : Str)
    (dials : Nat → Dial σ)
    {retries number index : Nat}
    (made : index < (tries builder username password dials retries number).length) :
    (tries builder username password dials retries number)[index]? =
      some (connectAndAuth builder username password (dials (number + index))) := by
  induction retries generalizing number index with
  | zero =>
      obtain rfl : index = 0 := by simpa [tries] using made
      rfl
  | succ retries inductionHypothesis =>
      rw [tries] at made ⊢
      cases index with
      | zero =>
          split
          · rename_i found
            simp [found]
          · rename_i error found
            split <;> simp [found]
      | succ index =>
          split
          · rename_i found
            simp [found] at made
          · rename_i error found
            by_cases retryable : isRetryable error = true
            · simp only [found, if_pos retryable, List.length_cons] at made
              rw [if_pos retryable, List.getElem?_cons_succ,
                inductionHypothesis (Nat.lt_of_succ_lt_succ made), Nat.add_right_comm,
                Nat.add_assoc number]
            · simp [found, retryable] at made

/-- No attempt follows a permanent error. -/
theorem last_of_permanent
    (builder : Pop3ClientBuilder)
    (username password : Str)
    (dials : Nat → Dial σ)
    {retries number index : Nat}
    {error : Pop3Error}
    (fails : (tries builder username password dials retries number)[index]? =
      some (.error error))
    (permanent : isRetryable error = false) :
    index + 1 = (tries builder username password dials retries number).length := by
  induction retries generalizing number index with
  | zero =>
      obtain ⟨bound, _⟩ := List.getElem?_eq_some_iff.mp fails
      simp [tries] at bound ⊢
      exact bound
  | succ retries inductionHypothesis =>
      rw [tries] at fails ⊢
      split at fails
      · obtain ⟨bound, _⟩ := List.getElem?_eq_some_iff.mp fails
        simpa using bound
      · rename_i other found
        by_cases retryable : isRetryable other = true
        · rw [if_pos retryable] at fails ⊢
          cases index with
          | zero =>
              obtain rfl : other = error := by simpa using fails
              rw [permanent] at retryable
              cases retryable
          | succ index =>
              rw [List.getElem?_cons_succ] at fails
              rw [List.length_cons, inductionHypothesis fails]
        · rw [if_neg retryable] at fails ⊢
          obtain ⟨bound, _⟩ := List.getElem?_eq_some_iff.mp fails
          simpa using bound

end Attempts

end ReconnectingClientBuilder

/-- The error of a call that has failed. -/
def failure : Except Pop3Error α → Option Pop3Error
  | .ok _ => none
  | .error error => some error

section Lockout

variable [Server σ] [Md5]

/-- On this dial the server refuses the login with this reply; `last` is the client that
has read it. -/
structure RefusedAt (settings : ReconnectingClientBuilder σ) (username password : Str)
    (number : Nat) (client : Pop3Client σ) (reply : List UInt8) (last : Pop3Client σ) : Prop where
  established :
    returned (settings.builder.established (settings.dials number) none) = .ok client
  refused : LoginRefused username password client reply last

/-- A call that makes so many attempts to connect and log in, and fails with this error,
repeats no refused login: a refusal ends its attempt and the call, which returns it. -/
structure NoLockout (settings : ReconnectingClientBuilder σ) (username password : Str)
    (attempts : Nat) (failed : Option Pop3Error) : Prop where
  bounded : attempts ≤ settings.maxRetries + 1
  final : ∀ index < attempts, ∀ client reply last,
    RefusedAt settings username password (settings.dialed + index) client reply last →
      finalState (login username password client) = last ∧ index + 1 = attempts ∧
        ∃ error, refusalError reply = some error ∧ failed = some error

/-- Every refusal that the attempts meet is text. -/
def Legible (settings : ReconnectingClientBuilder σ) (username password : Str)
    (attempts : Nat) : Prop :=
  ∀ index < attempts, ∀ client reply last,
    RefusedAt settings username password (settings.dialed + index) client reply last →
      IsUtf8 reply

/-- `connect` authenticates the client that it has established. -/
theorem Pop3ClientBuilder.connect_eq (builder : Pop3ClientBuilder) (dial : Dial σ) :
    builder.connect dial = (do
      let client ← returned (builder.established dial none)
      match builder.auth with
      | .none => return client
      | .login username password => after client (login username password)
      | .apop username password => after client (Pop3Client.apop username password)) := by
  rw [builder.returned_established, connect]
  cases builder.tlsMode with
  | plain => rfl
  | tls => rfl
  | startTls =>
      cases Pop3Client.connect (dial builder.hostname builder.effectivePort) with
      | error error => rfl
      | ok client => rfl

/-- Without credentials of its own, a builder logs nobody in. -/
theorem Pop3ClientBuilder.connect_of_none
    {builder : Pop3ClientBuilder}
    (own : builder.auth = .none)
    (dial : Dial σ) :
    builder.connect dial = returned (builder.established dial none) := by
  rw [connect_eq, own]
  exact bind_pure _

/-- The login decides an attempt. -/
theorem connectAndAuth_of_established
    {builder : Pop3ClientBuilder}
    (own : builder.auth = .none)
    {dial : Dial σ}
    {client last : Pop3Client σ}
    {username password : Str}
    {error : Pop3Error}
    (established : returned (builder.established dial none) = .ok client)
    (fails : login username password client = .error error last) :
    connectAndAuth builder username password dial = .error error := by
  rw [connectAndAuth, Pop3ClientBuilder.connect_of_none own, established]
  change Pop3ClientBuilder.after client (login username password) = _
  rw [Pop3ClientBuilder.after, fails]

/-- The retry loop repeats no refused login if and only if every refusal is text. -/
theorem noLockout_tries
    {settings : ReconnectingClientBuilder σ}
    {username password : Str}
    (own : settings.builder.auth = .none)
    {failed : Option Pop3Error}
    (decides : ∀ error, (ReconnectingClientBuilder.tries settings.builder username password
      settings.dials settings.maxRetries settings.dialed).getLast? = some (.error error) →
        failed = some error) :
    NoLockout settings username password
        (ReconnectingClientBuilder.tries settings.builder username password settings.dials
          settings.maxRetries settings.dialed).length failed ↔
      Legible settings username password
        (ReconnectingClientBuilder.tries settings.builder username password settings.dials
          settings.maxRetries settings.dialed).length := by
  constructor
  · intro noLockout index made client reply last refused
    obtain ⟨_, _, error, reported, _⟩ := noLockout.final index made client reply last refused
    unfold refusalError at reported
    cases decoded : fromUtf8 reply with
    | none =>
        rw [decoded] at reported
        cases reported
    | some text => simp [IsUtf8, decoded]
  · intro legible
    refine ⟨ReconnectingClientBuilder.length_tries_le _ _ _ _ _ _, ?_⟩
    intro index made client reply last refused
    obtain ⟨error, reported, permanent, fails⟩ := (login_of_refused refused.refused).1
      (legible index made client reply last refused)
    have attempt := ReconnectingClientBuilder.tries_getElem? settings.builder username password
      settings.dials made
    rw [connectAndAuth_of_established own refused.established fails] at attempt
    have isLast := ReconnectingClientBuilder.last_of_permanent _ _ _ _ attempt permanent
    refine ⟨by rw [fails]; rfl, isLast, error, reported, decides error ?_⟩
    rw [List.getLast?_eq_getElem?, ← isLast, Nat.add_sub_cancel]
    exact attempt

/-- How often a call that connects dials. -/
def ReconnectingClientBuilder.attempts (settings : ReconnectingClientBuilder σ)
    (username password : Str) : Nat :=
  (finalState (retry username password settings.maxRetries 0 settings)).dialed - settings.dialed

theorem ReconnectingClientBuilder.attempts_eq
    (settings : ReconnectingClientBuilder σ)
    (username password : Str) :
    settings.attempts username password =
      (tries settings.builder username password settings.dials settings.maxRetries
        settings.dialed).length := by
  rw [attempts, (retry_eq username password settings.maxRetries 0 settings).1]
  exact Nat.add_sub_cancel_left _ _

/-- What the retry loop fails with is the error of its last attempt. -/
theorem ReconnectingClientBuilder.failure_retry
    {settings : ReconnectingClientBuilder σ}
    {username password : Str}
    {error : Pop3Error}
    (last : (tries settings.builder username password settings.dials settings.maxRetries
      settings.dialed).getLast? = some (.error error)) :
    returned (retry username password settings.maxRetries 0 settings) = .error error := by
  have result := (retry_eq username password settings.maxRetries 0 settings).2
  rw [last] at result
  exact Option.some.inj result

/-- `do_reconnect` dials as often as the retry loop, and fails as it does. -/
theorem dialed_doReconnect (reconnecting : ReconnectingClient σ) :
    (finalState (ReconnectingClient.doReconnect reconnecting)).dialed =
      (finalState reconnecting.dialing).dialed := by
  cases dialed : reconnecting.dialing with
  | ok client settings =>
      rw [ReconnectingClient.doReconnect_of_ok dialed]
      rfl
  | error error settings =>
      rw [ReconnectingClient.doReconnect_of_error dialed]
      rfl

theorem failure_doReconnect (reconnecting : ReconnectingClient σ) :
    failure (returned (ReconnectingClient.doReconnect reconnecting)) =
      failure (returned reconnecting.dialing) := by
  cases dialed : reconnecting.dialing with
  | ok client settings =>
      rw [ReconnectingClient.doReconnect_of_ok dialed]
      rfl
  | error error settings =>
      rw [ReconnectingClient.doReconnect_of_error dialed]
      rfl

/-- A refusal of the credentials ends `connect` and `do_reconnect` at once, with the error of
the refusal, and there are never more attempts than one and the retries, if and only if every
refusal that the call meets is text. -/
theorem noLockout_iff
    (settings : ReconnectingClientBuilder σ)
    (username password : Str)
    (own : settings.builder.auth = .none) :
    (NoLockout settings username password (settings.attempts username password)
        (failure (settings.connect username password)) ↔
      Legible settings username password (settings.attempts username password)) ∧
    ∀ client : Pop3Client σ,
      (NoLockout settings username password
        ((finalState (ReconnectingClient.doReconnect
          { settings with username, password, client })).dialed - settings.dialed)
        (failure (returned (ReconnectingClient.doReconnect
          { settings with username, password, client }))) ↔
      Legible settings username password
        ((finalState (ReconnectingClient.doReconnect
          { settings with username, password, client })).dialed - settings.dialed)) := by
  constructor
  · rw [settings.attempts_eq]
    refine noLockout_tries own fun error last => ?_
    have fails := eq_error_of_returned (ReconnectingClientBuilder.failure_retry last)
    rw [ReconnectingClientBuilder.connect, fails]
    rfl
  · intro client
    have counted : (finalState (ReconnectingClient.dialing
        { settings with username, password, client })).dialed - settings.dialed = _ :=
      settings.attempts_eq username password
    rw [dialed_doReconnect, failure_doReconnect, counted]
    exact noLockout_tries own fun error last =>
      congrArg failure (ReconnectingClientBuilder.failure_retry last)

end Lockout

/-! ## A refusal in Latin-1 -/

/-- The line that a client takes after a command. -/
def lineAfter [Server σ] (command : Str) (client : Pop3Client σ) : Option (List UInt8) :=
  match transportField.run (Transport.sendCommand command) client with
  | .error _ _ => none
  | .ok () sent =>
      match Transport.readUntil sent.transport with
      | (.line reply, _) => some reply
      | _ => none

/-- A client whose `USER` is answered by a refusal. -/
theorem loginRefused_of_lineAfter [Server σ]
    {username password : Str}
    {client : Pop3Client σ}
    {reply : List UInt8}
    (may : MayLogin username password client)
    (line : lineAfter ("USER ".toList ++ username) client = some reply)
    (refusal : IsRefusal reply) :
    ∃ last, LoginRefused username password client reply last := by
  unfold lineAfter at line
  cases sends : transportField.run (Transport.sendCommand ("USER ".toList ++ username)) client with
  | error error after =>
      rw [sends] at line
      cases line
  | ok value sent =>
      rw [sends] at line
      dsimp only at line
      split at line
      · rename_i found transport waited
        cases line
        exact ⟨_, .user may sends ⟨transport, waited, rfl⟩ refusal⟩
      · cases line

/-- `-ERR refusé`, in Latin-1. -/
def latinRefusal : List UInt8 := utf8 "-ERR refus".toList ++ [0xE9, 13, 10]

theorem isRefusal_latinRefusal : IsRefusal latinRefusal where
  negative := ⟨utf8 " refus".toList ++ [0xE9, 13, 10], by decide, by decide +kernel⟩
  permanent := by
    rintro ⟨blanks, _, begins⟩
    have bracket : 91 ∈ utf8 ("-ERR".toList ++ blanks ++ "[SYS/TEMP]".toList) := by
      rw [utf8_append]
      exact List.mem_append_right _ (by decide)
    exact absurd (begins.subset bracket) (by decide)

/-- A client that connects anew to a server that refuses every login. -/
def refusing : ReconnectingClientBuilder Script where
  builder := { hostname := [] }
  dials _ := { connects _ _ := .ok {
    server := ⟨[{ bytes := latinRefusal }]⟩
    wire := utf8 "+OK\r\n".toList } }

/-- A refused login is repeated as often as retries allow. -/
theorem exists_refused_login_repeated :
    ¬∀ (settings : ReconnectingClientBuilder Script) (username password : Str),
      settings.builder.auth = .none →
        NoLockout settings username password
          (@ReconnectingClientBuilder.attempts _ _ emptyDigest settings username password)
          (failure (@ReconnectingClientBuilder.connect _ _ emptyDigest settings username
            password)) := by
  intro always
  have noLockout := always refusing [] [] rfl
  have attempts : @ReconnectingClientBuilder.attempts _ _ emptyDigest refusing [] [] = 4 := by
    decide +kernel
  have met : (returned (refusing.builder.established (refusing.dials 0) none)).toOption.map
      (fun client => (client.state, lineAfter "USER ".toList client)) =
        some (.connected, some latinRefusal) := by
    decide +kernel
  obtain ⟨client, established, same⟩ := Option.map_eq_some_iff.mp met
  injection same with connected line
  have may : MayLogin [] [] client := ⟨connected, by simp, by simp⟩
  obtain ⟨last, refused⟩ := loginRefused_of_lineAfter may line isRefusal_latinRefusal
  have reached : returned (refusing.builder.established (refusing.dials 0) none) =
      .ok client := by
    cases found : returned (refusing.builder.established (refusing.dials 0) none) with
    | error error => simp [found, Except.toOption] at established
    | ok other =>
        rw [found] at established
        exact congrArg Except.ok (Option.some.inj established)
  obtain ⟨_, isLast, _⟩ := noLockout.final 0 (by rw [attempts]; decide) client latinRefusal last
    ⟨reached, refused⟩
  rw [attempts] at isLast
  cases isLast

/-- The login that is repeated is refused in a reply that is not text. -/
theorem noLockout_iff_refusing :
    (NoLockout refusing [] []
        (@ReconnectingClientBuilder.attempts _ _ emptyDigest refusing [] [])
        (failure (@ReconnectingClientBuilder.connect _ _ emptyDigest refusing [] [])) ↔
      Legible refusing [] []
        (@ReconnectingClientBuilder.attempts _ _ emptyDigest refusing [] [])) ∧
    ∀ client : Pop3Client Script,
      (NoLockout refusing [] []
        ((finalState (@ReconnectingClient.doReconnect _ _ emptyDigest
          { refusing with username := [], password := [], client })).dialed - refusing.dialed)
        (failure (returned (@ReconnectingClient.doReconnect _ _ emptyDigest
          { refusing with username := [], password := [], client }))) ↔
      Legible refusing [] []
        ((finalState (@ReconnectingClient.doReconnect _ _ emptyDigest
          { refusing with username := [], password := [], client })).dialed -
            refusing.dialed)) :=
  @noLockout_iff _ _ emptyDigest refusing [] [] rfl

end Pop3
