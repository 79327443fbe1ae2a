import Pop3.Reconnecting.Attempts
import Pop3.Reconnecting.Transience

/-!
# The reconnect callback

What the retry loop attempts, in order, and what the callback is told of it.
-/

namespace Pop3

open Rust Pop3Client

namespace ReconnectingClientBuilder

section History

variable [Server σ] [Md5]

/-- The attempts of the retry loop from one dial on: another follows while the error of
the last is retryable and retries are left. -/
def tries (builder : Pop3ClientBuilder) (username password : Str) (dials : Nat → Dial σ) :
    Nat → Nat → List (Except Pop3Error (Pop3Client σ))
  | 0, number => [connectAndAuth builder username password (dials number)]
  | retries + 1, number =>
      match connectAndAuth builder username password (dials number) with
      | .ok client => [.ok client]
      | .error error =>
          if isRetryable error then
            .error error :: tries builder username password dials retries (number + 1)
          else [.error error]

/-- What the callback is told of attempts: each that another one follows, with its
number. -/
def notices (attempts : Nat) : List (Except Pop3Error (Pop3Client σ)) → List (Nat × Pop3Error)
  | .error error :: next :: rest => (attempts + 1, error) :: notices (attempts + 1) (next :: rest)
  | _ => []

theorem tries_ne_nil
    (builder : Pop3ClientBuilder)
    (username password : Str)
    (dials : Nat → Dial σ)
    (retries number : Nat) :
    tries builder username password dials retries number ≠ [] := by
  cases retries with
  | zero => simp [tries]
  | succ retries =>
      rw [tries]
      split
      · simp
      · split <;> simp

/-- There is at most one attempt more than there are retries. -/
theorem length_tries_le
    (builder : Pop3ClientBuilder)
    (username password : Str)
    (dials : Nat → Dial σ)
    (retries number : Nat) :
    (tries builder username password dials retries number).length ≤ retries + 1 := by
  induction retries generalizing number with
  | zero => exact Nat.le_refl _
  | succ retries inductionHypothesis =>
      rw [tries]
      split
      · simp
      · split
        · simpa using inductionHypothesis (number + 1)
        · simp

omit [Server σ] [Md5] in
/-- Only a failed attempt is followed by another. -/
theorem notices_cons_of_ne_nil
    {rest : List (Except Pop3Error (Pop3Client σ))}
    (more : rest ≠ [])
    (attempts : Nat)
    (error : Pop3Error) :
    notices attempts (.error error :: rest) =
      (attempts + 1, error) :: notices (attempts + 1) rest := by
  obtain ⟨next, rest, rfl⟩ := List.exists_cons_of_ne_nil more
  rfl

/-- The retry loop makes exactly its attempts: each dials once, the callback is told of
each but the last, and the last decides. -/
theorem retry_eq
    (username password : Str)
    (retries attempts : Nat)
    (settings : ReconnectingClientBuilder σ) :
    finalState (retry username password retries attempts settings) =
        { settings with
          dialed := settings.dialed +
            (tries settings.builder username password settings.dials retries
              settings.dialed).length
          onReconnect := settings.onReconnect ++ notices attempts
            (tries settings.builder username password settings.dials retries settings.dialed) } ∧
      some (returned (retry username password retries attempts settings)) =
        (tries settings.builder username password settings.dials retries
          settings.dialed).getLast? := by
  induction retries generalizing attempts settings with
  | zero =>
      unfold retry tries
      dsimp only
      cases connectAndAuth settings.builder username password
        (settings.dials settings.dialed) with
      | ok client => simp [notices]
      | error error => simp [notices]
  | succ retries inductionHypothesis =>
      unfold retry tries
      dsimp only
      cases connectAndAuth settings.builder username password
        (settings.dials settings.dialed) with
      | ok client => simp [notices]
      | error error =>
          dsimp only
          by_cases retryable : isRetryable error = true
          · rw [if_pos retryable, if_pos retryable]
            have more := tries_ne_nil settings.builder username password settings.dials retries
              (settings.dialed + 1)
            obtain ⟨final, last⟩ := inductionHypothesis (attempts + 1)
              { settings with
                dialed := settings.dialed + 1
                onReconnect := settings.onReconnect ++ [(attempts + 1, error)] }
            rw [notices_cons_of_ne_nil more, List.getLast?_cons_of_ne_nil more]
            refine ⟨final.trans ?_, last⟩
            simp [Nat.add_assoc, Nat.add_comm 1]
          · rw [if_neg retryable, if_neg retryable]
            simp [notices]

/-- The attempts that the callback is told of are numbered one after the other. -/
theorem numbers_notices
    (builder : Pop3ClientBuilder)
    (username password : Str)
    (dials : Nat → Dial σ)
    (retries number attempts : Nat) :
    (notices attempts (tries builder username password dials retries number)).map Prod.fst =
      List.range' (attempts + 1)
        ((tries builder username password dials retries number).length - 1) := by
  induction retries generalizing number attempts with
  | zero =>
      rw [tries]
      cases connectAndAuth builder username password (dials number) <;> rfl
  | succ retries inductionHypothesis =>
      rw [tries]
      split
      · rfl
      · split
        · have more := tries_ne_nil builder username password dials retries (number + 1)
          have positive := List.length_pos_iff.mpr more
          rw [notices_cons_of_ne_nil more, List.map_cons, inductionHypothesis, List.length_cons]
          obtain ⟨count, length_eq⟩ := Nat.exists_eq_succ_of_ne_zero positive.ne'
          rw [length_eq]
          rfl
        · rfl

end History

end ReconnectingClientBuilder

namespace ReconnectingClient

section Reporting

variable [Server σ] [Md5] {call : Call} {reconnecting : ReconnectingClient σ}

/-- The attempts of `do_reconnect`. -/
def tries (reconnecting : ReconnectingClient σ) : List (Except Pop3Error (Pop3Client σ)) :=
  ReconnectingClientBuilder.tries reconnecting.builder reconnecting.username
    reconnecting.password reconnecting.dials reconnecting.maxRetries reconnecting.dialed

/-- Between two states of the settings, the callback is told of each connection attempt
exactly once, by consecutive numbers from 1. -/
def ReportsEachAttempt (before after : ReconnectingClientBuilder σ) : Prop :=
  ∃ notices, after.onReconnect = before.onReconnect ++ notices ∧
    notices.map Prod.fst = List.range' 1 (after.dialed - before.dialed)

/-- An operation that reconnects makes the attempts of the retry loop, and the callback is
told of each of them but the last. -/
theorem settings_of_warranted
    (command : call.isCommand = true)
    (warranted : warrantsReconnect (firstResult call reconnecting) = true) :
    (finalState (perform call reconnecting)).toReconnectingClientBuilder =
      { reconnecting.toReconnectingClientBuilder with
        dialed := reconnecting.dialed + reconnecting.tries.length
        onReconnect := reconnecting.onReconnect ++
          ReconnectingClientBuilder.notices 0 reconnecting.tries } := by
  have history : finalState (attempted call reconnecting).dialing = _ :=
    (ReconnectingClientBuilder.retry_eq reconnecting.username reconnecting.password
      reconnecting.maxRetries 0 reconnecting.toReconnectingClientBuilder).1
  have way := performs command reconnecting
  generalize perform call reconnecting = result at way
  cases way with
  | stays unwarranted =>
      rw [warranted] at unwarranted
      cases unwarranted
  | refused _ refused =>
      rw [refused] at history
      exact history
  | renewed _ connected =>
      rw [connected] at history
      rw [finalState_ofResult]
      exact history

/-- Without cause to reconnect, the settings stay. -/
theorem settings_of_not_warranted
    (command : call.isCommand = true)
    (unwarranted : warrantsReconnect (firstResult call reconnecting) = false) :
    (finalState (perform call reconnecting)).toReconnectingClientBuilder =
      reconnecting.toReconnectingClientBuilder := by
  rw [perform_of_not_warranted command unwarranted, finalState_ofResult]
  rfl

/-- The callback sees each connection attempt of an operation if and only if there is
none: the attempts are one more than it is told of. -/
theorem reportsEachAttempt_iff (command : call.isCommand = true) :
    ReportsEachAttempt reconnecting.toReconnectingClientBuilder
        (finalState (perform call reconnecting)).toReconnectingClientBuilder ↔
      warrantsReconnect (firstResult call reconnecting) = false := by
  cases warranted : warrantsReconnect (firstResult call reconnecting) with
  | false =>
      rw [settings_of_not_warranted command warranted]
      exact iff_of_true ⟨[], by simp, by simp⟩ rfl
  | true =>
      rw [settings_of_warranted command warranted]
      refine iff_of_false ?_ Bool.noConfusion
      rintro ⟨notices, same, numbered⟩
      have told := List.append_cancel_left same
      have counted := congrArg List.length numbered
      rw [← told, List.length_map, List.length_range', ← List.length_map Prod.fst] at counted
      unfold tries at counted
      rw [ReconnectingClientBuilder.numbers_notices, List.length_range'] at counted
      have positive := List.length_pos_iff.mpr (ReconnectingClientBuilder.tries_ne_nil
        reconnecting.builder reconnecting.username reconnecting.password reconnecting.dials
        reconnecting.maxRetries reconnecting.dialed)
      dsimp only at counted
      omega

end Reporting

end ReconnectingClient

/-- A client whose connection has fallen silent, and that can connect to the server again. -/
def Obliging.silenced (server : Obliging) : ReconnectingClient Obliging :=
  { server.reconnecting with client := .idle server [.deadline] false }

/-- An operation reconnects, and the callback is told nothing. -/
theorem exists_reconnect_not_reported :
    ¬∀ (reconnecting : ReconnectingClient Obliging) (call : Call), call.isCommand = true →
      ReconnectingClient.ReportsEachAttempt reconnecting.toReconnectingClientBuilder
        (finalState (@ReconnectingClient.perform _ _ emptyDigest call
          reconnecting)).toReconnectingClientBuilder := by
  intro always
  obtain ⟨notices, same, numbered⟩ := always (Obliging.silenced ⟨[]⟩) .noop rfl
  have silent : (finalState (@ReconnectingClient.perform _ _ emptyDigest .noop
      (Obliging.silenced ⟨[]⟩))).onReconnect = [] := by decide +kernel
  have dialed : (finalState (@ReconnectingClient.perform _ _ emptyDigest .noop
      (Obliging.silenced ⟨[]⟩))).dialed = 1 := by decide +kernel
  rw [dialed] at numbered
  rw [silent] at same
  obtain rfl : notices = [] := same.symm
  cases numbered

/-- The same operation, whose first attempt ends in a timeout. -/
theorem reportsEachAttempt_iff_silenced :
    ReconnectingClient.ReportsEachAttempt
        (Obliging.silenced ⟨[]⟩).toReconnectingClientBuilder
        (finalState (@ReconnectingClient.perform _ _ emptyDigest .noop
          (Obliging.silenced ⟨[]⟩))).toReconnectingClientBuilder ↔
      warrantsReconnect (@ReconnectingClient.firstResult _ _ emptyDigest .noop
        (Obliging.silenced ⟨[]⟩)) = false :=
  @ReconnectingClient.reportsEachAttempt_iff _ _ emptyDigest .noop (Obliging.silenced ⟨[]⟩) rfl

end Pop3
