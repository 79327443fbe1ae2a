import Pop3.Manager
import Pop3.Parsing.Listings
import Pop3.Reconnecting.Lockout

/-!
# A builder with credentials of its own

The pool and the reconnecting client open a connection in almost the same way.
They agree as long as the builder has not logged in already.
-/

namespace Pop3

open Rust Pop3Client

section States

variable [Server σ]

/-- Whoever has been accepted is authenticated, whatever the probe says. -/
theorem state_authenticated (client : Pop3Client σ) :
    (finalState (authenticated client)).state = .authenticated := by
  have keeps : Preserves (fun client : Pop3Client σ => client.state = .authenticated)
      authenticated :=
    .bind (.modify fun _ _ => rfl) fun _ =>
      .bind (.attempt fun before isAuthenticated =>
        (program_capa.state before).trans isAuthenticated) fun _ => .modify fun _ same => same
  exact keeps { client with state := .authenticated } rfl

/-- What a login that succeeds says of the client and its credentials. -/
structure Authenticates (username password : Str) (client last : Pop3Client σ) : Prop where
  before : client.state = .connected
  username : checkNoCrlf username = .ok ()
  password : checkNoCrlf password = .ok ()
  after : last.state = .authenticated

omit [Server σ] in
theorem Stays.not_ok
    {client last : Pop3Client σ}
    {action : ClientM σ Unit}
    (stays : Stays client (action client)) :
    action client ≠ .ok () last := by
  intro succeeds
  obtain ⟨_, error, fails⟩ := stays
  rw [succeeds] at fails
  cases fails

theorem authenticates_of_login
    {username password : Str}
    {client last : Pop3Client σ}
    (succeeds : login username password client = .ok () last) :
    Authenticates username password client last := by
  rcases passes_or_stays username password _ client with ⟨connected, user, pass, passes⟩ | stays
  swap
  · exact absurd succeeds stays.not_ok
  refine ⟨connected, user, pass, ?_⟩
  rcases goesOn_or_stays (program_sendAndCheck ("USER ".toList ++ username)) authError
    (fun _ => do
      let _ ← mapError authError (sendAndCheck ("PASS ".toList ++ password))
      authenticated) client with ⟨_, _, goesOn⟩ | stays
  swap
  · exact absurd (passes.symm.trans succeeds) stays.not_ok
  rcases goesOn_or_stays (program_sendAndCheck ("PASS ".toList ++ password)) authError
    (fun _ => authenticated) (finalState (sendAndCheck ("USER ".toList ++ username) client)) with
    ⟨_, _, goesOn'⟩ | stays
  swap
  · exact absurd ((passes.trans goesOn).symm.trans succeeds) stays.not_ok
  have same := congrArg finalState ((passes.trans (goesOn.trans goesOn')).symm.trans succeeds)
  exact (congrArg Pop3Client.state same).symm.trans (state_authenticated _)

theorem authenticates_of_apop [Md5]
    {username password : Str}
    {client last : Pop3Client σ}
    (succeeds : Pop3Client.apop username password client = .ok () last) :
    Authenticates username password client last := by
  rcases passes_or_stays username password _ client with ⟨connected, user, pass, passes⟩ | stays
  swap
  · exact absurd succeeds stays.not_ok
  refine ⟨connected, user, pass, ?_⟩
  have reduced := passes.symm.trans succeeds
  rw [gets_bind_apply] at reduced
  cases stamp : extractApopTimestamp client.greeting with
  | none =>
      rw [stamp, okOr, ofResult_error_bind] at reduced
      cases reduced
  | some timestamp =>
      rw [stamp, okOr, ofResult_ok_bind] at reduced
      rcases goesOn_or_stays (program_sendAndCheck ("APOP ".toList ++ username ++ " ".toList ++
        computeApopDigest timestamp password)) authError (fun _ => authenticated) client with
        ⟨_, _, goesOn⟩ | stays
      swap
      · exact absurd reduced stays.not_ok
      have same := congrArg finalState (goesOn.symm.trans reduced)
      exact (congrArg Pop3Client.state same).symm.trans (state_authenticated _)

end States

section Connect

variable [Server σ] [Md5]

omit [Server σ] [Md5] in
theorem run_of_after
    {client last : Pop3Client σ}
    {action : ClientM σ Unit}
    (succeeds : Pop3ClientBuilder.after client action = .ok last) :
    action client = .ok () last := by
  unfold Pop3ClientBuilder.after at succeeds
  split at succeeds
  · rename_i run
    rw [run, Except.ok.inj succeeds]
  · cases succeeds

omit [Md5] in
/-- Nobody is logged in before the second half of `connect`. -/
theorem Pop3ClientBuilder.state_established
    {builder : Pop3ClientBuilder}
    {dial : Dial σ}
    {client : Pop3Client σ}
    (established : returned (builder.established dial none) = .ok client) :
    client.state = .connected := by
  rw [builder.returned_established] at established
  cases mode : builder.tlsMode with
  | plain =>
      rw [mode] at established
      obtain ⟨transport, _, greets⟩ := bind_eq_ok_iff.mp established
      exact (eq_of_greet greets).1
  | tls =>
      rw [mode] at established
      obtain ⟨transport, _, greets⟩ := bind_eq_ok_iff.mp established
      exact (eq_of_greet greets).1
  | startTls =>
      rw [mode] at established
      obtain ⟨greeted, connected, upgrades⟩ := bind_eq_ok_iff.mp established
      obtain ⟨transport, _, greets⟩ := bind_eq_ok_iff.mp connected
      have state := stls_state builder.hostname greeted
      rw [run_of_after upgrades] at state
      exact state.trans (eq_of_greet greets).1

/-- A builder with credentials logs in whomever it connects. -/
theorem Pop3ClientBuilder.state_connect
    {builder : Pop3ClientBuilder}
    {dial : Dial σ}
    {client : Pop3Client σ}
    (connected : builder.connect dial = .ok client) :
    client.state = if builder.auth = .none then .connected else .authenticated := by
  rw [connect_eq] at connected
  obtain ⟨greeted, established, accepted⟩ := bind_eq_ok_iff.mp connected
  cases auth : builder.auth with
  | none =>
      rw [auth] at accepted
      cases accepted
      exact state_established established
  | login username password =>
      rw [auth] at accepted
      exact (authenticates_of_login (run_of_after accepted)).after
  | apop username password =>
      rw [auth] at accepted
      exact (authenticates_of_apop (run_of_after accepted)).after

/-- Both attempts give a client that is authenticated, or both fail. -/
def ConnectAlike (first second : Except Pop3Error (Pop3Client σ)) : Prop :=
  (∃ client other, first = .ok client ∧ second = .ok other ∧
    client.state = .authenticated ∧ other.state = .authenticated) ∨
  ∃ error error', first = .error error ∧ second = .error error'

omit [Md5] in
/-- A login that succeeds authenticates. -/
theorem connectAlike_after
    (client : Pop3Client σ)
    (username password : Str) :
    ConnectAlike (Pop3ClientBuilder.after client (login username password))
      (Pop3ClientBuilder.after client (login username password)) := by
  cases logs : Pop3ClientBuilder.after client (login username password) with
  | ok last =>
      have state := (authenticates_of_login (run_of_after logs)).after
      exact .inl ⟨last, last, rfl, rfl, state, state⟩
  | error error => exact .inr ⟨error, error, rfl, rfl⟩

omit [Md5] in
/-- A second login is refused, and one with a line break too. -/
theorem after_login_error
    {client : Pop3Client σ}
    {username password : Str}
    (refused : client.state = .authenticated ∨
      checkNoCrlf username ≠ .ok () ∨ checkNoCrlf password ≠ .ok ()) :
    ∃ error, Pop3ClientBuilder.after client (login username password) = .error error := by
  cases logs : Pop3ClientBuilder.after client (login username password) with
  | error error => exact ⟨error, rfl⟩
  | ok last =>
      have authenticates := authenticates_of_login (run_of_after logs)
      rcases refused with state | user | pass
      · cases state.symm.trans authenticates.before
      · exact absurd authenticates.username user
      · exact absurd authenticates.password pass

/-- A text that would break the line of its command. -/
def BreaksLine (text : Str) : Prop :=
  '\r' ∈ text ∨ '\n' ∈ text

omit [Server σ] [Md5] in
theorem checkNoCrlf_of_breaksLine {text : Str} (breaks : BreaksLine text) :
    checkNoCrlf text ≠ .ok () := by
  intro checked
  rw [checkNoCrlf, if_pos (show '\r' ∈ text ∨ '\n' ∈ text from breaks)] at checked
  cases checked

/-- The pool and the reconnecting client connect alike if and only if the builder has no
credentials of its own, or cannot connect at all, or the login is turned down for a line
break. -/
theorem connectAlike_iff
    (builder : Pop3ClientBuilder)
    (username password : Str)
    (dial : Dial σ) :
    ConnectAlike (connectAndAuth builder username password dial)
        (Pop3ConnectionManager.connect { builder, username, password } dial) ↔
      builder.auth = .none ∨ (∃ error, builder.connect dial = .error error) ∨
        BreaksLine username ∨ BreaksLine password := by
  unfold connectAndAuth Pop3ConnectionManager.connect
  dsimp only
  cases connects : builder.connect dial with
  | error error =>
      refine iff_of_true (.inr ⟨error, ?_⟩) (.inr (.inl ⟨error, rfl⟩))
      split
      · exact ⟨.invalidInput, rfl, rfl⟩
      · exact ⟨error, rfl, rfl⟩
  | ok client =>
      have state := Pop3ClientBuilder.state_connect connects
      change ConnectAlike (Pop3ClientBuilder.after client (login username password)) _ ↔ _
      split
      · rename_i breaks
        have turned : BreaksLine username ∨ BreaksLine password := by
          simpa only [BreaksLine, or_assoc] using breaks
        obtain ⟨error, fails⟩ : ∃ error, Pop3ClientBuilder.after client
            (login username password) = .error error := after_login_error
          (.inr (turned.imp checkNoCrlf_of_breaksLine checkNoCrlf_of_breaksLine))
        exact iff_of_true (.inr ⟨error, .invalidInput, fails, rfl⟩) (.inr (.inr turned))
      · rename_i noBreaks
        have fine : ¬((∃ error, (.ok client : Except Pop3Error _) = .error error) ∨
            BreaksLine username ∨ BreaksLine password) := by
          rintro (⟨_, same⟩ | breaks)
          · cases same
          · exact noBreaks (by simpa only [BreaksLine, or_assoc] using breaks)
        rw [or_iff_left fine]
        change ConnectAlike _ (if client.state ≠ .authenticated then
          Pop3ClientBuilder.after client (login username password) else .ok client) ↔ _
        by_cases own : builder.auth = .none
        · rw [if_pos own] at state
          rw [if_pos (by simp [state])]
          exact iff_of_true (connectAlike_after client username password) own
        · rw [if_neg own] at state
          rw [if_neg (not_not.mpr state)]
          refine iff_of_false ?_ own
          obtain ⟨error, fails⟩ : ∃ error, Pop3ClientBuilder.after client
              (login username password) = .error error := after_login_error (.inl state)
          rw [fails]
          rintro (⟨_, _, same, _⟩ | ⟨_, _, _, same⟩)
          · cases same
          · cases same

end Connect

/-- A builder with credentials of its own, which the server accepts. -/
def ownCredentials : Pop3ClientBuilder := { hostname := [], auth := .login [] [] }

/-- The pool connects, and the reconnecting client does not. -/
theorem exists_connect_unlike :
    ¬∀ (builder : Pop3ClientBuilder) (username password : Str) (dial : Dial Obliging),
      ConnectAlike (@connectAndAuth _ _ emptyDigest builder username password dial)
        (@Pop3ConnectionManager.connect _ _ emptyDigest { builder, username, password } dial) := by
  intro always
  have alike := always ownCredentials [] [] ((Obliging.reconnecting ⟨[]⟩).dials 0)
  have pooled : (@Pop3ConnectionManager.connect _ _ emptyDigest
      { builder := ownCredentials, username := [], password := [] }
        ((Obliging.reconnecting ⟨[]⟩).dials 0)).isOk = true := by
    decide +kernel
  have fails : (@connectAndAuth _ _ emptyDigest ownCredentials [] []
      ((Obliging.reconnecting ⟨[]⟩).dials 0)).isOk = false := by
    decide +kernel
  rcases alike with ⟨_, _, same, _⟩ | ⟨_, _, _, same⟩
  · rw [same] at fails
    cases fails
  · rw [same] at pooled
    cases pooled

end Pop3
