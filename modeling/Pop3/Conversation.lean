import Pop3.Answers
import Pop3.Programs
import Pop3.Connection.Loss

/-!
# Operations follow their partner

Every operation of an authenticated client does what it comes to with a
partner.  There are two partners: the view of the connection, whose bytes may be
anything, and a server that is asked directly, whose bytes need not be looked
at.
-/

namespace Pop3

open Rust Framing Pop3Client

/-- The client is authenticated, and its transport shows the view. -/
structure Serves (weather : Weather) (client : Pop3Client σ) (view : View σ) : Prop where
  shows : Shows weather client.transport view
  authenticated : client.state = .authenticated

/-- The dialogue with the server, as it was noted. -/
def Pop3Client.noted (client : Pop3Client σ) : List Event :=
  client.transport.net.trace.filter Event.isNoted

/-- How a client may leave the view of its connection. -/
def clientMishaps (weather : Weather) : Escapes Pop3Error (Pop3Client σ) where
  stuck error client := (mishaps weather).stuck error client.transport
  gone client := (mishaps weather).gone client.transport

theorem clientMishaps_calm :
    (clientMishaps calm : Escapes Pop3Error (Pop3Client σ)) = Escapes.none := by
  unfold clientMishaps
  rw [mishaps_calm]
  rfl

/-- What the transport gives, the client gives. -/
theorem Gives.onTransport
    {weather : Weather}
    {action : TransportM σ α}
    {before after : View σ}
    {result : Except Pop3Error α}
    (gives : Gives (Shows weather) (mishaps weather) action before result after) :
    Gives (Serves weather) (clientMishaps weather) (transportField.run action)
      before result after :=
  gives.field
    (fun _ served => served.shows)
    (fun _ _ served shown => ⟨shown, served.authenticated⟩)
    (fun _ _ _ stuck => stuck)
    (fun _ _ gone => gone)

/-- What an action on the transport preserves. -/
theorem Preserves.onTransport
    {invariant : Transport σ → Prop}
    {action : Action ε (Transport σ) α}
    (preserves : Preserves invariant action) :
    Preserves (fun client => invariant client.transport) (transportField.run action) :=
  Preserves.field transportField preserves

/-- What the steps keep, every program keeps. -/
theorem Program.preserves [Server σ]
    {invariant : Transport σ → Prop}
    (steps : SurvivesSteps invariant)
    {action : ClientM σ α}
    (program : Program True action) :
    Preserves (fun client => invariant client.transport) action := by
  refine Built.preserves program fun step primitive => ?_
  cases primitive with
  | send command => exact Preserves.onTransport (steps.send command)
  | read => exact Preserves.onTransport steps.read
  | window verb ids => exact .attempt (Preserves.onTransport (steps.window verb ids))
  | look read => exact .gets read

section Authentication

variable [Server σ] {invariant : Transport σ → Prop}

theorem preserves_authenticated
    (steps : SurvivesSteps invariant) :
    Preserves (fun client => invariant client.transport) (authenticated : ClientM σ Unit) :=
  .bind (.modify fun _ holds => holds) fun _ =>
    .bind (.attempt (program_capa.preserves steps)) fun _ =>
      .modify fun _ holds => holds

/-- Authentication keeps what programs keep. -/
theorem preserves_login
    (steps : SurvivesSteps invariant)
    (username password : Str) :
    Preserves (fun client => invariant client.transport)
      (login username password : ClientM σ Unit) :=
  .bind (.gets _) fun _ => .bind (.ofResult _) fun _ => .bind (.ofResult _) fun _ =>
    .bind (.ofResult _) fun _ =>
      .bind (.mapError ((program_sendAndCheck _).preserves steps)) fun _ =>
        .bind (.mapError ((program_sendAndCheck _).preserves steps)) fun _ =>
          preserves_authenticated steps

theorem preserves_apop [Md5]
    (steps : SurvivesSteps invariant)
    (username password : Str) :
    Preserves (fun client => invariant client.transport)
      (apop username password : ClientM σ Unit) :=
  .bind (.gets _) fun _ => .bind (.ofResult _) fun _ => .bind (.ofResult _) fun _ =>
    .bind (.ofResult _) fun _ => .bind (.gets _) fun _ => .bind (.ofResult _) fun _ =>
      .bind (.mapError ((program_sendAndCheck _).preserves steps)) fun _ =>
        preserves_authenticated steps

theorem preserves_stls
    (steps : SurvivesSteps invariant)
    (upgrades : ∀ hostname, Preserves invariant
      (Transport.upgradeInPlace hostname : TransportM σ Unit))
    (hostname : Str) :
    Preserves (fun client => invariant client.transport) (stls hostname : ClientM σ Unit) :=
  .bind (.gets _) fun _ => .bind (.ofResult _) fun _ => .bind (.gets _) fun _ =>
    .bind (.ofResult _) fun _ =>
      .bind ((program_sendAndCheck _).preserves steps) fun _ =>
        Preserves.onTransport (upgrades hostname)

/-- Every call keeps what the steps and upgrading keep. -/
theorem Call.preserves [Md5]
    (steps : SurvivesSteps invariant)
    (upgrades : ∀ hostname, Preserves invariant
      (Transport.upgradeInPlace hostname : TransportM σ Unit))
    (call : Call) :
    Preserves (fun client => invariant client.transport) (call.run : ClientM σ Value) := by
  by_cases command : call.isCommand = true
  · exact (call.program_run command).preserves steps
  · cases call with
    | stls hostname => exact .bind (preserves_stls steps upgrades hostname) fun _ => .pure _
    | login username password =>
        exact .bind (preserves_login steps username password) fun _ => .pure _
    | apop username password =>
        exact .bind (preserves_apop steps username password) fun _ => .pure _
    | _ => exact absurd rfl command

theorem Call.preserves_runAll [Md5]
    (steps : SurvivesSteps invariant)
    (upgrades : ∀ hostname, Preserves invariant
      (Transport.upgradeInPlace hostname : TransportM σ Unit))
    (calls : List Call)
    {client : Pop3Client σ}
    (holds : invariant client.transport) :
    invariant (Call.runAll calls client).transport := by
  induction calls generalizing client with
  | nil => exact holds
  | cons call calls inductionHypothesis =>
      exact inductionHypothesis (call.preserves steps upgrades client holds)

end Authentication

theorem Program.keeps [Server σ]
    {action : ClientM σ α}
    (program : Program True action)
    (weather : Weather) :
    Preserves (clientMishaps weather).gone action :=
  fun client gone => ⟨gone.1,
    program.preserves survivesSteps_dead client gone.2⟩

/-! ## The view as a partner -/

namespace View

/-- Read a status line. -/
def readStatus : Action Pop3Error (View σ) Str := do
  let line ← readLine
  ofResult (parseStatusLine line)

/-- The view of a connection as a partner: the next bytes are the answer. -/
def partner [Server σ] : Partner (View σ) where
  status command := fun view => readStatus (view.hear command)
  body command := fun view =>
    (do
      let _ ← readStatus
      readMultiline) (view.hear command)

end View

/-- A status line is read from the transport as from its view. -/
theorem readStatus_follows (weather : Weather) :
    Follows (Shows weather) (mishaps weather)
      (do
        let line ← Transport.readLine
        ofResult (parseStatusLine line) : TransportM σ Str)
      View.readStatus :=
  (readLine_follows weather).bind (fun _ => .ofResult _) fun _ => .ofResult _

theorem readBody_follows (weather : Weather) :
    Follows (Serves weather) (clientMishaps weather)
      (readBody : ClientM σ Str) View.readMultiline :=
  fun view => Gives.onTransport (readMultiline_follows weather view)

theorem readBody_keeps (weather : Weather) :
    Preserves (clientMishaps weather).gone (readBody : ClientM σ Str) :=
  fun _ gone => ⟨gone.1, Preserves.onTransport
    (preserves_readMultiline preserves_dead_readLine) _ gone.2⟩

section Exchanges

variable [Server σ] {weather : Weather}

/-- On its transport, a command is sent and a status line is read. -/
theorem sendAndCheck_eq (command : Str) :
    (sendAndCheck command : ClientM σ Str) = transportField.run (do
      Transport.sendCommand command
      let line ← Transport.readLine
      ofResult (parseStatusLine line)) := by
  simp only [Field.run_bind, Field.run_ofResult]
  rfl

theorem exchange_gives
    {command : Str}
    {view : View σ}
    (noFeed : '\n' ∉ command)
    (nothing : weather.lossy → view.pending = []) :
    Gives (Shows weather) (mishaps weather)
      (do
        Transport.sendCommand command
        let line ← Transport.readLine
        ofResult (parseStatusLine line))
      view (returned (View.partner.status command view))
      (finalState (View.partner.status command view)) :=
  (sendCommand_gives noFeed nothing).bind (readStatus_follows weather (view.hear command))
    fun _ => gone_of_dead (.bind preserves_dead_readLine fun _ => .ofResult _) weather

/-- A command that is sent is answered by the next line. -/
theorem sendAndCheck_gives
    {command : Str}
    {view : View σ}
    (noFeed : '\n' ∉ command)
    (nothing : weather.lossy → view.pending = []) :
    Gives (Serves weather) (clientMishaps weather) (sendAndCheck command)
      view (returned (View.partner.status command view))
      (finalState (View.partner.status command view)) := by
  rw [sendAndCheck_eq]
  exact Gives.onTransport (exchange_gives noFeed nothing)

/-- The body of a positive answer follows its status line. -/
theorem sendAndReadBody_gives
    {command : Str}
    {view : View σ}
    (noFeed : '\n' ∉ command)
    (nothing : weather.lossy → view.pending = []) :
    Gives (Serves weather) (clientMishaps weather)
      (do
        let _ ← sendAndCheck command
        readBody)
      view (returned (View.partner.body command view))
      (finalState (View.partner.body command view)) := by
  have status := sendAndCheck_gives noFeed nothing
  have keeps : ∀ _ : Str, Preserves (clientMishaps weather).gone
      (readBody : ClientM σ Str) :=
    fun _ => readBody_keeps weather
  unfold View.partner at status ⊢
  dsimp only at status ⊢
  cases run : View.readStatus (view.hear command) with
  | ok text after =>
      rw [run] at status
      rw [bind_of_ok run]
      exact status.bind (readBody_follows weather after) keeps
  | error error after =>
      rw [run] at status
      rw [bind_of_error run]
      exact status.bind_error keeps

end Exchanges

/-! ## The server as a partner -/

namespace Dialogue

/-- The view of a connection on which nothing is unread. -/
def view (dialogue : Dialogue σ) : View σ :=
  { server := dialogue.server, log := dialogue.log }

variable [AnsweringServer σ]

/-- The view when the answer to a command is about to be read. -/
theorem hear_view (dialogue : Dialogue σ) (command : Str) :
    dialogue.view.hear command =
      { (dialogue.ask command).2.view with
        pending := (dialogue.ask command).1.encode (isMultiLine (utf8 command)) } := by
  simp [View.hear, view, ask, Server.respond]

/-- The result of an action with another state put in. -/
def moved (move : S → T) : EStateM.Result ε S α → EStateM.Result ε T α
  | .ok value state => .ok value (move state)
  | .error error state => .error error (move state)

@[simp] theorem returned_moved (move : S → T) (result : EStateM.Result ε S α) :
    returned (moved move result) = returned result := by
  cases result <;> rfl

@[simp] theorem finalState_moved (move : S → T) (result : EStateM.Result ε S α) :
    finalState (moved move result) = move (finalState result) := by
  cases result <;> rfl

/-- The status line that is read is the server's own. -/
theorem readStatus_hear
    (dialogue : Dialogue σ)
    (command : Str) :
    View.readStatus (dialogue.view.hear command) =
      ofResult (dialogue.ask command).1.statusResult
        { (dialogue.ask command).2.view with
          pending :=
            if isMultiLine (utf8 command) && (dialogue.ask command).1.isPositive then
              encodeBody (dialogue.ask command).1.body
            else [] } := by
  rw [hear_view, View.readStatus, bind_of_ok (View.readLine_of_status rfl),
    Answer.parseStatusLine_status]

/-- A command without a body gets its own answer. -/
theorem status_view
    {command : Str}
    (single : isMultiLine (utf8 command) = false)
    (dialogue : Dialogue σ) :
    View.partner.status command dialogue.view =
      moved view (Dialogue.partner.status command dialogue) := by
  change View.readStatus (dialogue.view.hear command) = _
  rw [readStatus_hear]
  unfold Dialogue.partner take
  simp only [single, Bool.false_and, Bool.false_eq_true, ↓reduceIte]
  cases (dialogue.ask command).1.statusResult <;> rfl

/-- A command with a body gets its own answer, if that is readable. -/
theorem body_view
    {command : Str}
    (multi : isMultiLine (utf8 command) = true)
    {dialogue : Dialogue σ}
    (readable : (dialogue.ask command).1.IsReadable true) :
    View.partner.body command dialogue.view =
      moved view (Dialogue.partner.body command dialogue) := by
  have status := readStatus_hear dialogue command
  change (do
    let _ ← View.readStatus
    View.readMultiline) (dialogue.view.hear command) = _
  unfold Dialogue.partner take
  dsimp only
  rw [multi, Bool.true_and] at status
  generalize dialogue.ask command = asked at readable status ⊢
  obtain ⟨answer, after⟩ := asked
  rw [Answer.bodyResult]
  cases positive : answer.isPositive with
  | false =>
      rw [Answer.statusResult, positive] at status ⊢
      rw [bind_of_error status]
      rfl
  | true =>
      have clear := readable positive
      rw [Answer.statusResult, positive] at status ⊢
      rw [bind_of_ok status, View.readMultiline_of_clear clear (List.append_nil _).symm]
      rfl

end Dialogue

end Pop3
