import Pop3.Faults.Reading

/-!
# Operations until something fails

Whatever happens on the way, an operation comes to what it comes to with the server,
until a write or a read fails or a reply turns out not to be text.
-/

namespace Pop3

open Rust Framing Pop3Client

/-! ## One exchange -/

/-- The transport shows the view of an open connection. -/
def Flowing (start : List Event) (transport : Transport σ) (view : View σ) : Prop :=
  ∃ all, Flows start all transport view

/-- What is followed for all bytes on their way is followed. -/
theorem Flowing.follows
    {start : List Event}
    {action : TransportM σ α}
    {ideal : Action Pop3Error (View σ) α}
    (follows : ∀ all, Follows (Flows start all) (faults start) action ideal) :
    Follows (Flowing start) (faults start) action ideal := by
  rintro view transport ⟨all, flows⟩
  rcases follows all view transport flows with ⟨same, flows'⟩ | escaped
  · exact .inl ⟨same, all, flows'⟩
  · exact .inr escaped

section Exchange

variable [Server σ] {start : List Event} {command : Str} {view : View σ}

/-- A server that stays connected hears a command that is sent. -/
theorem sendCommand_flowing
    (noFeed : '\n' ∉ command)
    (stays : (view.hear command).isOpen = true) :
    Gives (Flowing start) (faults start) (Transport.sendCommand command)
      view (.ok ()) (view.hear command) := by
  rintro transport ⟨all, flows⟩
  have grows : Lasting (fun _ _ => True) fun trace => transport.net.trace <+: trace :=
    lasting_begins _
  have grown := (grows.survivesWrites.sendCommand command transport
    ⟨trivial, List.prefix_rfl⟩).trace
  rcases writes_command command transport flows.shows.stream flows.shows.writes with
    ⟨after, run, wrote, flushed⟩ | ⟨_, error, after, run, _⟩
  · rw [Transport.sendCommand, mapError_of_ok run] at grown ⊢
    obtain ⟨sent, same⟩ := grown
    obtain ⟨events, since, _⟩ := flows.since
    exact .inl ⟨rfl, _, flows.shows.wrote wrote flushed (flows.shows.net.hear noFeed)
      (View.hear_isClosed command view), stays, events ++ sent,
      by rw [← same, since, List.append_assoc], rfl⟩
  · rw [Transport.sendCommand, mapError_of_error run]
    exact .inr (.inl ⟨.io error, rfl, rfl⟩)

/-- The client is authenticated, and its transport shows the view of an open connection. -/
structure Steady (start : List Event) (client : Pop3Client σ) (view : View σ) : Prop where
  flowing : Flowing start client.transport view
  authenticated : client.state = .authenticated

omit [Server σ] in
/-- What the transport gives, the client gives. -/
theorem Gives.steady
    {action : TransportM σ α}
    {after : View σ}
    {result : Except Pop3Error α}
    (gives : Gives (Flowing start) (faults start) action view result after) :
    Gives (Steady start) (clientFaults start) (transportField.run action) view result after :=
  gives.field
    (fun _ steady => steady.flowing)
    (fun _ _ steady flowing => ⟨flowing, steady.authenticated⟩)
    (fun _ _ _ stuck => stuck)
    (fun _ _ gone => gone)

/-- A command that is sent is answered by the next line, or something fails. -/
theorem sendAndCheck_steady
    (noFeed : '\n' ∉ command)
    (stays : (view.hear command).isOpen = true) :
    Gives (Steady start) (clientFaults start) (sendAndCheck command)
      view (returned (View.partner.status command view))
      (finalState (View.partner.status command view)) := by
  rw [sendAndCheck_eq]
  have reads : Follows (Flowing start) (faults start)
      (do
        let line ← Transport.readLine
        ofResult (parseStatusLine line) : TransportM σ Str)
      View.readStatus :=
    (Flowing.follows (readLine_flows start)).bind (fun _ => .ofResult _) fun _ => .ofResult _
  exact Gives.steady ((sendCommand_flowing noFeed stays).bind (reads (view.hear command))
    fun _ => .bind torn_readLine fun _ => .ofResult _)

/-- The body of a positive answer follows its status line. -/
theorem sendAndReadBody_steady
    (noFeed : '\n' ∉ command)
    (stays : (view.hear command).isOpen = true) :
    Gives (Steady start) (clientFaults start)
      (do
        let _ ← sendAndCheck command
        readBody)
      view (returned (View.partner.body command view))
      (finalState (View.partner.body command view)) := by
  have status : Gives (Steady start) (clientFaults start) _ view _ _ :=
    sendAndCheck_steady noFeed stays
  have body : Follows (Steady start) (clientFaults start)
      (readBody : ClientM σ Str) View.readMultiline :=
    fun view => Gives.steady (Flowing.follows (readMultiline_flows start) view)
  have keeps : ∀ _ : Str, Preserves (clientFaults start).gone (readBody : ClientM σ Str) :=
    fun _ => Preserves.onTransport (preserves_readMultiline torn_readLine)
  unfold View.partner at status ⊢
  dsimp only at status ⊢
  cases run : View.readStatus (view.hear command) with
  | ok text after =>
      rw [run] at status
      rw [bind_of_ok run]
      exact status.bind (body after) keeps
  | error error after =>
      rw [run] at status
      rw [bind_of_error run]
      exact status.bind_error keeps

end Exchange

/-! ## Bodies that are read -/

theorem View.isOpen_hear [AnsweringServer σ] (command : Str) (view : View σ) :
    (view.hear command).isOpen = view.isOpen := by
  unfold View.hear
  split
  · rename_i isOpen
    rw [isOpen]
    rfl
  · rfl

/-- Every operation follows the view of its connection, until something fails. -/
theorem talks_steady [AnsweringServer σ] (start : List Event) :
    Talks (clientFaults start) (Steady start) (View.partner : Partner (View σ)) where
  keeps program := program.preserves (survivesSteps_torn start)
  authenticated _ _ steady := steady.authenticated
  status command noFeed _ view client steady := by
    have isOpen : view.isOpen = true := steady.flowing.choose_spec.isOpen
    exact sendAndCheck_steady noFeed ((view.isOpen_hear command).trans isOpen) client steady
  body command noFeed _ view client steady := by
    have isOpen : view.isOpen = true := steady.flowing.choose_spec.isOpen
    exact sendAndReadBody_steady noFeed ((view.isOpen_hear command).trans isOpen) client steady

namespace Dialogue

/-- The client is in sync with an open connection. -/
def InStep (start : List Event) (client : Pop3Client σ) (dialogue : Dialogue σ) : Prop :=
  Steady start client dialogue.view

theorem inStep_of_inSync
    {client : Pop3Client σ}
    {dialogue : Dialogue σ}
    (inSync : InSync stormy client dialogue) :
    InStep client.transport.net.trace client dialogue where
  flowing := ⟨[], inSync.shows, rfl, [], (List.append_nil _).symm, inSync.shows.pending⟩
  authenticated := inSync.authenticated

/-- A body is read only if the answer is positive and text, and then it is the body of this
answer, unless a dot is alone behind a bare LF. -/
theorem body_reads [AnsweringServer σ]
    {command : Str}
    (multi : isMultiLine (utf8 command) = true)
    {dialogue : Dialogue σ}
    (harmless : (dialogue.ask command).1.isPositive = true →
      (dialogue.ask command).1.IsHarmless)
    {body : Str}
    (reads : returned (View.partner.body command dialogue.view) = .ok body) :
    (dialogue.ask command).1.isPositive = true ∧ (dialogue.ask command).1.IsText ∧
      body = (dialogue.ask command).1.bodyText ∧
      finalState (View.partner.body command dialogue.view) = (dialogue.ask command).2.view := by
  by_cases readable : (dialogue.ask command).1.IsReadable true
  · rw [body_view multi readable, returned_moved] at reads
    rw [body_view multi readable, finalState_moved]
    unfold Dialogue.partner take at reads ⊢
    dsimp only at reads ⊢
    generalize dialogue.ask command = asked at readable reads ⊢
    obtain ⟨answer, after⟩ := asked
    rw [Answer.bodyResult, Answer.statusResult] at reads ⊢
    cases positive : answer.isPositive with
    | false =>
        rw [positive] at reads
        cases reads
    | true =>
        rw [positive] at reads
        cases reads
        exact ⟨rfl, (readable positive).isText, rfl, rfl⟩
  · -- An answer that is harmless and not readable is not text.
    have invalid : ¬IsUtf8 ((dialogue.ask command).1.encode true) := by
      rw [Answer.isUtf8_encode]
      exact fun isText => readable fun both => ⟨isText both, harmless both⟩
    have positive : (dialogue.ask command).1.isPositive = true := by
      by_contra negative
      exact readable fun both => absurd both negative
    have stops : returned (View.readReply (dialogue.view.hear command)) =
        .error (.io invalidUtf8) := by
      rw [hear_view, multi]
      exact takesReplies_body.octets _
        (Answer.isClearReply_encode true (harmless positive)).isSeen invalid _ []
        (List.append_nil _).symm
    rw [show View.partner.body command dialogue.view =
      View.readReply (dialogue.view.hear command) from rfl, stops] at reads
    cases reads

end Dialogue

end Pop3
