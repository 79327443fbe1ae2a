import Pop3.Mailbox.Visiting
import Pop3.Parsed

/-!
# Parsed messages

`retr_parsed` and `top_parsed` hand what they have retrieved to a parser of messages.
In a session with an account the parser gets the lines that are stored there, and a
message that it does not accept costs nothing but its own call.
-/

namespace Pop3

open Rust Pop3Client

/-! ## What a visitor may expect -/

namespace Account

/-- Ask an open account for a message. -/
def stored (request : Action Pop3Error MailServer Message) : Action Pop3Error Visit Message := do
  mustBe true
  Visit.mailsField.run request

variable [Md5] (parser : MessageParser μ) (account : Account)

/-- What is parsed is the message that is stored. -/
def performParsed : ParsedCall → Action ParsedError Visit (Value ⊕ μ)
  | .plain call => do return .inl (← mapError .pop3 (account.perform call))
  | .retrParsed messageId => do
      let message ← mapError .pop3 (stored (MailServer.retr messageId))
      return .inr (← ofResult (parser.parsed messageId message))
  | .topParsed messageId lines => do
      let message ← mapError .pop3 (stored (MailServer.top messageId lines))
      return .inr (← ofResult (parser.parsed messageId message))

/-- What each of a sequence of calls returns, and the account after it. -/
def parsedRuns : List ParsedCall → Visit → List (Except ParsedError (Value ⊕ μ) × Visit)
  | [], _ => []
  | call :: calls, visit =>
      let result := account.performParsed parser call visit
      (returned result, finalState result) :: parsedRuns calls (finalState result)

end Account

/-! ## Sessions -/

section Visiting

variable [Md5] {account : Account}

/-- In a session a message is retrieved as it is stored. -/
theorem attends_stored
    {call : Call}
    (mailbox : call.isMailbox = true)
    {retrieve : ClientM AccountServer Message}
    (runs : call.run = (do return .message (← retrieve)))
    {request : Action Pop3Error MailServer Message}
    (performs : MailServer.perform call = (do return .message (← request))) :
    Follows (account.Attends calm) Escapes.none retrieve (Account.stored request) := by
  have follows : Follows (account.Attends calm) (clientMishaps calm) call.run
      (account.perform call) :=
    call.attends_run rfl
  rw [clientMishaps_calm, runs, Account.perform_of_isMailbox mailbox, performs,
    Field.run_bind, ← bind_assoc] at follows
  simp only [Field.run_pure] at follows
  exact .of_wrapped (fun _ _ same => Value.message.inj same) follows

variable {μ : Type} {parser : MessageParser μ}

/-- In a session every operation does what its visitor may expect, those that parse included. -/
theorem ParsedCall.attends_run (call : ParsedCall) :
    Follows (account.Attends calm) Escapes.none (call.run parser)
      (account.performParsed parser call) := by
  have keeps : ∀ {ε α : Type} (action : Action ε (Pop3Client AccountServer) α),
      Preserves (Escapes.none : Escapes ε (Pop3Client AccountServer)).gone action :=
    fun _ _ gone => gone.elim
  have parses : ∀ (messageId : UInt32) {retrieve : ClientM AccountServer Message}
      {request : Action Pop3Error MailServer Message},
      Follows (account.Attends calm) Escapes.none retrieve (Account.stored request) →
      Follows (account.Attends calm) Escapes.none
        (do
          let message ← mapError .pop3 retrieve
          return .inr (← ofResult (parser.parsed messageId message)))
        (do
          let message ← mapError .pop3 (Account.stored request)
          return .inr (← ofResult (parser.parsed messageId message)) :
            Action ParsedError Visit (Value ⊕ μ)) := fun messageId _ _ retrieved =>
    retrieved.convert.bind
      (fun message => Follows.bind (.ofResult _) (fun _ => .pure _) fun _ => keeps _)
      fun _ => keeps _
  cases call with
  | plain call =>
      have follows : Follows (account.Attends calm) (clientMishaps calm) call.run
          (account.perform call) :=
        call.attends_run rfl
      rw [clientMishaps_calm] at follows
      exact follows.convert.bind (fun _ => .pure _) fun _ => keeps _
  | retrParsed messageId =>
      simp only [ParsedCall.run, Pop3Client.retrParsed, bind_assoc]
      exact parses messageId (@attends_stored _ account (.retr messageId) rfl _ rfl _ rfl)
  | topParsed messageId lines =>
      simp only [ParsedCall.run, Pop3Client.topParsed, bind_assoc]
      exact parses messageId (@attends_stored _ account (.top messageId lines) rfl _ rfl _ rfl)

/-- Whole sessions in which messages are parsed.  On a connection on which nothing is late and
nothing is lost, whatever the parser is: an operation that parses returns what the parser makes
of the lines that the account stores, freed of what the transfer has added to them, or an error
that names the message.  Either way the session goes on as its visitor may expect. -/
theorem parsed_session_refines_account
    {mails : MailServer}
    {net : Net AccountServer}
    (greets : account.Greets mails net)
    (isCalm : net.Within calm)
    (parser : MessageParser μ)
    (calls : List ParsedCall)
    {client : Pop3Client AccountServer}
    (connects : Connects net client) :
    List.Forall₂ (fun outcome expected =>
        outcome.1 = expected.1 ∧ Account.InTouch outcome.2 expected.2)
      (ParsedCall.runs parser calls client)
      (account.parsedRuns parser calls { mails, stream := client.transport.stream }) := by
  have attends := attends_connects greets isCalm connects
  generalize ({ mails, stream := client.transport.stream } : Visit) = visit at attends ⊢
  clear connects
  induction calls generalizing client visit with
  | nil => exact .nil
  | cons call calls inductionHypothesis =>
      obtain ⟨same, attends'⟩ := (call.attends_run visit).of_none attends
      exact .cons ⟨same, attends'.inTouch⟩ (inductionHypothesis _ attends')

end Visiting

/-- A parser that accepts whatever is not empty. -/
def tolerantParser : MessageParser (List UInt8) where
  parse octets := if octets = [] then none else some octets

/-- A message is parsed, and parsed again from its first line. -/
theorem parsed_session_refines_smallAccount :
    let _ := emptyDigest
    let net : Net AccountServer :=
      { server := { account := smallAccount, mails := smallServer }
        wire := smallAccount.opening
        handshake := smallAccount.handshake }
    let calls := [.plain (.login "me".toList "secret".toList), .retrParsed 1, .topParsed 1 0,
      .retrParsed 9, .plain .stat]
    ∃ client, connect (.ok net) = .ok client ∧
      List.Forall₂ (fun outcome expected =>
          outcome.1 = expected.1 ∧ Account.InTouch outcome.2 expected.2)
        (ParsedCall.runs tolerantParser calls client)
        (smallAccount.parsedRuns tolerantParser calls
          { mails := smallServer, stream := client.transport.stream }) := by
  intro _ net calls
  have connects : (connect (.ok net)).isOk = true := by decide +kernel
  cases connected : connect (.ok net) with
  | error error =>
      rw [connected] at connects
      cases connects
  | ok client =>
      exact ⟨client, rfl, parsed_session_refines_account ⟨rfl, rfl, rfl, rfl⟩
        ⟨rfl, by simp [net], by simp [net]⟩ tolerantParser calls (.plain connected)⟩

end Pop3
