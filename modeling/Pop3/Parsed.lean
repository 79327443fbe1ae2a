import Pop3.Call

/-!
# Operations that parse

`retr_parsed` and `top_parsed` hand what they have retrieved to a parser of messages,
which is a parameter.  Whatever it makes of a message, the client is left as the call
that retrieves leaves it, and blames whom that call blames.
-/

namespace Pop3

open Rust Pop3Client

/-! ## The operations -/

/-- A parser of messages: what it makes of the octets that it accepts. -/
structure MessageParser (μ : Type) where
  parse : List UInt8 → Option μ

/-- The errors of operations that parse what they retrieve. -/
inductive ParsedError
  | pop3 (error : Pop3Error)
  | mimeParse (message : Str)
  deriving DecidableEq

namespace MessageParser

variable (parser : MessageParser μ)

/-- What is made of a message that has been retrieved by its number. -/
def parsed (messageId : UInt32) (message : Message) : Except ParsedError μ :=
  okOr (parser.parse (utf8 message.data)) (.mimeParse ("message ".toList ++
    decimal messageId.toNat ++ " could not be parsed as RFC 5322".toList))

end MessageParser

namespace Pop3Client

variable [Server σ] (parser : MessageParser μ)

/-- Retrieve a message and parse it. -/
def retrParsed (messageId : UInt32) : Action ParsedError (Pop3Client σ) μ := do
  let message ← mapError .pop3 (retr messageId)
  ofResult (parser.parsed messageId message)

/-- Retrieve the beginning of a message and parse it. -/
def topParsed (messageId lines : UInt32) : Action ParsedError (Pop3Client σ) μ := do
  let message ← mapError .pop3 (top messageId lines)
  ofResult (parser.parsed messageId message)

end Pop3Client

/-- The operations of a client, those that parse among them. -/
inductive ParsedCall
  | plain (call : Call)
  | retrParsed (messageId : UInt32)
  | topParsed (messageId lines : UInt32)

/-- The call that talks to the server. -/
def ParsedCall.request : ParsedCall → Call
  | .plain call => call
  | .retrParsed messageId => .retr messageId
  | .topParsed messageId lines => .top messageId lines

section Running

variable [Server σ] [Md5] (parser : MessageParser μ)

/-- Perform an operation. -/
def ParsedCall.run : ParsedCall → Action ParsedError (Pop3Client σ) (Value ⊕ μ)
  | .plain call => do return .inl (← mapError .pop3 call.run)
  | .retrParsed messageId => do return .inr (← Pop3Client.retrParsed parser messageId)
  | .topParsed messageId lines => do return .inr (← Pop3Client.topParsed parser messageId lines)

/-- The client after a sequence of calls, whatever they returned. -/
def ParsedCall.runAll (calls : List ParsedCall) (client : Pop3Client σ) : Pop3Client σ :=
  calls.foldl (fun client call => finalState (call.run parser client)) client

/-- What each of a sequence of calls returns, and the client after it. -/
def ParsedCall.runs :
    List ParsedCall → Pop3Client σ → List (Except ParsedError (Value ⊕ μ) × Pop3Client σ)
  | [], _ => []
  | call :: calls, client =>
      let result := call.run parser client
      (returned result, finalState result) :: runs calls (finalState result)

variable {parser}

/-- Parsing leaves the client alone. -/
theorem ParsedCall.finalState_run (call : ParsedCall) (client : Pop3Client σ) :
    finalState (call.run parser client) = finalState (call.request.run client) := by
  cases call with
  | plain call =>
      rw [ParsedCall.run, finalState_bind_pure, finalState_mapError]
      rfl
  | retrParsed messageId =>
      rw [ParsedCall.run, finalState_bind_pure, Pop3Client.retrParsed,
        finalState_mapError_ofResult]
      exact (finalState_bind_pure (retr messageId) Value.message client).symm
  | topParsed messageId lines =>
      rw [ParsedCall.run, finalState_bind_pure, Pop3Client.topParsed,
        finalState_mapError_ofResult]
      exact (finalState_bind_pure (top messageId lines) Value.message client).symm

theorem ParsedCall.runAll_eq (calls : List ParsedCall) (client : Pop3Client σ) :
    runAll parser calls client = Call.runAll (calls.map request) client := by
  rw [runAll, Call.runAll, List.foldl_map]
  simp only [finalState_run]

/-- An operation fails as its request does, unless a message cannot be parsed. -/
theorem ParsedCall.returned_run_iff
    (call : ParsedCall) (client : Pop3Client σ) (error : Pop3Error) :
    returned (call.run parser client) = .error (.pop3 error) ↔
      returned (call.request.run client) = .error error := by
  have parses : ∀ (messageId : UInt32) (retrieve : ClientM σ Message),
      ((((returned (retrieve client)).mapError .pop3 >>= parser.parsed messageId).map Sum.inr :
          Except ParsedError (Value ⊕ μ)) = .error (.pop3 error)) ↔
        (returned (retrieve client)).map Value.message = .error error := by
    intro messageId retrieve
    cases returned (retrieve client) with
    | ok message =>
        refine iff_of_false (fun fails => ?_) fun fails => by cases fails
        change (parser.parsed messageId message).map Sum.inr = _ at fails
        unfold MessageParser.parsed okOr at fails
        cases parsed : parser.parse (utf8 message.data) <;> rw [parsed] at fails <;> cases fails
    | error other => simp [Except.map, Except.mapError, bind, Except.bind]
  cases call with
  | plain call =>
      rw [ParsedCall.run, returned_bind_pure, returned_mapError, ParsedCall.request]
      cases returned (call.run client) with
      | ok value => exact iff_of_false (fun fails => by cases fails) fun fails => by cases fails
      | error other => simp [Except.map, Except.mapError]
  | retrParsed messageId =>
      rw [ParsedCall.run, returned_bind_pure, Pop3Client.retrParsed, returned_mapError_ofResult,
        ParsedCall.request, Call.run, returned_bind_pure]
      exact parses messageId (retr messageId)
  | topParsed messageId lines =>
      rw [ParsedCall.run, returned_bind_pure, Pop3Client.topParsed, returned_mapError_ofResult,
        ParsedCall.request, Call.run, returned_bind_pure]
      exact parses messageId (top messageId lines)

end Running

end Pop3
