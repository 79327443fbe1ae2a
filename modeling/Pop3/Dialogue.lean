import Pop3.Call
import Pop3.Framing

/-!
# The dialogue

What the operations of a client are for: each of them asks the server some
commands and takes the answers.  How an answer travels is left to a partner,
which either asks a server directly or goes through the bytes of a connection.
-/

namespace Pop3

open Rust Framing

/-! ## Answers -/

/-- The lines that a reader makes of one: it takes a bare LF for an end, and what is
behind it for stuffed. -/
def received (line : Str) : List Str :=
  match line.splitOn '\n' with
  | [] => []
  | first :: rest => first :: rest.map Transport.unstuff

/-- The answer to one command: a status with a text, and the lines of a body
for the commands that have one. -/
structure Answer where
  isPositive : Bool
  text : Line
  body : List OctetLine
  deriving DecidableEq

namespace Answer

/-- The text of a status line behind its keyword. -/
def suffix (text : Line) : Str :=
  match text.text with
  | [] => []
  | characters => ' ' :: characters

/-- The status line. -/
def status (answer : Answer) : Str :=
  (if answer.isPositive then "+OK".toList else "-ERR".toList) ++ suffix answer.text

/-- The answer as it is sent. -/
def encode (multiLine : Bool) (answer : Answer) : List UInt8 :=
  utf8 (answer.status ++ crlf) ++
    if multiLine && answer.isPositive then encodeBody answer.body else []

/-- Every line of the body is text. -/
def IsText (answer : Answer) : Prop := ∀ line ∈ answer.body, IsUtf8 line.octets

instance (answer : Answer) : Decidable answer.IsText :=
  inferInstanceAs (Decidable (∀ line ∈ answer.body, _))

/-- No line of the body has a single dot behind a bare LF. -/
def IsHarmless (answer : Answer) : Prop := ∀ line ∈ answer.body, ¬line.Forges

instance (answer : Answer) : Decidable answer.IsHarmless :=
  inferInstanceAs (Decidable (∀ line ∈ answer.body, _))

/-- No line of the body has a CR or LF. -/
def IsPlain (answer : Answer) : Prop := ∀ line ∈ answer.body, line.IsPlain

instance (answer : Answer) : Decidable answer.IsPlain :=
  inferInstanceAs (Decidable (∀ line ∈ answer.body, _))

/-- The body is text, and does not end before its end. -/
structure IsClear (answer : Answer) : Prop where
  isText : answer.IsText
  harmless : answer.IsHarmless

instance (answer : Answer) : Decidable answer.IsClear :=
  decidable_of_iff (answer.IsText ∧ answer.IsHarmless)
    ⟨fun both => ⟨both.1, both.2⟩, fun clear => ⟨clear.isText, clear.harmless⟩⟩

/-- What the answer to such a command carries is clear. -/
def IsReadable (multiLine : Bool) (answer : Answer) : Prop :=
  (multiLine && answer.isPositive) = true → answer.IsClear

theorem IsClear.isReadable
    {answer : Answer}
    (clear : answer.IsClear)
    (multiLine : Bool) :
    answer.IsReadable multiLine :=
  fun _ => clear

theorem isReadable_single (answer : Answer) : answer.IsReadable false := by
  intro both
  cases both

/-- The result of a command whose answer has no body. -/
def statusResult (answer : Answer) : Except Pop3Error Str :=
  if answer.isPositive then .ok (trimStart answer.text.text)
  else .error (parseRespCode (trimStart answer.text.text))

/-- The text of the body, its lines ended by LF. -/
def bodyText (answer : Answer) : Str :=
  joined (answer.body.flatMap fun line => received ((fromUtf8 line.octets).getD []))

/-- The result of a command whose answer has a body. -/
def bodyResult (answer : Answer) : Except Pop3Error Str :=
  answer.statusResult.map fun _ => answer.bodyText

end Answer

/-- The commands whose positive answers have a body. -/
def isMultiLine (command : List UInt8) : Bool :=
  command == utf8 "LIST".toList || command == utf8 "UIDL".toList ||
    command == utf8 "CAPA".toList || (utf8 "RETR ".toList).isPrefixOf command ||
    (utf8 "TOP ".toList).isPrefixOf command

/-- A server that answers every command in order with one complete reply. -/
class AnsweringServer (σ : Type) where
  answer : σ → List UInt8 → σ × Answer

instance [AnsweringServer σ] : Server σ where
  respond state command :=
    let (state, answer) := AnsweringServer.answer state command
    (state, { bytes := answer.encode (isMultiLine command) })

/-- A server that gives the same answer to every command. -/
structure SameAnswer where
  answer : Answer
  plain : answer.IsPlain := by decide

instance : AnsweringServer SameAnswer where
  answer server _ := (server, server.answer)

/-- The server replies with this answer, and goes on in this state. -/
def Replies [Server σ] (server : σ) (command : Str) (answer : Answer) (next : σ) : Prop :=
  Server.respond server (utf8 command) =
    (next, { bytes := answer.encode (isMultiLine (utf8 command)) })

/-! ## Partners -/

/-- Somebody who can be asked a command for its status text, or its body. -/
structure Partner (T : Type) where
  status : Str → Action Pop3Error T Str
  body : Str → Action Pop3Error T Str

namespace Partner

variable (partner : Partner T)

def stat : Action Pop3Error T Stat := do
  let text ← partner.status "STAT".toList
  ofResult (parseStat text)

def list : Option UInt32 → Action Pop3Error T (List ListEntry)
  | some messageId => do
      ofResult (validateMessageId messageId)
      let text ← partner.status (commandFor "LIST ".toList messageId)
      let entry ← ofResult (parseListSingle text)
      return [entry]
  | none => do
      let body ← partner.body "LIST".toList
      ofResult (parseListMulti body)

def uidl : Option UInt32 → Action Pop3Error T (List UidlEntry)
  | some messageId => do
      ofResult (validateMessageId messageId)
      let text ← partner.status (commandFor "UIDL ".toList messageId)
      let entry ← ofResult (parseUidlSingle text)
      return [entry]
  | none => do
      let body ← partner.body "UIDL".toList
      ofResult (parseUidlMulti body)

def retr (messageId : UInt32) : Action Pop3Error T Message := do
  ofResult (validateMessageId messageId)
  let data ← partner.body (commandFor "RETR ".toList messageId)
  return { data }

def top (messageId lines : UInt32) : Action Pop3Error T Message := do
  ofResult (validateMessageId messageId)
  let data ← partner.body (commandFor "TOP ".toList messageId ++ " ".toList ++
    decimal lines.toNat)
  return { data }

def dele (messageId : UInt32) : Action Pop3Error T Unit := do
  ofResult (validateMessageId messageId)
  let _ ← partner.status (commandFor "DELE ".toList messageId)

def rset : Action Pop3Error T Unit := do
  let _ ← partner.status "RSET".toList

def noop : Action Pop3Error T Unit := do
  let _ ← partner.status "NOOP".toList

def capa : Action Pop3Error T (List Capability) := do
  let body ← partner.body "CAPA".toList
  return parseCapa body

/-- A batch of commands. -/
def many (operation : UInt32 → Action Pop3Error T α) (ids : List UInt32) :
    Action Pop3Error T (Pop3Client.Items α) := do
  ofResult (validateMessageIds ids)
  Pop3Client.sequentially operation ids

def unseenUids (seen : Pop3Client.UidSet) : Action Pop3Error T (List UidlEntry) := do
  let all ← partner.uidl none
  return all.filter fun entry => entry.uniqueId ∉ seen.elements

def fetchEach : List UidlEntry → Action Pop3Error T (List (UidlEntry × Message))
  | [] => return []
  | entry :: entries => do
      let message ← partner.retr entry.messageId
      let rest ← fetchEach entries
      return (entry, message) :: rest

def fetchUnseen (seen : Pop3Client.UidSet) :
    Action Pop3Error T (List (UidlEntry × Message)) := do
  let newEntries ← partner.unseenUids seen
  partner.fetchEach newEntries

def pruneSeen (seen : Pop3Client.UidSet) :
    Action Pop3Error T (List Str × Pop3Client.UidSet) := do
  let serverEntries ← partner.uidl none
  let onServer := fun uid => decide (uid ∈ serverEntries.map (·.uniqueId))
  return (seen.elements.filter (!onServer ·), seen.retain onServer)

/-- What a call comes to, when it asks this partner. -/
def perform : Call → Action Pop3Error T Value
  | .capa => do return .capabilities (← partner.capa)
  | .stat => do return .stat (← partner.stat)
  | .list messageId => do return .listing (← partner.list messageId)
  | .uidl messageId => do return .uids (← partner.uidl messageId)
  | .retr messageId => do return .message (← partner.retr messageId)
  | .top messageId lines => do return .message (← partner.top messageId lines)
  | .dele messageId => do partner.dele messageId; return .done
  | .rset => do partner.rset; return .done
  | .noop => do partner.noop; return .done
  | .retrMany ids => do return .messages (← many partner.retr ids)
  | .deleMany ids => do return .deletions (← many partner.dele ids)
  | .unseenUids seen => do return .uids (← partner.unseenUids seen)
  | .fetchUnseen seen => do return .fetched (← partner.fetchUnseen seen)
  | .pruneSeen seen => do
      let (uids, seen) ← partner.pruneSeen seen
      return .pruned uids seen
  | .stls _ | .login _ _ | .apop _ _ => throw .notAuthenticated

end Partner

/-! ## A server as a partner -/

/-- A server, and what has been noted of the dialogue with it. -/
structure Dialogue (σ : Type) where
  server : σ
  log : List Event := []

namespace Dialogue

/-- Ask the server one command. -/
def ask [AnsweringServer σ] (command : Str) (dialogue : Dialogue σ) : Answer × Dialogue σ :=
  let (server, answer) := AnsweringServer.answer dialogue.server (utf8 command)
  (answer,
    { server
      log := dialogue.log ++
        [.answered (utf8 command) (answer.encode (isMultiLine (utf8 command)))] })

/-- Ask a command and take what its own answer says. -/
def take [AnsweringServer σ] (result : Answer → Except Pop3Error Str) (command : Str) :
    Action Pop3Error (Dialogue σ) Str := fun dialogue =>
  let (answer, after) := dialogue.ask command
  match result answer with
  | .ok text => .ok text after
  | .error error => .error error after

/-- Taking an answer returns what it says. -/
theorem returned_take [AnsweringServer σ]
    (result : Answer → Except Pop3Error Str)
    (command : Str)
    (dialogue : Dialogue σ) :
    returned (take result command dialogue) = result (dialogue.ask command).1 := by
  unfold take
  dsimp only
  cases result (dialogue.ask command).1 <;> rfl

/-- The server as a partner: every command gets its own answer. -/
def partner [AnsweringServer σ] : Partner (Dialogue σ) where
  status := take Answer.statusResult
  body := take Answer.bodyResult

end Dialogue

end Pop3
