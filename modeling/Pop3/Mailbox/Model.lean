import Mathlib.Algebra.GroupWithZero.Nat
import Mathlib.Data.Finset.Insert
import Pop3.Call
import Pop3.Framing

/-!
# The mailbox

What a client of a mailbox wants from it, without any protocol: the messages
that are there, what it may be asked about them, and the marks for deletion.
-/

namespace Pop3

open Rust Framing

/-! ## Messages -/

/-- A unique id consists of printable ASCII characters other than space. -/
structure IsUniqueId (text : Str) : Prop where
  nonempty : text ≠ []
  printable : ∀ character ∈ text, 33 ≤ character.toNat ∧ character.toNat ≤ 126

/-- A message in a mailbox. -/
structure Mail where
  uniqueId : Str
  size : Nat
  lines : List Line
  isUniqueId : IsUniqueId uniqueId

/-- The header, the empty line behind it, and this many lines of the body. -/
def topLines (count : Nat) : List Line → List Line
  | [] => []
  | line :: rest =>
      if line.text = [] then line :: rest.take count else line :: topLines count rest

/-- The text of a message as it is returned. -/
def messageOf (lines : List Line) : Message where
  data := joined (lines.map Line.text)

/-- Messages, numbered from 1, some of them marked for deletion. -/
structure Mailbox where
  mails : List Mail
  marks : Finset UInt32
  countFits : mails.length < UInt32.size
  sizeFits : (mails.map Mail.size).sum < UInt64.size

namespace Mailbox

/-- Every message with its number. -/
def numbered (mailbox : Mailbox) : List (UInt32 × Mail) :=
  mailbox.mails.zipIdx.map fun (mail, index) => (UInt32.ofNat (index + 1), mail)

/-- The messages that are not marked. -/
def present (mailbox : Mailbox) : List (UInt32 × Mail) :=
  mailbox.numbered.filter fun (messageId, _) => messageId ∉ mailbox.marks

/-- The unmarked message with this number. -/
def find (mailbox : Mailbox) (messageId : UInt32) : Option Mail :=
  mailbox.present.lookup messageId

/-- The size of all messages together. -/
def totalSize (mailbox : Mailbox) : Nat :=
  (mailbox.present.map fun (_, mail) => mail.size).sum

/-- How many messages are there, and how large they are. -/
def stat (mailbox : Mailbox) : Stat where
  messageCount := UInt32.ofNat mailbox.present.length
  mailboxSize := UInt64.ofNat mailbox.totalSize

def listEntry (messageId : UInt32) (mail : Mail) : ListEntry where
  messageId
  size := UInt64.ofNat mail.size

def uidlEntry (messageId : UInt32) (mail : Mail) : UidlEntry where
  messageId
  uniqueId := mail.uniqueId

/-- The sizes of all messages. -/
def listing (mailbox : Mailbox) : List ListEntry :=
  mailbox.present.map fun (messageId, mail) => listEntry messageId mail

/-- The unique ids of all messages. -/
def uids (mailbox : Mailbox) : List UidlEntry :=
  mailbox.present.map fun (messageId, mail) => uidlEntry messageId mail

/-- Mark a message for deletion. -/
def mark (messageId : UInt32) (mailbox : Mailbox) : Mailbox :=
  { mailbox with marks := insert messageId mailbox.marks }

/-- Remove all marks. -/
def unmark (mailbox : Mailbox) : Mailbox :=
  { mailbox with marks := ∅ }

end Mailbox

/-! ## Errors -/

/-- The response codes that have an error of their own. -/
def respCodes : List (Str × (Str → Pop3Error)) :=
  [ ("IN-USE".toList, .mailboxInUse),
    ("LOGIN-DELAY".toList, .loginDelay),
    ("SYS/TEMP".toList, .sysTemp),
    ("SYS/PERM".toList, .sysPerm),
    ("AUTH".toList, .authFailed) ]

/-- The error that the text of a negative answer stands for. -/
def mappedError (text : Str) : Pop3Error :=
  let known := respCodes.findSome? fun (code, error) =>
    (stripPrefix ("[".toList ++ code ++ "]".toList) text).map fun rest =>
      error (trimStart rest)
  known.getD (.serverError text)

/-! ## A mailbox with a server in front of it -/

/-- What a server is free to choose in one answer: whether it refuses a request
that it could grant, and the texts. -/
structure Choice where
  refuses : Bool := false
  positive : Line
  negative : Line

/-- A mailbox, and what its server chooses in each of its answers. -/
structure MailServer where
  mailbox : Mailbox
  choices : Nat → Choice
  answered : Nat := 0

namespace MailServer

/-- The choice for the next answer. -/
def choice (server : MailServer) : Choice := server.choices server.answered

/-- The server after its next answer. -/
def next (server : MailServer) (mailbox : Mailbox) : MailServer :=
  { server with mailbox, answered := server.answered + 1 }

/-- Request something of the mailbox: what is read of it, if that can be granted,
and how the request changes it then. -/
def request (read : Mailbox → Option α) (change : Mailbox → Mailbox) :
    Action Pop3Error MailServer α := fun server =>
  match if server.choice.refuses then none else read server.mailbox with
  | some value => .ok value (server.next (change server.mailbox))
  | none => .error (mappedError (trimStart server.choice.negative.text))
      (server.next server.mailbox)

section

variable {server : MailServer} {read : Mailbox → Option α} {value : α}

theorem request_of_some
    (granted : (if server.choice.refuses then none else read server.mailbox) = some value)
    (change : Mailbox → Mailbox) :
    request read change server = .ok value (server.next (change server.mailbox)) := by
  simp only [request, granted]

theorem request_of_none
    (refused : (if server.choice.refuses then none else read server.mailbox) = none)
    (change : Mailbox → Mailbox) :
    request read change server =
      .error (mappedError (trimStart server.choice.negative.text))
        (server.next server.mailbox) := by
  simp only [request, refused]

end

/-- Look something up. -/
def lookUp (read : Mailbox → Option α) : Action Pop3Error MailServer α := request read id

/-- Message numbers start at 1. -/
def checkNumber (messageId : UInt32) : Action Pop3Error MailServer Unit :=
  ofResult (if messageId = 0 then .error .invalidInput else .ok ())

def checkNumbers (ids : List UInt32) : Action Pop3Error MailServer Unit :=
  ofResult (if 0 ∈ ids then .error .invalidInput else .ok ())

def stat : Action Pop3Error MailServer Stat := lookUp fun mailbox => some mailbox.stat

def list : Option UInt32 → Action Pop3Error MailServer (List ListEntry)
  | none => lookUp fun mailbox => some mailbox.listing
  | some messageId => do
      checkNumber messageId
      lookUp fun mailbox => (mailbox.find messageId).map fun mail =>
        [Mailbox.listEntry messageId mail]

def uidl : Option UInt32 → Action Pop3Error MailServer (List UidlEntry)
  | none => lookUp fun mailbox => some mailbox.uids
  | some messageId => do
      checkNumber messageId
      lookUp fun mailbox => (mailbox.find messageId).map fun mail =>
        [Mailbox.uidlEntry messageId mail]

def retr (messageId : UInt32) : Action Pop3Error MailServer Message := do
  checkNumber messageId
  lookUp fun mailbox => (mailbox.find messageId).map fun mail => messageOf mail.lines

def top (messageId count : UInt32) : Action Pop3Error MailServer Message := do
  checkNumber messageId
  lookUp fun mailbox => (mailbox.find messageId).map fun mail =>
    messageOf (topLines count.toNat mail.lines)

def dele (messageId : UInt32) : Action Pop3Error MailServer Unit := do
  checkNumber messageId
  request (fun mailbox => (mailbox.find messageId).map fun _ => ()) (Mailbox.mark messageId)

def rset : Action Pop3Error MailServer Unit := request (fun _ => some ()) Mailbox.unmark

def noop : Action Pop3Error MailServer Unit := lookUp fun _ => some ()

/-- Each of several messages, whatever becomes of the others. -/
def many (operation : UInt32 → Action Pop3Error MailServer α) (ids : List UInt32) :
    Action Pop3Error MailServer (List (Except Pop3Error α)) := do
  checkNumbers ids
  ids.mapM fun messageId => attempt (operation messageId)

def unseenUids (seen : Pop3Client.UidSet) :
    Action Pop3Error MailServer (List UidlEntry) :=
  lookUp fun mailbox => some (mailbox.uids.filter (·.uniqueId ∉ seen.elements))

/-- All unseen messages, up to the first that is refused. -/
def fetchUnseen (seen : Pop3Client.UidSet) :
    Action Pop3Error MailServer (List (UidlEntry × Message)) := do
  let entries ← unseenUids seen
  entries.mapM fun entry => do
    let message ← retr entry.messageId
    return (entry, message)

/-- The seen unique ids that are gone, and those that are not. -/
def pruneSeen (seen : Pop3Client.UidSet) :
    Action Pop3Error MailServer (List Str × Pop3Client.UidSet) :=
  lookUp fun mailbox =>
    let there := fun uid => decide (uid ∈ mailbox.uids.map (·.uniqueId))
    some (seen.elements.filter (!there ·), seen.retain there)

/-- What a call to a mailbox comes to. -/
def perform : Call → Action Pop3Error MailServer Value
  | .stat => do return .stat (← stat)
  | .list messageId => do return .listing (← list messageId)
  | .uidl messageId => do return .uids (← uidl messageId)
  | .retr messageId => do return .message (← retr messageId)
  | .top messageId count => do return .message (← top messageId count)
  | .dele messageId => do dele messageId; return .done
  | .rset => do rset; return .done
  | .noop => do noop; return .done
  | .retrMany ids => do return .messages (← many retr ids)
  | .deleMany ids => do return .deletions (← many dele ids)
  | .unseenUids seen => do return .uids (← unseenUids seen)
  | .fetchUnseen seen => do return .fetched (← fetchUnseen seen)
  | .pruneSeen seen => do
      let (uids, seen) ← pruneSeen seen
      return .pruned uids seen
  | .capa | .stls _ | .login _ _ | .apop _ _ => throw .notAuthenticated

/-- The result of each of a sequence of calls, and the server after it. -/
def runs : List Call → MailServer → List (Except Pop3Error Value × MailServer)
  | [], _ => []
  | call :: calls, server =>
      let result := perform call server
      (returned result, finalState result) :: runs calls (finalState result)

end MailServer

namespace Call

/-- The operations on the messages of a mailbox. -/
def isMailbox : Call → Bool
  | capa | stls _ | login _ _ | apop _ _ => false
  | _ => true

end Call

end Pop3
