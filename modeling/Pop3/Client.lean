import Pop3.Transport
import Pop3.Response

/-!
# The client

The commands of one POP3 connection, alone and in batches.
-/

namespace Pop3

open Rust

/-- The MD5 crate: `format!("{:x}", md5::compute(input))`. -/
class Md5 where
  hexDigest : List UInt8 → Str
  isHex : ∀ input, ∀ digit ∈ hexDigest input, digit ∈ "0123456789abcdef".toList

/-- Digests for runs that compute none; this is the digest of the empty string. -/
@[reducible] def emptyDigest : Md5 where
  hexDigest _ := "d41d8cd98f00b204e9800998ecf8427e".toList
  isHex _ := by simp

/-- An async POP3 client connection. -/
structure Pop3Client (σ : Type) where
  transport : Transport σ
  /-- The text after `+OK` of the line sent on connection. -/
  greeting : Str
  state : SessionState
  isPipelining : Bool

/-- Actions on a client. -/
abbrev ClientM (σ : Type) := Action Pop3Error (Pop3Client σ)

/-- The transport of a client. -/
def transportField : Field (Pop3Client σ) (Transport σ) where
  get := Pop3Client.transport
  set transport client := { client with transport }
  get_set _ _ := rfl
  set_get _ := rfl
  set_set _ _ _ := rfl

/-- Check that a string does not contain CR or LF. -/
def checkNoCrlf (text : Str) : Except Pop3Error Unit :=
  if '\r' ∈ text ∨ '\n' ∈ text then .error .invalidInput else .ok ()

/-- Validate that a message id is at least 1. -/
def validateMessageId (messageId : UInt32) : Except Pop3Error Unit :=
  if messageId = 0 then .error .invalidInput else .ok ()

/-- Validate every id of a batch; the first invalid one fails. -/
def validateMessageIds : List UInt32 → Except Pop3Error Unit
  | [] => .ok ()
  | messageId :: rest => do
      validateMessageId messageId
      validateMessageIds rest

/-- Extract the APOP timestamp `<…>` from a greeting. -/
def extractApopTimestamp (greeting : Str) : Option Str :=
  match started : find '<' greeting with
  | none => none
  | some start =>
      let tail := sliceFrom greeting start (isCharBoundary_of_find started)
      match ended : find '>' tail with
      | none => none
      | some stop =>
          some (sliceTo tail (stop + 1) (isCharBoundary_succ_of_find rfl ended))

/-- `hex(md5(timestamp + password))`. -/
def computeApopDigest [Md5] (timestamp password : Str) : Str :=
  Md5.hexDigest (utf8 (timestamp ++ password))

/-- Maximum number of commands sent before draining responses. -/
def pipelineWindow : Nat := 4

/-- A command with a message id behind it. -/
def commandFor (verb : Str) (messageId : UInt32) : Str :=
  verb ++ decimal messageId.toNat

namespace Pop3Client

/-! ## Connecting -/

/-- The client of a transport whose greeting has been read. -/
def greet (transport : Transport σ) : Except Pop3Error (Pop3Client σ) :=
  match Transport.readLine transport with
  | .error error _ => .error error
  | .ok greetingLine transport =>
      match parseStatusLine greetingLine with
      | .error error => .error error
      | .ok greeting => .ok
          { transport, greeting, state := .connected, isPipelining := false }

/-- Connect over plain TCP. -/
def connect (dialed : Except IoError (Net σ)) : Except Pop3Error (Pop3Client σ) := do
  greet (← Transport.connectPlain dialed)

/-- Connect over TLS. -/
def connectTls (hostname : Str) (prepared : Handshake) (dialed : Except IoError (Net σ)) :
    Except Pop3Error (Pop3Client σ) := do
  greet (← Transport.connectTls hostname prepared dialed)

/-! ## Single commands -/

/-- Send a command, read the status line, and return the status text. -/
def sendAndCheck [Server σ] (command : Str) : ClientM σ Str := do
  transportField.run (Transport.sendCommand command)
  let line ← transportField.run Transport.readLine
  ofResult (parseStatusLine line)

/-- Read the body behind a status line. -/
def readBody : ClientM σ Str := transportField.run Transport.readMultiline

def requireAuth : ClientM σ Unit := do
  let state ← gets Pop3Client.state
  ofResult (if state ≠ .authenticated then .error .notAuthenticated else .ok ())

/-- Query the server for its capabilities. -/
def capa [Server σ] : ClientM σ (List Capability) := do
  let _ ← sendAndCheck "CAPA".toList
  let body ← readBody
  return parseCapa body

/-- Upgrade the connection to TLS. -/
def stls [Server σ] (hostname : Str) : ClientM σ Unit := do
  let state ← gets Pop3Client.state
  ofResult (if state = .authenticated then
    .error (.serverError "STLS not allowed after authentication (RFC 2595)".toList)
    else .ok ())
  let encrypted ← gets fun client => client.transport.encrypted
  ofResult (if encrypted then
    .error (.serverError "connection is already encrypted".toList) else .ok ())
  let _ ← sendAndCheck "STLS".toList
  transportField.run (Transport.upgradeInPlace hostname)

/-- A refusal during authentication rejects the credentials. -/
def authError : Pop3Error → Pop3Error
  | .serverError message => .authFailed message
  | other => other

/-- Enter the authenticated state and probe the capabilities; an error of the
probe counts as an empty list. -/
def authenticated [Server σ] : ClientM σ Unit := do
  modify fun client => { client with state := .authenticated }
  let probe ← attempt capa
  let capabilities := match probe with
    | .ok capabilities => capabilities
    | .error (_ : Pop3Error) => []
  modify fun client => { client with
    isPipelining := capabilities.any (·.name == "PIPELINING".toList) }

/-- Authenticate with `USER` and `PASS`. -/
def login [Server σ] (username password : Str) : ClientM σ Unit := do
  let state ← gets Pop3Client.state
  ofResult (if state ≠ .connected then .error .notAuthenticated else .ok ())
  ofResult (checkNoCrlf username)
  ofResult (checkNoCrlf password)
  let _ ← mapError authError (sendAndCheck ("USER ".toList ++ username))
  let _ ← mapError authError (sendAndCheck ("PASS ".toList ++ password))
  authenticated

/-- Authenticate with `APOP`. -/
def apop [Server σ] [Md5] (username password : Str) : ClientM σ Unit := do
  let state ← gets Pop3Client.state
  ofResult (if state ≠ .connected then .error .notAuthenticated else .ok ())
  ofResult (checkNoCrlf username)
  ofResult (checkNoCrlf password)
  let greeting ← gets Pop3Client.greeting
  let timestamp ← ofResult (okOr (extractApopTimestamp greeting) (.serverError
    "server does not support APOP (no timestamp in greeting)".toList))
  let digest := computeApopDigest timestamp password
  let _ ← mapError authError
    (sendAndCheck ("APOP ".toList ++ username ++ " ".toList ++ digest))
  authenticated

/-- Total message count and total size. -/
def stat [Server σ] : ClientM σ Stat := do
  requireAuth
  let text ← sendAndCheck "STAT".toList
  ofResult (parseStat text)

/-- The sizes of one message, or of all. -/
def list [Server σ] (messageId : Option UInt32) : ClientM σ (List ListEntry) := do
  requireAuth
  match messageId with
  | some messageId =>
      ofResult (validateMessageId messageId)
      let text ← sendAndCheck (commandFor "LIST ".toList messageId)
      let entry ← ofResult (parseListSingle text)
      return [entry]
  | none =>
      let _ ← sendAndCheck "LIST".toList
      let body ← readBody
      ofResult (parseListMulti body)

/-- The unique ids of one message, or of all. -/
def uidl [Server σ] (messageId : Option UInt32) : ClientM σ (List UidlEntry) := do
  requireAuth
  match messageId with
  | some messageId =>
      ofResult (validateMessageId messageId)
      let text ← sendAndCheck (commandFor "UIDL ".toList messageId)
      let entry ← ofResult (parseUidlSingle text)
      return [entry]
  | none =>
      let _ ← sendAndCheck "UIDL".toList
      let body ← readBody
      ofResult (parseUidlMulti body)

/-- Retrieve a full message. -/
def retr [Server σ] (messageId : UInt32) : ClientM σ Message := do
  requireAuth
  ofResult (validateMessageId messageId)
  let _ ← sendAndCheck (commandFor "RETR ".toList messageId)
  let data ← readBody
  return { data }

/-- Mark a message for deletion. -/
def dele [Server σ] (messageId : UInt32) : ClientM σ Unit := do
  requireAuth
  ofResult (validateMessageId messageId)
  let _ ← sendAndCheck (commandFor "DELE ".toList messageId)

/-- Unmark all messages. -/
def rset [Server σ] : ClientM σ Unit := do
  requireAuth
  let _ ← sendAndCheck "RSET".toList

/-- Keep the connection alive. -/
def noop [Server σ] : ClientM σ Unit := do
  requireAuth
  let _ ← sendAndCheck "NOOP".toList

/-- The headers and the first `lines` lines of a message. -/
def top [Server σ] (messageId lines : UInt32) : ClientM σ Message := do
  requireAuth
  ofResult (validateMessageId messageId)
  let _ ← sendAndCheck (commandFor "TOP ".toList messageId ++ " ".toList ++
    decimal lines.toNat)
  let data ← readBody
  return { data }

/-- End the session.  The caller drops what is left of the client. -/
def quit [Server σ] : ClientM σ Unit := do
  transportField.run (Transport.sendCommand "QUIT".toList)
  let line ← transportField.run Transport.readLine
  let _ ← ofResult (parseStatusLine line)
  modify fun client => { client with transport := client.transport.setClosed }

/-! ## Batches -/

/-- One `Result` for each id of a batch. -/
abbrev Items (α : Type) := List (Except Pop3Error α)

/-- The sequential fallback: one command at a time. -/
def sequentially (operation : UInt32 → Action Pop3Error S α) :
    List UInt32 → Action Pop3Error S (Items α)
  | [] => return []
  | messageId :: rest => do
      let result ← attempt (operation messageId)
      let results ← sequentially operation rest
      return result :: results

/-- Write all commands of a window. -/
def writeWindow [Server σ] (verb : Str) : List UInt32 → WriterM σ Unit
  | [] => return
  | messageId :: rest => do
      Transport.writeAll (utf8 (commandFor verb messageId ++ "\r\n".toList))
      writeWindow verb rest

/-- The send phase of a window: all commands, then a single flush. -/
def sendWindow [Server σ] (verb : Str) (window : List UInt32) : WriterM σ Unit := do
  writeWindow verb window
  Transport.flush

/-- The errors after which the connection may be dead. -/
def isIoLevel : Pop3Error → Bool
  | .connectionClosed | .timeout | .io _ => true
  | _ => false

/-- The receive phase of a window: one response for each command.  The flag is
false when an I/O-level error has stopped it. -/
def drainWindow (receive : Action Pop3Error S α) :
    List UInt32 → Action Pop3Error S (Items α × Bool)
  | [] => return ([], true)
  | _ :: rest => do
      match ← attempt receive with
      | .error error =>
          if isIoLevel error then return ([], false)
          else
            let (results, alive) ← drainWindow receive rest
            return (.error error :: results, alive)
      | .ok value =>
          let (results, alive) ← drainWindow receive rest
          return (.ok value :: results, alive)

/-- Fill the entries still missing with an error. -/
def fillUp (missing : Nat) (error : Pop3Error) : Items α :=
  List.replicate missing (.error error)

/-- Send commands window by window, and drain the responses of each. -/
def pipelined (send : List UInt32 → Action IoError S Unit)
    (receive : Action Pop3Error S α) : List (List UInt32) → Action Pop3Error S (Items α)
  | [] => return []
  | window :: windows => do
      let remaining := (window :: windows).flatten.length
      match ← attempt (send window) with
      | .error error => return fillUp remaining (.io error)
      | .ok () =>
          let (results, alive) ← drainWindow receive window
          if alive then
            let more ← pipelined send receive windows
            return results ++ more
          else return results ++ fillUp (remaining - results.length) .connectionClosed

/-- `slice::chunks`, for at most `rounds` chunks. -/
def chunksUpTo (size : Nat) : Nat → List α → List (List α)
  | _, [] => []
  | 0, _ => []
  | rounds + 1, items => items.take size :: chunksUpTo size rounds (items.drop size)

/-- `slice::chunks`: every chunk takes at least one item. -/
def chunks (size : Nat) (items : List α) : List (List α) :=
  chunksUpTo size items.length items

/-- Read a single `RETR` response: status line and body. -/
def readRetrResponse : ClientM σ Message := do
  let line ← transportField.run Transport.readLine
  let _ ← ofResult (parseStatusLine line)
  let data ← readBody
  return { data }

/-- Read a single `DELE` response: a status line. -/
def readDeleResponse : ClientM σ Unit := do
  let line ← transportField.run Transport.readLine
  let _ ← ofResult (parseStatusLine line)

def retrManyPipelined [Server σ] (ids : List UInt32) : ClientM σ (Items Message) :=
  pipelined (fun window => transportField.run (sendWindow "RETR ".toList window))
    readRetrResponse (chunks pipelineWindow ids)

def deleManyPipelined [Server σ] (ids : List UInt32) : ClientM σ (Items Unit) :=
  pipelined (fun window => transportField.run (sendWindow "DELE ".toList window))
    readDeleResponse (chunks pipelineWindow ids)

/-- A batch: validate all ids, then go one of the two ways. -/
def many (sequential inPipeline : List UInt32 → ClientM σ (Items α))
    (ids : List UInt32) : ClientM σ (Items α) := do
  requireAuth
  ofResult (validateMessageIds ids)
  if ids = [] then return []
  else
    let isPipelining ← gets Pop3Client.isPipelining
    if isPipelining then inPipeline ids else sequential ids

/-- Retrieve several messages. -/
def retrMany [Server σ] : List UInt32 → ClientM σ (Items Message) :=
  many (sequentially retr) retrManyPipelined

/-- Mark several messages for deletion. -/
def deleMany [Server σ] : List UInt32 → ClientM σ (Items Unit) :=
  many (sequentially dele) deleManyPipelined

/-! ## Incremental sync -/

/-- A `HashSet<String>`, as its elements in iteration order. -/
structure UidSet where
  elements : List Str
  nodup : elements.Nodup
  deriving DecidableEq

/-- `HashSet::retain`. -/
def UidSet.retain (keep : Str → Bool) (set : UidSet) : UidSet where
  elements := set.elements.filter keep
  nodup := set.nodup.filter keep

/-- The entries for messages not in `seen`. -/
def unseenUids [Server σ] (seen : UidSet) : ClientM σ (List UidlEntry) := do
  let all ← uidl none
  return all.filter fun entry => entry.uniqueId ∉ seen.elements

/-- Retrieve the message of each entry; the first error ends it. -/
def fetchEach [Server σ] : List UidlEntry → ClientM σ (List (UidlEntry × Message))
  | [] => return []
  | entry :: entries => do
      let message ← retr entry.messageId
      let rest ← fetchEach entries
      return (entry, message) :: rest

/-- Fetch the messages not in `seen`. -/
def fetchUnseen [Server σ] (seen : UidSet) : ClientM σ (List (UidlEntry × Message)) := do
  let newEntries ← unseenUids seen
  fetchEach newEntries

/-- Remove the unique ids from `seen` that no longer exist on the server.  The
caller gets the pruned ids and the set that is left; after an error the set is
as it was. -/
def pruneSeen [Server σ] (seen : UidSet) : ClientM σ (List Str × UidSet) := do
  let serverEntries ← uidl none
  let onServer := fun uid => decide (uid ∈ serverEntries.map (·.uniqueId))
  return (seen.elements.filter (!onServer ·), seen.retain onServer)

end Pop3Client

end Pop3
