import Pop3.Builder

/-!
# Automatic reconnection

A client that replaces its connection after a transient error and repeats the
command once.
-/

namespace Pop3

open Rust

/-- The outcome of an operation. -/
inductive Outcome (α : Type)
  /-- The existing connection was used; no session state was lost. -/
  | fresh (value : α)
  /-- A reconnect occurred; all pending `DELE` marks are gone. -/
  | reconnected (value : α)
  deriving DecidableEq

/-- The transient errors that warrant a reconnect attempt. -/
def isRetryable : Pop3Error → Bool
  | .io _ | .connectionClosed | .timeout | .sysTemp _ => true
  | _ => false

/-- Connect and authenticate with `USER` and `PASS`. -/
def connectAndAuth [Server σ] [Md5] (builder : Pop3ClientBuilder)
    (username password : Str) (dial : Dial σ) : Except Pop3Error (Pop3Client σ) := do
  let client ← builder.connect dial
  Pop3ClientBuilder.after client (Pop3Client.login username password)

/-- The settings of a reconnecting client, and its surroundings. -/
structure ReconnectingClientBuilder (σ : Type) where
  builder : Pop3ClientBuilder
  maxRetries : Nat := 3
  /-- What the reconnect callback has been told. -/
  onReconnect : List (Nat × Pop3Error) := []
  /-- What each attempt to dial finds. -/
  dials : Nat → Dial σ
  /-- How many connections have been dialed. -/
  dialed : Nat := 0

/-- A client wrapper that reconnects on transient errors. -/
structure ReconnectingClient (σ : Type) extends ReconnectingClientBuilder σ where
  username : Str
  password : Str
  /-- The active inner client. -/
  client : Pop3Client σ

/-- Actions on a reconnecting client. -/
abbrev ReconnectingM (σ : Type) := Action Pop3Error (ReconnectingClient σ)

/-- The settings of a reconnecting client. -/
def builderField : Field (ReconnectingClient σ) (ReconnectingClientBuilder σ) where
  get := ReconnectingClient.toReconnectingClientBuilder
  set builder reconnecting :=
    { reconnecting with toReconnectingClientBuilder := builder }
  get_set _ _ := rfl
  set_get _ := rfl
  set_set _ _ _ := rfl

/-- The active inner client. -/
def clientField : Field (ReconnectingClient σ) (Pop3Client σ) where
  get := ReconnectingClient.client
  set client reconnecting := { reconnecting with client }
  get_set _ _ := rfl
  set_get _ := rfl
  set_set _ _ _ := rfl

namespace ReconnectingClientBuilder

/-- `backon`: repeat the attempt to connect while its error is retryable and
`retries` are left.  The callback is told of each repetition. -/
def retry [Server σ] [Md5] (username password : Str) :
    Nat → Nat → Action Pop3Error (ReconnectingClientBuilder σ) (Pop3Client σ)
  | retries, attempts => fun settings =>
      let dial := settings.dials settings.dialed
      let settings := { settings with dialed := settings.dialed + 1 }
      match connectAndAuth settings.builder username password dial with
      | .ok client => .ok client settings
      | .error error =>
          match retries with
          | 0 => .error error settings
          | retries + 1 =>
              if isRetryable error then
                retry username password retries (attempts + 1) { settings with
                  onReconnect := settings.onReconnect ++ [(attempts + 1, error)] }
              else .error error settings

/-- Connect with automatic retry on transient errors. -/
def connect [Server σ] [Md5] (settings : ReconnectingClientBuilder σ)
    (username password : Str) : Except Pop3Error (ReconnectingClient σ) :=
  match retry username password settings.maxRetries 0 settings with
  | .ok client settings => .ok { settings with username, password, client }
  | .error error _ => .error error

end ReconnectingClientBuilder

namespace ReconnectingClient

/-- Rebuild the inner client by connecting and authenticating from scratch. -/
def doReconnect [Server σ] [Md5] : ReconnectingM σ Unit := do
  let maxRetries ← gets fun reconnecting => reconnecting.maxRetries
  let username ← gets ReconnectingClient.username
  let password ← gets ReconnectingClient.password
  let newClient ← builderField.run
    (ReconnectingClientBuilder.retry username password maxRetries 0)
  modify fun reconnecting => { reconnecting with client := newClient }

/-- Reconnect and repeat the command. -/
def again [Server σ] [Md5] (operation : ClientM σ α) : ReconnectingM σ (Outcome α) := do
  doReconnect
  let value ← clientField.run operation
  return .reconnected value

/-- A command that is repeated on a new connection after a transient error. -/
def withReconnect [Server σ] [Md5] (operation : ClientM σ α) :
    ReconnectingM σ (Outcome α) := do
  match ← attempt (clientField.run operation) with
  | .ok value => return .fresh value
  | .error error => if isRetryable error then again operation else throw error

/-- Some item of a batch has a transient error. -/
def anyRetryable (items : Pop3Client.Items α) : Bool :=
  items.any fun item =>
    match item with
    | .ok _ => false
    | .error error => isRetryable error

/-- A batch that is repeated as a whole when any item has a transient error. -/
def withReconnectMany [Server σ] [Md5] (operation : ClientM σ (Pop3Client.Items α)) :
    ReconnectingM σ (Outcome (Pop3Client.Items α)) := do
  match ← attempt (clientField.run operation) with
  | .ok items =>
      if anyRetryable items then again operation else return .fresh items
  | .error error => if isRetryable error then again operation else throw error

section Commands

variable [Server σ] [Md5]

def stat : ReconnectingM σ (Outcome Stat) := withReconnect Pop3Client.stat

def list (messageId : Option UInt32) : ReconnectingM σ (Outcome (List ListEntry)) :=
  withReconnect (Pop3Client.list messageId)

def uidl (messageId : Option UInt32) : ReconnectingM σ (Outcome (List UidlEntry)) :=
  withReconnect (Pop3Client.uidl messageId)

def retr (messageId : UInt32) : ReconnectingM σ (Outcome Message) :=
  withReconnect (Pop3Client.retr messageId)

def dele (messageId : UInt32) : ReconnectingM σ (Outcome Unit) :=
  withReconnect (Pop3Client.dele messageId)

def rset : ReconnectingM σ (Outcome Unit) := withReconnect Pop3Client.rset

def noop : ReconnectingM σ (Outcome Unit) := withReconnect Pop3Client.noop

def top (messageId lines : UInt32) : ReconnectingM σ (Outcome Message) :=
  withReconnect (Pop3Client.top messageId lines)

def capa : ReconnectingM σ (Outcome (List Capability)) :=
  withReconnect Pop3Client.capa

def retrMany (ids : List UInt32) :
    ReconnectingM σ (Outcome (Pop3Client.Items Message)) :=
  withReconnectMany (Pop3Client.retrMany ids)

def deleMany (ids : List UInt32) :
    ReconnectingM σ (Outcome (Pop3Client.Items Unit)) :=
  withReconnectMany (Pop3Client.deleMany ids)

def unseenUids (seen : Pop3Client.UidSet) : ReconnectingM σ (Outcome (List UidlEntry)) :=
  withReconnect (Pop3Client.unseenUids seen)

def fetchUnseen (seen : Pop3Client.UidSet) :
    ReconnectingM σ (Outcome (List (UidlEntry × Message))) :=
  withReconnect (Pop3Client.fetchUnseen seen)

def pruneSeen (seen : Pop3Client.UidSet) :
    ReconnectingM σ (Outcome (List Str × Pop3Client.UidSet)) :=
  withReconnect (Pop3Client.pruneSeen seen)

/-- End the session.  Every error is propagated, and nothing is repeated. -/
def quit : ReconnectingM σ Unit := clientField.run Pop3Client.quit

end Commands

end ReconnectingClient

end Pop3
