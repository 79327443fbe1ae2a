import Pop3.Client

/-!
# The connection builder
-/

namespace Pop3

open Rust

inductive TlsMode
  | plain
  | tls
  | startTls
  deriving DecidableEq

inductive AuthMode
  | none
  | login (username password : Str)
  | apop (username password : Str)
  deriving DecidableEq

/-- The outcome of dialing a host at a port. -/
structure Dial (σ : Type) where
  connects : Str → UInt16 → Except IoError (Net σ)
  /-- What is settled before a connection over TLS is dialed: whether the name of the host is
  one that a certificate can have, and whether the own certificates can be used. -/
  prepares : Str → Handshake := fun _ => .completes

instance : CoeFun (Dial σ) fun _ => Str → UInt16 → Except IoError (Net σ) := ⟨Dial.connects⟩

/-- The settings of a connection. -/
structure Pop3ClientBuilder where
  hostname : Str
  port : Option UInt16 := .none
  tlsMode : TlsMode := .plain
  auth : AuthMode := .none
  deriving DecidableEq

namespace Pop3ClientBuilder

/-- TLS from the start; the last choice wins. -/
def tls (builder : Pop3ClientBuilder) : Pop3ClientBuilder :=
  { builder with tlsMode := .tls }

/-- TLS through STLS; the last choice wins. -/
def starttls (builder : Pop3ClientBuilder) : Pop3ClientBuilder :=
  { builder with tlsMode := .startTls }

/-- Authenticate with `USER` and `PASS`; the last choice wins. -/
def credentials (builder : Pop3ClientBuilder) (username password : Str) :
    Pop3ClientBuilder :=
  { builder with auth := .login username password }

/-- Authenticate with `APOP`; the last choice wins. -/
def apop (builder : Pop3ClientBuilder) (username password : Str) : Pop3ClientBuilder :=
  { builder with auth := .apop username password }

def effectivePort (builder : Pop3ClientBuilder) : UInt16 :=
  match builder.port with
  | some port => port
  | .none =>
      match builder.tlsMode with
      | .tls => 995
      | _ => 110

/-- The client that an action on it leaves behind, if the action succeeds. -/
def after (client : Pop3Client σ) (action : ClientM σ Unit) :
    Except Pop3Error (Pop3Client σ) :=
  match action client with
  | .ok () client => .ok client
  | .error error _ => .error error

/-- Connect, and authenticate if credentials were provided. -/
def connect [Server σ] [Md5] (builder : Pop3ClientBuilder) (dial : Dial σ) :
    Except Pop3Error (Pop3Client σ) := do
  let dialed := dial builder.hostname builder.effectivePort
  let client ←
    match builder.tlsMode with
    | .plain => Pop3Client.connect dialed
    | .tls =>
        Pop3Client.connectTls builder.hostname (dial.prepares builder.hostname) dialed
    | .startTls => do
        let client ← Pop3Client.connect dialed
        after client (Pop3Client.stls builder.hostname)
  match builder.auth with
  | .none => return client
  | .login username password => after client (Pop3Client.login username password)
  | .apop username password => after client (Pop3Client.apop username password)

end Pop3ClientBuilder

end Pop3
