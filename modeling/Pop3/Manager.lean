import Pop3.Reconnect

/-!
# The connection manager of the pool

How the pool opens a connection for an account, and how it judges one that has
been used.
-/

namespace Pop3

open Rust

/-- The settings with which the pool connects to an account. -/
structure Pop3ConnectionManager where
  builder : Pop3ClientBuilder
  username : Str
  password : Str

namespace Pop3ConnectionManager

/-- Connect, and log in unless the builder has done so. -/
def connect [Server σ] [Md5] (manager : Pop3ConnectionManager) (dial : Dial σ) :
    Except Pop3Error (Pop3Client σ) :=
  if '\r' ∈ manager.username ∨ '\n' ∈ manager.username ∨
      '\r' ∈ manager.password ∨ '\n' ∈ manager.password then .error .invalidInput
  else do
    let client ← manager.builder.connect dial
    if client.state ≠ .authenticated then
      Pop3ClientBuilder.after client (Pop3Client.login manager.username manager.password)
    else return client

/-- The test of an idle connection before it is handed out. -/
def isValid [Server σ] : ClientM σ Unit := Pop3Client.noop

/-- The test of a connection that comes back. -/
def hasBroken (client : Pop3Client σ) : Bool := client.transport.isClosed

end Pop3ConnectionManager

end Pop3
