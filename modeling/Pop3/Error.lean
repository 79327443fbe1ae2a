import Pop3.Rust.Str

/-!
# Errors

The error type of the client library.  `std::io::Error` is its kind and the
message that the library has given it; the operating system's own kinds keep
their code.
-/

namespace Pop3

open Rust (Str)

/-- The kinds of `std::io::Error` that the library builds itself, and those
that the operating system reports. -/
inductive IoErrorKind
  | brokenPipe
  | invalidData
  | os (code : Nat)
  deriving DecidableEq

/-- A `std::io::Error`. -/
structure IoError where
  kind : IoErrorKind
  /-- The text, if it is the library's own: what the runtime and the operating system say is
  left out. -/
  message : Option Str
  deriving DecidableEq

/-- All errors that can occur when interacting with a POP3 server. -/
inductive Pop3Error
  /-- An underlying I/O error occurred. -/
  | io (error : IoError)
  /-- A TLS error occurred during the handshake. -/
  | tls (message : Str)
  /-- The hostname is not a valid DNS name. -/
  | invalidDnsName (message : Str)
  /-- RESP-CODE `[IN-USE]`. -/
  | mailboxInUse (message : Str)
  /-- RESP-CODE `[LOGIN-DELAY]`. -/
  | loginDelay (message : Str)
  /-- RESP-CODE `[SYS/TEMP]`. -/
  | sysTemp (message : Str)
  /-- RESP-CODE `[SYS/PERM]`. -/
  | sysPerm (message : Str)
  /-- The server returned `-ERR`. -/
  | serverError (message : Str)
  /-- The server rejected the credentials. -/
  | authFailed (message : Str)
  /-- A response could not be parsed. -/
  | parse (message : Str)
  /-- The command needs an authenticated session. -/
  | notAuthenticated
  /-- A user-supplied argument is not allowed on the wire. -/
  | invalidInput
  /-- The server did not respond in time. -/
  | timeout
  /-- The server closed the connection. -/
  | connectionClosed
  deriving DecidableEq

/-- A call, or an item of a batch, has failed. -/
def IsError (result : Except Pop3Error α) : Prop := ∃ error, result = .error error

end Pop3
