import Pop3.Rust.Str

/-!
# Session states and parsed replies
-/

namespace Pop3

open Rust (Str)

/-- The current state of the POP3 session. -/
inductive SessionState
  /-- Connected to the server but not yet authenticated. -/
  | connected
  /-- Mailbox commands are available. -/
  | authenticated
  /-- The session has ended. -/
  | disconnected
  deriving DecidableEq

/-- Mailbox statistics returned by `STAT`. -/
structure Stat where
  messageCount : UInt32
  mailboxSize : UInt64
  deriving DecidableEq

/-- One entry of `LIST`. -/
structure ListEntry where
  messageId : UInt32
  size : UInt64
  deriving DecidableEq

/-- One entry of `UIDL`. -/
structure UidlEntry where
  messageId : UInt32
  uniqueId : Str
  deriving DecidableEq

/-- A retrieved message, dot-unstuffed. -/
structure Message where
  data : Str
  deriving DecidableEq

/-- A server capability from `CAPA`. -/
structure Capability where
  name : Str
  arguments : List Str
  deriving DecidableEq

end Pop3
