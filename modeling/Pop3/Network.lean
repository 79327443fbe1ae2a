import Pop3.Error

/-!
# The network and the server

Everything outside the client: the bytes in flight, what the operating system
does at each poll, the TLS handshake, and the server.  A server is a state
machine that answers each command line it receives; how long the answer takes
to arrive, in which pieces, and whether the connection survives, is decided by
the two schedules of ticks.
-/

namespace Pop3

open Rust (Str)

/-! ## The server -/

/-- What a server does on a command line: the bytes it sends, and whether it
then closes its end of the connection. -/
structure Reaction where
  bytes : List UInt8
  close : Bool := false

/-- A server, as the type of its states. -/
class Server (σ : Type) where
  /-- React to one command line, given without its line ending. -/
  respond : σ → List UInt8 → σ × Reaction

/-- A server that sends prepared replies, whatever it is asked, and then nothing. -/
structure Script where
  replies : List Reaction

instance : Server Script where
  respond script _ :=
    match script.replies with
    | [] => (script, { bytes := [] })
    | reply :: replies => ({ replies }, reply)

/-! ## Schedules -/

/-- How the client learns that the connection is lost. -/
inductive Loss
  | endOfFile
  | error (error : IoError)
  /-- Nothing arrives any more, until the read deadline fires. -/
  | silence
  deriving DecidableEq

/-- What happens when the client polls the read half. -/
inductive ReadTick
  /-- At most `count + 1` of the bytes in flight arrive. -/
  | arrive (count : Nat)
  /-- The read deadline fires first, or the task that reads is cancelled. -/
  | deadline
  /-- The connection is lost with everything in flight. -/
  | drop (loss : Loss)
  deriving DecidableEq

/-- What happens when the client polls the write half. -/
inductive WriteTick
  /-- The stream takes all bytes. -/
  | accept
  /-- The stream takes `count` bytes, then the connection is lost. -/
  | drop (count : Nat) (error : IoError)
  deriving DecidableEq

/-- The outcome of a TLS handshake. -/
inductive Handshake
  | completes
  | invalidDnsName (message : Str)
  | fails (message : Str)
  deriving DecidableEq

/-! ## Streams -/

/-- The variants of `InnerStream`.  `upgrading` is the placeholder that never
performs real I/O. -/
inductive InnerStream
  | plain
  | tls
  | upgrading
  deriving DecidableEq

/-- What an observer of one connection sees, in order. -/
inductive Event
  /-- The client's bytes reached the stream. -/
  | wrote (stream : InnerStream) (bytes : List UInt8)
  /-- The server reacted to a command line. -/
  | answered (command reply : List UInt8)
  /-- The client took a line out of its read buffer. -/
  | consumed (bytes : List UInt8)
  /-- A read deadline fired and the partial line was lost. -/
  | timedOut (lost : List UInt8)
  deriving DecidableEq

/-- The far side of one connection. -/
structure Net (σ : Type) where
  server : σ
  /-- The command line the server has received so far. -/
  inbound : List UInt8 := []
  /-- Bytes the server has sent that no poll has returned yet. -/
  wire : List UInt8 := []
  /-- Neither end has closed the connection and it is not lost. -/
  isOpen : Bool := true
  reads : List ReadTick := []
  writes : List WriteTick := []
  handshake : Str → Handshake := fun _ => .completes
  trace : List Event := []

namespace Net

/-- Append to the observation of the connection. -/
def log (event : Event) (net : Net σ) : Net σ :=
  { net with trace := net.trace ++ [event] }

/-- The connection is gone, and whatever was in flight with it. -/
def lose (net : Net σ) : Net σ :=
  { net with isOpen := false, wire := [], inbound := [] }

/-- A command line without the CR before its LF. -/
def commandOf (line : List UInt8) : List UInt8 :=
  match line.getLast? with
  | some 13 => line.dropLast
  | _ => line

/-- The server receives one byte.  At LF it reacts to the line it has. -/
def receiveByte [Server σ] (net : Net σ) (byte : UInt8) : Net σ :=
  if !net.isOpen then net
  else if byte = 10 then
    let command := commandOf net.inbound
    let (server, reaction) := Server.respond net.server command
    { net with
      server
      inbound := []
      wire := net.wire ++ reaction.bytes
      isOpen := !reaction.close
      trace := net.trace ++ [.answered command reaction.bytes] }
  else { net with inbound := net.inbound ++ [byte] }

/-- The server receives bytes in order. -/
def receive [Server σ] (net : Net σ) (bytes : List UInt8) : Net σ :=
  bytes.foldl receiveByte net

theorem receive_append [Server σ]
    (net : Net σ) (left right : List UInt8) :
    net.receive (left ++ right) = (net.receive left).receive right :=
  List.foldl_append

@[simp] theorem receive_nil [Server σ] (net : Net σ) : net.receive [] = net := rfl

section Receiving

variable [Server σ] {net : Net σ}

theorem receiveByte_of_closed (closed : net.isOpen = false) (byte : UInt8) :
    net.receiveByte byte = net := by
  rw [receiveByte, closed]
  rfl

theorem receiveByte_of_ne_feed (isOpen : net.isOpen = true) {byte : UInt8} (noFeed : byte ≠ 10) :
    net.receiveByte byte = { net with inbound := net.inbound ++ [byte] } := by
  rw [receiveByte, isOpen, if_neg noFeed]
  rfl

/-- At LF a connected server reacts. -/
theorem receiveByte_feed (isOpen : net.isOpen = true) :
    net.receiveByte 10 =
      { net with
        server := (Server.respond net.server (commandOf net.inbound)).1
        inbound := []
        wire := net.wire ++ (Server.respond net.server (commandOf net.inbound)).2.bytes
        isOpen := !(Server.respond net.server (commandOf net.inbound)).2.close
        trace := net.trace ++ [.answered (commandOf net.inbound)
          (Server.respond net.server (commandOf net.inbound)).2.bytes] } := by
  rw [receiveByte, isOpen]
  rfl

/-- What a byte that is kept and a reaction preserve is preserved by whatever the server
receives. -/
theorem receive_induction
    {motive : Net σ → Prop}
    (keep : ∀ net byte, motive net → net.isOpen = true → byte ≠ 10 →
      motive { net with inbound := net.inbound ++ [byte] })
    (react : ∀ net, motive net → net.isOpen = true → motive (net.receiveByte 10))
    (holds : motive net)
    (bytes : List UInt8) :
    motive (net.receive bytes) := by
  induction bytes generalizing net with
  | nil => exact holds
  | cons byte bytes inductionHypothesis =>
      refine @inductionHypothesis (net.receiveByte byte) ?_
      cases isOpen : net.isOpen with
      | false => exact (receiveByte_of_closed isOpen byte).symm ▸ holds
      | true =>
          by_cases feed : byte = 10
          · exact feed ▸ react net holds isOpen
          · rw [receiveByte_of_ne_feed isOpen feed]
            exact keep net byte holds isOpen feed

end Receiving

end Net

end Pop3
