import Pop3.View

/-!
# The transport shows the view

Whatever the schedules do, a transport either does exactly what its view does,
or a read deadline fires, or the connection is lost.  Which of the two mishaps
can happen is the weather.
-/

namespace Pop3

open Rust

/-- The mishaps that schedules may contain. -/
structure Weather where
  /-- Read deadlines may fire early. -/
  late : Bool := false
  /-- The connection may be lost. -/
  lossy : Bool := false

/-- No mishaps, only replies that arrive in pieces. -/
def calm : Weather := {}

/-- Replies may be late, and nothing is lost. -/
def late : Weather := { late := true }

def ReadTick.Within (weather : Weather) : ReadTick → Prop
  | .arrive _ => True
  | .deadline => weather.late
  | .drop _ => weather.lossy

def WriteTick.Within (weather : Weather) : WriteTick → Prop
  | .accept => True
  | .drop _ _ => weather.lossy

namespace Net

/-! ## The network up to unobservable differences -/

/-- Forget the schedule of writes and how the client's bytes were grouped. -/
def quiet (net : Net σ) : Net σ :=
  { net with writes := [], trace := net.trace.filter Event.isNoted }

theorem quiet_receiveByte [Server σ] (net : Net σ) (byte : UInt8) :
    (net.receiveByte byte).quiet = net.quiet.receiveByte byte := by
  unfold receiveByte quiet
  by_cases isOpen : net.isOpen
  · by_cases feed : byte = 10
    · simp [isOpen, feed, Event.isNoted]
    · simp [isOpen, feed]
  · simp [isOpen]

theorem quiet_receive [Server σ] (net : Net σ) (bytes : List UInt8) :
    (net.receive bytes).quiet = net.quiet.receive bytes := by
  induction bytes generalizing net with
  | nil => rfl
  | cons byte bytes inductionHypothesis =>
      have step := inductionHypothesis (net.receiveByte byte)
      rw [quiet_receiveByte] at step
      exact step

theorem receive_of_closed [Server σ]
    {net : Net σ}
    (closed : net.isOpen = false)
    (bytes : List UInt8) :
    net.receive bytes = net := by
  induction bytes with
  | nil => rfl
  | cons byte bytes inductionHypothesis =>
      rw [receive, List.foldl_cons, receiveByte_of_closed closed]
      exact inductionHypothesis

/-- Bytes without LF only extend the command line received so far. -/
theorem receive_of_noFeed [Server σ]
    {net : Net σ}
    (isOpen : net.isOpen = true)
    {bytes : List UInt8}
    (noFeed : 10 ∉ bytes) :
    net.receive bytes = { net with inbound := net.inbound ++ bytes } := by
  induction bytes generalizing net with
  | nil => simp
  | cons byte bytes inductionHypothesis =>
      simp only [List.mem_cons, not_or] at noFeed
      rw [receive, List.foldl_cons, receiveByte_of_ne_feed isOpen (Ne.symm noFeed.1)]
      have isOpen' : ({ net with inbound := net.inbound ++ [byte] } : Net σ).isOpen = true :=
        isOpen
      have rest := inductionHypothesis isOpen' noFeed.2
      rw [receive] at rest
      rw [rest]
      simp

theorem commandOf_append_return (command : List UInt8) :
    commandOf (command ++ [13]) = command := by
  simp [commandOf]

/-- A whole command line makes the server react. -/
theorem receive_command [Server σ]
    {net : Net σ}
    (isOpen : net.isOpen = true)
    (inbound : net.inbound = [])
    {command : List UInt8}
    (noFeed : 10 ∉ command) :
    net.receive (command ++ [13, 10]) =
      { net with
        server := (Server.respond net.server command).1
        wire := net.wire ++ (Server.respond net.server command).2.bytes
        isOpen := !(Server.respond net.server command).2.close
        trace := net.trace ++
          [.answered command (Server.respond net.server command).2.bytes] } := by
  have noFeed' : 10 ∉ command ++ [13] := by simp [noFeed]
  have split : command ++ [13, 10] = (command ++ [13]) ++ [10] := by simp
  rw [split, receive_append, receive_of_noFeed isOpen noFeed']
  simp [receive, receiveByte, isOpen, inbound, commandOf_append_return]

end Net

/-! ## What a transport shows -/

/-- The transport shows this view, and its schedules stay within the weather. -/
structure Shows (weather : Weather) (transport : Transport σ) (view : View σ) :
    Prop where
  server : transport.net.server = view.server
  pending : transport.pending = view.pending
  isOpen : transport.net.isOpen = view.isOpen
  isClosed : transport.isClosed = view.isClosed
  log : transport.net.trace.filter Event.isNoted = view.log
  stream : transport.stream ≠ .upgrading
  unflushed : transport.unflushed = []
  inbound : transport.net.inbound = []
  reads : ∀ tick ∈ transport.net.reads, tick.Within weather
  writes : ∀ tick ∈ transport.net.writes, tick.Within weather

/-- The connection is lost and everything in flight with it. -/
structure Dead (transport : Transport σ) : Prop where
  isOpen : transport.net.isOpen = false
  pending : transport.pending = []

/-- A read deadline was the last thing that happened. -/
def Stopped (transport : Transport σ) : Prop :=
  ∃ before lost, transport.net.trace = before ++ [.timedOut lost]

/-- How a transport may leave its view in this weather. -/
def mishaps (weather : Weather) : Escapes Pop3Error (Transport σ) where
  stuck error transport := weather.late ∧ error = .timeout ∧ Stopped transport
  gone transport := weather.lossy ∧ Dead transport

theorem mishaps_calm : (mishaps calm : Escapes Pop3Error (Transport σ)) = Escapes.none := by
  unfold mishaps Escapes.none calm
  simp

end Pop3
