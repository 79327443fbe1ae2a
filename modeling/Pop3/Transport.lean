import Pop3.Network
import Pop3.Rust.Action
import Pop3.Rust.Utf8

/-!
# Transport

The buffered line transport: `BufReader` and `BufWriter` over a stream that is
plain TCP, TLS, or the placeholder of a STARTTLS upgrade.
-/

namespace Pop3

open Rust

/-- The transport of one connection. -/
structure Transport (σ : Type) where
  /-- `reader.buffer()`: bytes received but not yet consumed. -/
  buffer : List UInt8 := []
  /-- Bytes in the `BufWriter` that have not been flushed. -/
  unflushed : List UInt8 := []
  stream : InnerStream
  encrypted : Bool
  isClosed : Bool := false
  net : Net σ

/-- Actions on a transport. -/
abbrev TransportM (σ : Type) := Action Pop3Error (Transport σ)

/-- Writes on a transport, which fail with plain I/O errors. -/
abbrev WriterM (σ : Type) := Action IoError (Transport σ)

/-- The error of every poll on the placeholder stream. -/
def upgradingError : IoError :=
  { kind := .brokenPipe, message := some "stream is upgrading to TLS".toList }

/-- The error of `read_line` when a line is not valid UTF-8. -/
def invalidUtf8 : IoError :=
  { kind := .invalidData, message := none }

/-- The capacity of a `BufWriter`. -/
def bufferCapacity : Nat := 8192

namespace Transport

/-- Every byte that is on its way to the reader or already buffered. -/
def pending (transport : Transport σ) : List UInt8 :=
  transport.buffer ++ transport.net.wire

/-- Append to the observation of the connection. -/
def log (event : Event) (transport : Transport σ) : Transport σ :=
  { transport with net := transport.net.log event }

/-! ## Writing -/

/-- `poll_write` on the stream: how many bytes it took, and its error. -/
def pollWrite [Server σ] (bytes : List UInt8) (transport : Transport σ) :
    Nat × Option IoError × Transport σ :=
  match transport.stream with
  | .upgrading => (0, some upgradingError, transport)
  | stream =>
      let net := { transport.net with writes := transport.net.writes.tail }
      match transport.net.writes.head? with
      | some (.drop count error) =>
          let sent := bytes.take count
          (sent.length, some error, { transport with
            net := ((net.log (.wrote stream sent)).receive sent).lose })
      | _ =>
          (bytes.length, none, { transport with
            net := (net.log (.wrote stream bytes)).receive bytes })

/-- The stream has taken the bytes, and the server has received them. -/
def emit [Server σ] (bytes : List UInt8) (transport : Transport σ) : Transport σ :=
  { transport with
    net := ({ transport.net with writes := transport.net.writes.tail }.log
      (.wrote transport.stream bytes)).receive bytes }

/-- `BufWriter::flush_buf`: bytes the stream did not take stay buffered. -/
def flushBuf [Server σ] : WriterM σ Unit := fun transport =>
  if transport.unflushed = [] then .ok () transport
  else
    let (sent, error, after) := pollWrite transport.unflushed transport
    let after := { after with unflushed := transport.unflushed.drop sent }
    match error with
    | none => .ok () after
    | some error => .error error after

/-- Write past the buffer, for writes at least as large as it. -/
def writeThrough [Server σ] (bytes : List UInt8) : WriterM σ Unit := fun transport =>
  let (_, error, after) := pollWrite bytes transport
  match error with
  | none => .ok () after
  | some error => .error error after

/-- Empty the buffer when the next bytes would not fit behind what is in it. -/
def makeRoom [Server σ] (count : Nat) : WriterM σ Unit := do
  let buffered ← gets fun transport => transport.unflushed.length
  if bufferCapacity < buffered + count then flushBuf

/-- Bytes that could never fit the buffer go past it. -/
def store [Server σ] (bytes : List UInt8) : WriterM σ Unit :=
  if bufferCapacity ≤ bytes.length then writeThrough bytes
  else modify fun transport =>
    { transport with unflushed := transport.unflushed ++ bytes }

/-- `writer.write_all`. -/
def writeAll [Server σ] (bytes : List UInt8) : WriterM σ Unit := do
  if bytes = [] then return
  else
    makeRoom bytes.length
    store bytes

/-- `writer.flush`: the buffer first, then the stream. -/
def flush [Server σ] : WriterM σ Unit := do
  flushBuf
  let stream ← gets Transport.stream
  if stream = .upgrading then throw upgradingError

/-- Send a command to the server (appends CRLF). -/
def sendCommand [Server σ] (command : Str) : TransportM σ Unit :=
  mapError .io do
    writeAll (utf8 command)
    writeAll (utf8 "\r\n".toList)
    flush

/-! ## Reading -/

/-- The result of waiting for one line. -/
inductive LineRead
  /-- All bytes through LF, or through end of file. -/
  | line (bytes : List UInt8)
  /-- The deadline fired; the bytes of the partial line are lost. -/
  | timedOut (lost : List UInt8)
  | failed (error : IoError)

/-- Split after the first LF. -/
def splitFeed : List UInt8 → Option (List UInt8 × List UInt8)
  | [] => none
  | byte :: bytes =>
      if byte = 10 then some ([byte], bytes)
      else (splitFeed bytes).map fun (line, rest) => (byte :: line, rest)

/-- The loop of `read_until(b'\n')` once the buffer is used up.  It polls the
stream, one tick at a time, until LF or end of file; `line` is what it has.
When the schedule has ended, everything in flight arrives at once.  A poll
with nothing in flight waits for the deadline unless the peer has closed. -/
def pollLine (line : List UInt8) (net : Net σ) :
    List ReadTick → LineRead × List UInt8 × Net σ
  | [] =>
      let after := { net with wire := [], reads := [] }
      match splitFeed net.wire with
      | some (head, rest) => (.line (line ++ head), rest, after)
      | none =>
          if net.isOpen then (.timedOut (line ++ net.wire), [], after)
          else (.line (line ++ net.wire), [], after)
  | .deadline :: ticks => (.timedOut line, [], { net with reads := ticks })
  | .drop loss :: ticks =>
      let after := { net with reads := ticks }.lose
      match loss with
      | .endOfFile => (.line line, [], after)
      | .error error => (.failed error, [], after)
      | .silence => (.timedOut line, [], after)
  | .arrive count :: ticks =>
      let after := { net with wire := net.wire.drop (count + 1), reads := ticks }
      if net.wire = [] then
        if net.isOpen then (.timedOut line, [], after) else (.line line, [], after)
      else
        let chunk := net.wire.take (count + 1)
        match splitFeed chunk with
        | some (head, rest) => (.line (line ++ head), rest, after)
        | none => pollLine (line ++ chunk) after ticks

/-- `reader.read_until(b'\n')` under the read deadline. -/
def readUntil (transport : Transport σ) : LineRead × Transport σ :=
  match splitFeed transport.buffer with
  | some (line, rest) => (.line line, { transport with buffer := rest })
  | none =>
      if transport.stream = .upgrading then
        (.failed upgradingError, { transport with buffer := [] })
      else
        let (read, buffer, net) :=
          pollLine transport.buffer transport.net transport.net.reads
        (read, { transport with buffer, net })

/-- Read a single line from the server. -/
def readLine : TransportM σ Str := fun transport =>
  match readUntil transport with
  | (.timedOut lost, after) => .error .timeout (after.log (.timedOut lost))
  | (.failed error, after) => .error (.io error) after
  | (.line bytes, after) =>
      let after := after.log (.consumed bytes)
      match fromUtf8 bytes with
      | none => .error (.io invalidUtf8) after
      | some line =>
          if bytes.length = 0 then
            .error .connectionClosed { after with isClosed := true }
          else .ok line after

/-- The line with its line ending removed, as `read_multiline` trims it. -/
def trimLine (line : Str) : Str :=
  trimEndMatches "\n".toList (trimEndMatches "\r\n".toList line)

/-- Dot-unstuffing: of two leading dots, one is removed. -/
def unstuff (trimmed : Str) : Str :=
  match stripPrefix "..".toList trimmed with
  | some rest => ".".toList ++ rest
  | none => trimmed

/-- The loop of `read_multiline`, for at most `rounds` lines. -/
def readMultilineUpTo : Nat → Str → TransportM σ Str
  | 0, _ => throw .connectionClosed
  | rounds + 1, body => do
      let line ← readLine
      let trimmed := trimLine line
      if trimmed = ".".toList then return body
      else readMultilineUpTo rounds (body ++ unstuff trimmed ++ "\n".toList)

/-- Read a multi-line response body until the dot terminator.  Every line takes
at least one of the pending bytes, so their number bounds the lines. -/
def readMultiline : TransportM σ Str := do
  let available ← gets fun transport => transport.pending.length
  readMultilineUpTo (available + 1) []

/-! ## Connecting and upgrading -/

/-- Connect over plain TCP; `dialed` is the outcome of `TcpStream::connect`. -/
def connectPlain (dialed : Except IoError (Net σ)) :
    Except Pop3Error (Transport σ) :=
  match dialed with
  | .error error => .error (.io error)
  | .ok net => .ok { stream := .plain, encrypted := false, net }

/-- Mark the transport as closed. -/
def setClosed (transport : Transport σ) : Transport σ :=
  { transport with isClosed := true }

/-- A stream that has gone through a handshake: nothing of the plain stream is
left to read, and the server goes on over TLS. -/
def afterHandshake (net : Net σ) : Net σ := { net with wire := [], inbound := [] }

/-- Connect over TLS.  The name of the host and the certificates are looked at before the
connection is dialed. -/
def connectTls (hostname : Str) (prepared : Handshake) (dialed : Except IoError (Net σ)) :
    Except Pop3Error (Transport σ) :=
  match prepared with
  | .invalidDnsName message => .error (.invalidDnsName message)
  | .fails message => .error (.tls message)
  | .completes =>
      match dialed with
      | .error error => .error (.io error)
      | .ok net =>
          match net.handshake hostname with
          | .invalidDnsName message => .error (.invalidDnsName message)
          | .fails message => .error (.tls message)
          | .completes => .ok { stream := .tls, encrypted := true, net }

theorem connectTls_eq_ok
    {hostname : Str}
    {prepared : Handshake}
    {dialed : Except IoError (Net σ)}
    {transport : Transport σ} :
    connectTls hostname prepared dialed = .ok transport ↔
      prepared = .completes ∧ ∃ net, dialed = .ok net ∧ net.handshake hostname = .completes ∧
        transport = { stream := .tls, encrypted := true, net } := by
  constructor
  · intro connected
    unfold connectTls at connected
    cases prepared with
    | invalidDnsName message | fails message => cases connected
    | completes =>
        cases dialed with
        | error error => cases connected
        | ok net =>
            dsimp only at connected
            cases shaken : net.handshake hostname with
            | invalidDnsName message | fails message =>
                rw [shaken] at connected
                cases connected
            | completes =>
                rw [shaken] at connected
                exact ⟨rfl, net, rfl, shaken, (Except.ok.inj connected).symm⟩
  · rintro ⟨rfl, net, rfl, shaken, rfl⟩
    rw [connectTls, shaken]

/-- Upgrade a plain TCP connection to TLS in place.  A failed handshake takes
the TCP stream with it. -/
def upgradeInPlace (hostname : Str) : TransportM σ Unit := fun transport =>
  let buffered := transport.buffer.length
  if 0 < buffered then
    .error (.io
      { kind := .invalidData
        message := some ("unexpected ".toList ++ decimal buffered ++
          " bytes in buffer before TLS upgrade".toList) }) transport
  else if transport.encrypted then
    .error (.tls "connection is already encrypted".toList) transport
  else
    let swapped := { transport with buffer := [], unflushed := [], stream := .upgrading }
    let gone := { swapped with net := transport.net.lose }
    match transport.stream with
    | .plain =>
        match transport.net.handshake hostname with
        | .invalidDnsName message => .error (.invalidDnsName message) gone
        | .fails message => .error (.tls message) gone
        | .completes => .ok ()
            { swapped with
              stream := .tls
              encrypted := true
              net := afterHandshake transport.net }
    | _ => .error
        (.tls "upgrade_in_place requires a plain TCP connection".toList) gone

/-- The placeholder is left where the stream was. -/
def abandon (transport : Transport σ) : Transport σ :=
  { transport with
    buffer := [], unflushed := [], stream := .upgrading, net := transport.net.lose }

/-- The stream goes on over TLS. -/
def encrypt (transport : Transport σ) : Transport σ :=
  { transport with
    buffer := [], unflushed := [], stream := .tls, encrypted := true
    net := afterHandshake transport.net }

/-- An upgrade is refused and changes nothing, or fails behind the swap, or the stream goes
on over TLS. -/
theorem upgradeInPlace_cases (hostname : Str) (transport : Transport σ) :
    (∃ error, upgradeInPlace hostname transport = .error error transport ∧
      (transport.buffer ≠ [] ∧ (∃ reason, error = .io reason) ∨
        transport.encrypted = true ∧ ∃ message, error = .tls message)) ∨
    (∃ error, upgradeInPlace hostname transport = .error error transport.abandon ∧
      transport.encrypted = false ∧
      ((∃ message, error = .tls message) ∨ ∃ message, error = .invalidDnsName message)) ∨
    upgradeInPlace hostname transport = .ok () transport.encrypt ∧
      transport.encrypted = false ∧ transport.stream = .plain := by
  unfold upgradeInPlace
  dsimp only
  split
  · rename_i full
    exact .inl ⟨_, rfl, .inl ⟨List.length_pos_iff.mp full, _, rfl⟩⟩
  · split
    · rename_i encrypted
      exact .inl ⟨_, rfl, .inr ⟨encrypted, _, rfl⟩⟩
    · rename_i encrypted
      have unencrypted := Bool.eq_false_iff.mpr encrypted
      split
      · rename_i plain
        split
        · exact .inr (.inl ⟨_, rfl, unencrypted, .inr ⟨_, rfl⟩⟩)
        · exact .inr (.inl ⟨_, rfl, unencrypted, .inl ⟨_, rfl⟩⟩)
        · exact .inr (.inr ⟨rfl, unencrypted, plain⟩)
      · exact .inr (.inl ⟨_, rfl, unencrypted, .inl ⟨_, rfl⟩⟩)

theorem finalState_upgradeInPlace
    {hostname : Str}
    {transport : Transport σ}
    (upgraded : returned (upgradeInPlace hostname transport) = .ok ()) :
    finalState (upgradeInPlace hostname transport) = transport.encrypt := by
  rcases upgradeInPlace_cases hostname transport with
    ⟨error, run, _⟩ | ⟨error, run, _⟩ | ⟨run, _⟩
  · rw [run] at upgraded
    cases upgraded
  · rw [run] at upgraded
    cases upgraded
  · rw [run]
    rfl

end Transport

end Pop3
