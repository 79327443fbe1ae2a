import Pop3.Batches
import Pop3.Injection.Hearing
import Pop3.Parsed
import Pop3.Stls

/-!
# No command injection

Whatever the arguments of a call are, and whatever the server answers, the call
writes whole lines, and each of them is one of the commands that it is meant to
send.
-/

namespace Pop3

open Rust Pop3Client

/-! ## Commands -/

/-- The command is one line. -/
def IsOneLine (command : Str) : Prop := '\r' ∉ command ∧ '\n' ∉ command

instance (command : Str) : Decidable (IsOneLine command) :=
  inferInstanceAs (Decidable (_ ∧ _))

theorem IsOneLine.append
    {first second : Str}
    (isFirst : IsOneLine first)
    (isSecond : IsOneLine second) :
    IsOneLine (first ++ second) := by
  simp [IsOneLine, isFirst.1, isFirst.2, isSecond.1, isSecond.2]

theorem isOneLine_decimal (number : Nat) : IsOneLine (decimal number) :=
  ⟨not_mem_decimal (by decide) number, not_mem_decimal (by decide) number⟩

theorem isOneLine_commandFor
    {verb : Str}
    (isVerb : IsOneLine verb)
    (messageId : UInt32) :
    IsOneLine (commandFor verb messageId) :=
  isVerb.append (isOneLine_decimal _)

theorem isOneLine_top (messageId lines : UInt32) :
    IsOneLine (commandFor "TOP ".toList messageId ++ " ".toList ++ decimal lines.toNat) :=
  ((isOneLine_commandFor (by decide) messageId).append (by decide)).append
    (isOneLine_decimal _)

/-- An argument that has passed the check. -/
theorem isOneLine_of_checkNoCrlf
    {text : Str}
    (checked : checkNoCrlf text = .ok ()) :
    IsOneLine text := by
  unfold checkNoCrlf at checked
  split at checked
  · cases checked
  · rename_i neither
    exact ⟨fun member => neither (.inl member), fun member => neither (.inr member)⟩

theorem isOneLine_computeApopDigest [Md5] (timestamp password : Str) :
    IsOneLine (computeApopDigest timestamp password) :=
  ⟨fun member => absurd (Md5.isHex _ _ member) (by decide),
    fun member => absurd (Md5.isHex _ _ member) (by decide)⟩

/-! ## Telling the server -/

/-- While it is connected, the server has nothing of a command, and neither has the
writer. -/
def Lined (transport : Transport σ) : Prop :=
  transport.net.isOpen = true → transport.unflushed = [] ∧ transport.net.inbound = [] ∧
    transport.stream ≠ .upgrading

/-- The stream takes whatever is written, and nothing waits to be written to it. -/
def Settled (transport : Transport σ) : Prop :=
  (∀ tick ∈ transport.net.writes, tick = .accept) ∧
    (transport.stream = .upgrading ∨ transport.unflushed = [])

/-- Between these states the server heard some of the commands, in order, and each
of them as one line. -/
def Heard (commands : List Str) (before after : Transport σ) : Prop :=
  ∃ heard, List.Sublist heard commands ∧ (∀ command ∈ heard, IsOneLine command) ∧
    heardCommands after.net.trace = heardCommands before.net.trace ++ heard.map utf8

/-- Between these states the lines of some of the commands were written, in order,
and nothing else. -/
def WroteLines (commands : List Str) (before after : Transport σ) : Prop :=
  ∃ sent, List.Sublist sent commands ∧ (∀ command ∈ sent, IsOneLine command) ∧
    writtenBytes after.net.trace = writtenBytes before.net.trace ++ commandLines sent

/-- Between these states nobody was told anything but these commands. -/
structure Told (commands : List Str) (before after : Transport σ) : Prop where
  heard : Lined before → Lined after ∧ Heard commands before after
  wrote : Settled before → Settled after ∧ WroteLines commands before after

section Telling

variable {commands more : List Str} {before middle after : Transport σ}

theorem Told.trans
    (told : Told commands before middle)
    (then_told : Told more middle after) :
    Told (commands ++ more) before after where
  heard lined := by
    obtain ⟨lined', heard, some, areLines, same⟩ := told.heard lined
    obtain ⟨lined'', heard', some', areLines', same'⟩ := then_told.heard lined'
    refine ⟨lined'', heard ++ heard', some.append some',
      List.forall_mem_append.mpr ⟨areLines, areLines'⟩, ?_⟩
    rw [same', same, List.map_append, List.append_assoc]
  wrote settled := by
    obtain ⟨settled', sent, some, areLines, same⟩ := told.wrote settled
    obtain ⟨settled'', sent', some', areLines', same'⟩ := then_told.wrote settled'
    refine ⟨settled'', sent ++ sent', some.append some',
      List.forall_mem_append.mpr ⟨areLines, areLines'⟩, ?_⟩
    rw [same', same, commandLines_append, List.append_assoc]

theorem Told.weaken
    (told : Told commands before after)
    (fewer : commands.Sublist more) :
    Told more before after where
  heard lined := by
    obtain ⟨lined', heard, some, told⟩ := told.heard lined
    exact ⟨lined', heard, some.trans fewer, told⟩
  wrote settled := by
    obtain ⟨settled', sent, some, wrote⟩ := told.wrote settled
    exact ⟨settled', sent, some.trans fewer, wrote⟩

/-- Nothing was written between these states, and the connection is at most lost. -/
structure Untouched (before after : Transport σ) : Prop where
  written : writtenBytes after.net.trace = writtenBytes before.net.trace
  heard : heardCommands after.net.trace = heardCommands before.net.trace
  writes : after.net.writes = before.net.writes
  settled : before.stream = .upgrading ∨ before.unflushed = [] →
    after.stream = .upgrading ∨ after.unflushed = []
  lined : Lined before → Lined after

theorem Untouched.told (untouched : Untouched before after) : Told [] before after where
  heard lined := by
    refine ⟨untouched.lined lined, [], List.Sublist.refl _, List.forall_mem_nil _, ?_⟩
    rw [untouched.heard]
    exact (List.append_nil _).symm
  wrote settled := by
    refine ⟨⟨untouched.writes ▸ settled.1, untouched.settled settled.2⟩, [],
      List.Sublist.refl _, List.forall_mem_nil _, ?_⟩
    rw [untouched.written]
    exact (List.append_nil _).symm

theorem untouched_refl (transport : Transport σ) : Untouched transport transport :=
  ⟨rfl, rfl, rfl, id, id⟩

theorem told_refl (transport : Transport σ) : Told [] transport transport :=
  (untouched_refl transport).told

end Telling

/-! ## Sending -/

section Sending

variable [Server σ]

/-- Nothing reaches a stream that is upgrading. -/
theorem survivesWrites_upgrading (written : List UInt8) :
    SurvivesWrites fun transport : Transport σ =>
      transport.stream = .upgrading ∧
        (∀ tick ∈ transport.net.writes, tick = .accept) ∧
        writtenBytes transport.net.trace = written where
  unflushed _ _ holds := holds
  pollWrite transport bytes holds := by
    unfold Transport.pollWrite
    rw [holds.1]
    exact holds

/-- Whatever becomes of a send of whole lines, the server has nothing of a line. -/
theorem lined_of_writes
    {commands : List Str}
    {action : WriterM σ Unit}
    {before : Transport σ}
    (unflushed : before.unflushed = [])
    (inbound : before.net.inbound = [])
    (stream : before.stream ≠ .upgrading)
    (writes : ∀ weather, Transport.Writes weather (commandLines commands) action before
      fun after => after.unflushed = []) :
    Lined (finalState (action before)) := by
  have within : ∀ tick ∈ before.net.writes, tick.Within { lossy := true } :=
    fun tick _ => by cases tick <;> simp [WriteTick.Within]
  rcases writes { lossy := true } stream within with
    ⟨after, run, wrote, flushed⟩ | ⟨_, error, after, run, broke⟩
  · rw [run]
    have outlook := wrote.outlook
    simp only [Transport.outlook, flushed, unflushed, Net.receive_nil] at outlook
    have emptied : after.net.quiet.inbound = [] := by
      rw [outlook]
      exact before.net.quiet.inbound_receive_commandLines inbound _
    exact fun _ => ⟨flushed, emptied, wrote.stream ▸ stream⟩
  · rw [run]
    intro isOpen'
    exact absurd (broke.isOpen.symm.trans isOpen') (by decide)

/-- What the server hears of a send are the first of its commands. -/
theorem heard_of_writes
    {commands : List Str}
    (areLines : ∀ command ∈ commands, IsOneLine command)
    {action : WriterM σ Unit}
    {before : Transport σ}
    (unflushed : before.unflushed = [])
    (inbound : before.net.inbound = [])
    (hands : Transport.Hands (commandLines commands) action before)
    (survives : ∀ invariant : Transport σ → Prop, SurvivesWrites invariant →
      Preserves invariant action) :
    Heard commands before (finalState (action before)) := by
  obtain ⟨known, rest, written, heard, _⟩ := survives _
    (survivesWrites_overhears (writtenBytes before.net.trace)
      (heardCommands before.net.trace)) before (overhears_self inbound)
  obtain ⟨part, begins, handed, _⟩ := hands
  have handedBefore : before.handed = writtenBytes before.net.trace := by
    rw [Transport.handed, unflushed, List.append_nil]
  have known_part : known <+: part := by
    rw [handedBefore, Transport.handed, written, List.append_assoc, List.append_assoc,
      List.append_cancel_left_eq] at handed
    exact ⟨_, handed⟩
  obtain ⟨complete, begins', same⟩ := linesBehind_begins
    (fun command member => (areLines command member).2) (known_part.trans begins)
  exact ⟨complete, begins'.sublist,
    fun command member => areLines command (begins'.subset member), by rw [heard, same]⟩

/-- A send tells the server its commands, and no others. -/
theorem told_of_writes
    {commands : List Str}
    (areLines : ∀ command ∈ commands, IsOneLine command)
    {action : WriterM σ Unit}
    {before : Transport σ}
    (writes : ∀ weather, Transport.Writes weather (commandLines commands) action before
      fun after => after.unflushed = [])
    (hands : Transport.Hands (commandLines commands) action before)
    (survives : ∀ invariant : Transport σ → Prop, SurvivesWrites invariant →
      Preserves invariant action) :
    Told commands before (finalState (action before)) where
  heard lined := by
    cases isOpen : before.net.isOpen with
    | false =>
        obtain ⟨closed, same⟩ := survives _
          (survivesWrites_deaf (heardCommands before.net.trace)) before ⟨isOpen, rfl⟩
        refine ⟨fun isOpen' => ?_, [], List.nil_sublist _, List.forall_mem_nil _,
          same.trans (List.append_nil _).symm⟩
        rw [closed] at isOpen'
        cases isOpen'
    | true =>
        obtain ⟨unflushed, inbound, stream⟩ := lined isOpen
        exact ⟨lined_of_writes unflushed inbound stream writes,
          heard_of_writes areLines unflushed inbound hands survives⟩
  wrote settled := by
    obtain ⟨accepts, waiting⟩ := settled
    by_cases upgrading : before.stream = .upgrading
    · obtain ⟨stream, accepts', written⟩ := survives _
        (survivesWrites_upgrading (writtenBytes before.net.trace)) before
        ⟨upgrading, accepts, rfl⟩
      exact ⟨⟨accepts', .inl stream⟩, [], List.nil_sublist _, List.forall_mem_nil _,
        written.trans (List.append_nil _).symm⟩
    · have unflushed : before.unflushed = [] := waiting.resolve_left upgrading
      have within : ∀ tick ∈ before.net.writes, tick.Within calm := by
        intro tick member
        rw [accepts tick member]
        trivial
      rcases writes calm upgrading within with ⟨after, run, wrote, flushed⟩ | ⟨lossy, _⟩
      · obtain ⟨part, _, handed, whole⟩ := hands
        rw [run] at handed whole ⊢
        rw [Transport.handed, Transport.handed, finalState_ok, flushed, unflushed,
          List.append_nil, List.append_nil, whole () rfl] at handed
        refine ⟨⟨fun tick member => ?_, .inr flushed⟩, commands, List.Sublist.refl _,
          areLines, handed⟩
        have inside := wrote.writes tick member
        cases tick with
        | accept => rfl
        | drop count error => cases inside
      · cases lossy

theorem told_sendCommand
    {command : Str}
    (isOneLine : IsOneLine command)
    (before : Transport σ) :
    Told [command] before (finalState (Transport.sendCommand command before)) := by
  have line : utf8 command ++ [13, 10] = commandLines [command] := (List.append_nil _).symm
  rw [Transport.sendCommand, finalState_mapError]
  refine told_of_writes (by simpa using isOneLine) (fun weather => ?_)
    (Transport.hands_commandLine command before) fun _ survives => ?_
  · rw [← line]
    exact writes_command command before
  · exact .bind (survives.writeAll _) fun _ => .bind (survives.writeAll _) fun _ => survives.flush

theorem told_sendWindow
    {verb : Str}
    (isOneLine : IsOneLine verb)
    (window : List UInt32)
    (before : Transport σ) :
    Told (window.map (commandFor verb)) before
      (finalState (sendWindow verb window before)) := by
  refine told_of_writes ?_ (fun weather => writes_window verb window before)
    (Transport.hands_sendWindow verb window before) fun _ survives => survives.sendWindow verb window
  intro command member
  obtain ⟨messageId, _, rfl⟩ := List.mem_map.mp member
  exact isOneLine_commandFor isOneLine messageId

end Sending

/-! ## Reading and upgrading -/

/-- A poll loop writes nothing, and loses at most the connection. -/
theorem Transport.pollLine_untouched
    (line : List UInt8)
    (net : Net σ)
    (ticks : List ReadTick) :
    (pollLine line net ticks).2.2.writes = net.writes ∧
      ((pollLine line net ticks).2.2.isOpen = true →
        net.isOpen = true ∧ (pollLine line net ticks).2.2.inbound = net.inbound) := by
  rcases pollLine_net line net ticks with ⟨wire, reads, _, same⟩ | ⟨loss, reads, _, same⟩
  · rw [same]
    exact ⟨rfl, fun isOpen => ⟨isOpen, rfl⟩⟩
  · rw [same]
    exact ⟨rfl, fun isOpen => absurd isOpen Bool.false_ne_true⟩

theorem untouched_readUntil (transport : Transport σ) :
    Untouched transport (Transport.readUntil transport).2 := by
  unfold Transport.readUntil
  split
  · exact ⟨rfl, rfl, rfl, id, id⟩
  · split
    · exact ⟨rfl, rfl, rfl, id, id⟩
    · obtain ⟨writes, lined⟩ := Transport.pollLine_untouched transport.buffer transport.net
        transport.net.reads
      have trace := Transport.pollLine_trace transport.buffer transport.net transport.net.reads
      refine ⟨congrArg writtenBytes trace, congrArg heardCommands trace, writes, id, ?_⟩
      intro before isOpen
      obtain ⟨wasOpen, inbound⟩ := lined isOpen
      obtain ⟨unflushed, emptied, stream⟩ := before wasOpen
      exact ⟨unflushed, inbound.trans emptied, stream⟩

theorem Untouched.log
    {before after : Transport σ}
    (untouched : Untouched before after)
    {event : Event}
    (unwritten : writtenBytes [event] = [])
    (unheard : heardCommands [event] = []) :
    Untouched before (after.log event) where
  written := by
    refine (writtenBytes_append _ _).trans ?_
    rw [unwritten, List.append_nil, untouched.written]
  heard := by
    refine (heardCommands_append _ _).trans ?_
    rw [unheard, List.append_nil, untouched.heard]
  writes := untouched.writes
  settled := untouched.settled
  lined := untouched.lined

theorem Untouched.setClosed
    {before after : Transport σ}
    (untouched : Untouched before after) :
    Untouched before after.setClosed :=
  ⟨untouched.written, untouched.heard, untouched.writes, untouched.settled, untouched.lined⟩

/-- Reading a line tells nobody anything. -/
theorem told_readLine (transport : Transport σ) :
    Told [] transport (finalState (Transport.readLine transport)) := by
  have untouched : Untouched transport (finalState (Transport.readLine transport)) :=
    Transport.finalState_afterWait (motive := Untouched transport)
      (fun _ _ waited => waited.log rfl rfl) (fun _ _ waited => waited.log rfl rfl)
      (fun _ waited => waited.setClosed) (untouched_readUntil transport)
  exact untouched.told

/-- Upgrading tells nobody anything. -/
theorem told_upgradeInPlace (hostname : Str) (transport : Transport σ) :
    Told [] transport (finalState (Transport.upgradeInPlace hostname transport)) := by
  rcases Transport.upgradeInPlace_cases hostname transport with
    ⟨error, run, _⟩ | ⟨error, run, _⟩ | ⟨run, _⟩
  · rw [run]
    exact told_refl transport
  · rw [run]
    exact Untouched.told
      ⟨rfl, rfl, rfl, fun _ => .inr rfl, fun _ isOpen => absurd isOpen Bool.false_ne_true⟩
  · rw [run]
    exact Untouched.told ⟨rfl, rfl, rfl, fun _ => .inr rfl, fun _ _ => ⟨rfl, rfl, nofun⟩⟩

/-! ## Actions of a client -/

/-- The action tells the server these commands at most. -/
def Tells (commands : List Str) (action : Action ε (Pop3Client σ) α) : Prop :=
  ∀ client, Told commands client.transport (finalState (action client)).transport

section Actions

variable {commands more : List Str}

theorem Tells.weaken
    {action : Action ε (Pop3Client σ) α}
    (tells : Tells commands action)
    (fewer : commands.Sublist more) :
    Tells more action :=
  fun client => (tells client).weaken fewer

theorem Tells.pure (value : α) :
    Tells [] (Pure.pure value : Action ε (Pop3Client σ) α) :=
  fun client => told_refl client.transport

theorem Tells.ofResult (result : Except ε α) :
    Tells [] (Rust.ofResult result : Action ε (Pop3Client σ) α) := by
  intro client
  cases result <;> exact told_refl client.transport

theorem Tells.gets (read : Pop3Client σ → α) :
    Tells [] (Rust.gets read : Action ε (Pop3Client σ) α) :=
  fun client => told_refl client.transport

theorem Tells.bind
    {action : Action ε (Pop3Client σ) α}
    {next : α → Action ε (Pop3Client σ) β}
    (tells : Tells commands action)
    (then_tells : ∀ value, Tells more (next value)) :
    Tells (commands ++ more) (action >>= next) := by
  intro client
  have told := tells client
  cases run : action client with
  | ok value middle =>
      rw [run] at told
      rw [bind_of_ok run]
      exact told.trans (then_tells value middle)
  | error error middle =>
      rw [run] at told
      rw [bind_of_error run]
      exact told.weaken (List.sublist_append_left _ _)

theorem Tells.bind_silent
    {action : Action ε (Pop3Client σ) α}
    {next : α → Action ε (Pop3Client σ) β}
    (tells : Tells commands action)
    (silent : ∀ value, Tells [] (next value)) :
    Tells commands (action >>= next) := by
  rw [← List.append_nil commands]
  exact tells.bind silent

/-- What is tested first holds in what follows. -/
theorem told_ofResult_bind
    {client : Pop3Client σ}
    {result : Except ε α}
    {next : α → Action ε (Pop3Client σ) β}
    (told : ∀ value, result = .ok value →
      Told commands client.transport (finalState (next value client)).transport) :
    Told commands client.transport
      (finalState ((Rust.ofResult result >>= next) client)).transport := by
  cases result with
  | ok value => exact told value rfl
  | error error => exact (told_refl _).weaken (List.nil_sublist _)

theorem Tells.ofResult_bind
    {result : Except ε α}
    {next : α → Action ε (Pop3Client σ) β}
    (tells : ∀ value, result = .ok value → Tells commands (next value)) :
    Tells commands (Rust.ofResult result >>= next) :=
  fun client => told_ofResult_bind fun value tested => tells value tested client

theorem Tells.attempt
    {action : Action ε (Pop3Client σ) α}
    (tells : Tells commands action) :
    Tells commands (Rust.attempt action : Action ε' (Pop3Client σ) (Except ε α)) := by
  intro client
  rw [finalState_attempt]
  exact tells client

theorem Tells.mapError
    {action : Action ε (Pop3Client σ) α}
    (tells : Tells commands action)
    (convert : ε → ε') :
    Tells commands (Rust.mapError convert action) := by
  intro client
  rw [finalState_mapError]
  exact tells client

theorem tells_onTransport
    {action : Action ε (Transport σ) α}
    (told : ∀ transport, Told commands transport (finalState (action transport))) :
    Tells commands (transportField.run action) := by
  intro client
  rw [Field.finalState_run]
  exact told client.transport

end Actions

/-! ## Calls -/

section Calls

variable [Server σ] {commands : List Str}

theorem tells_sendAndCheck
    {command : Str}
    (isOneLine : IsOneLine command) :
    Tells [command] (sendAndCheck command : ClientM σ Str) :=
  .bind (tells_onTransport (told_sendCommand isOneLine)) fun _ =>
    .bind (tells_onTransport told_readLine) fun _ => .ofResult _

omit [Server σ] in
theorem tells_readBody : Tells [] (readBody : ClientM σ Str) := by
  refine tells_onTransport fun transport => ?_
  have keeps : Preserves (Told [] transport)
      (Transport.readLine : TransportM σ Str) :=
    fun middle told => told.trans (told_readLine middle)
  exact preserves_readMultiline keeps transport (told_refl transport)

omit [Server σ] in
theorem Tells.requireAuth_bind
    {action : ClientM σ α}
    (tells : Tells commands action) :
    Tells commands (requireAuth >>= fun _ => action) :=
  .bind (.bind (.gets _) fun _ => .ofResult _) fun _ => tells

/-- A call with a command, and whatever it makes of the answer. -/
theorem tells_command
    {command : Str}
    (isOneLine : IsOneLine command)
    {next : Str → ClientM σ α}
    (silent : ∀ text, Tells [] (next text)) :
    Tells [command] (requireAuth >>= fun _ => sendAndCheck command >>= next) :=
  .requireAuth_bind (.bind (tells_sendAndCheck isOneLine) silent)

/-- The same for a call whose message id is checked. -/
theorem tells_numbered
    {command : Str}
    (isOneLine : IsOneLine command)
    {messageId : UInt32}
    {next : Str → ClientM σ α}
    (silent : ∀ text, Tells [] (next text)) :
    Tells [command] (requireAuth >>= fun _ => ofResult (validateMessageId messageId) >>=
      fun _ => sendAndCheck command >>= next) :=
  .requireAuth_bind (.ofResult_bind fun _ _ => .bind (tells_sendAndCheck isOneLine) silent)

theorem tells_capa : Tells ["CAPA".toList] (capa : ClientM σ (List Capability)) :=
  .bind (tells_sendAndCheck (by decide)) fun _ => .bind tells_readBody fun _ => .pure _

theorem tells_stls (hostname : Str) :
    Tells ["STLS".toList] (stls hostname : ClientM σ Unit) :=
  .bind (.gets _) fun _ => .ofResult_bind fun _ _ => .bind (.gets _) fun _ =>
    .ofResult_bind fun _ _ => .bind (tells_sendAndCheck (by decide)) fun _ =>
      tells_onTransport (told_upgradeInPlace hostname)

theorem tells_authenticated : Tells ["CAPA".toList] (authenticated : ClientM σ Unit) := by
  have changes : ∀ change : Pop3Client σ → Pop3Client σ,
      (∀ client, (change client).transport = client.transport) →
      Tells [] (modify change : ClientM σ Unit) := by
    intro change same client
    change Told [] client.transport (change client).transport
    rw [same]
    exact told_refl _
  unfold authenticated
  exact .bind (changes _ fun _ => by rfl) fun _ =>
    (tells_capa.attempt).bind_silent fun _ => changes _ fun _ => by rfl

theorem tells_login (username password : Str) :
    Tells ["USER ".toList ++ username, "PASS ".toList ++ password, "CAPA".toList]
      (login username password : ClientM σ Unit) := by
  refine .bind (.gets _) fun _ => .ofResult_bind fun _ _ =>
    .ofResult_bind fun _ user => .ofResult_bind fun _ pass => ?_
  have userLine : IsOneLine ("USER ".toList ++ username) :=
    IsOneLine.append (by decide) (isOneLine_of_checkNoCrlf user)
  have passLine : IsOneLine ("PASS ".toList ++ password) :=
    IsOneLine.append (by decide) (isOneLine_of_checkNoCrlf pass)
  exact .bind ((tells_sendAndCheck userLine).mapError authError) fun _ =>
    .bind ((tells_sendAndCheck passLine).mapError authError) fun _ => tells_authenticated

theorem tells_list (messageId : Option UInt32) :
    Tells [match messageId with
      | some messageId => commandFor "LIST ".toList messageId
      | none => "LIST".toList] (list messageId : ClientM σ (List ListEntry)) := by
  cases messageId with
  | some messageId =>
      exact tells_numbered (isOneLine_commandFor (by decide) messageId) fun _ =>
        .bind (.ofResult _) fun _ => .pure _
  | none => exact tells_command (by decide) fun _ => .bind tells_readBody fun _ => .ofResult _

theorem tells_uidl (messageId : Option UInt32) :
    Tells [match messageId with
      | some messageId => commandFor "UIDL ".toList messageId
      | none => "UIDL".toList] (uidl messageId : ClientM σ (List UidlEntry)) := by
  cases messageId with
  | some messageId =>
      exact tells_numbered (isOneLine_commandFor (by decide) messageId) fun _ =>
        .bind (.ofResult _) fun _ => .pure _
  | none => exact tells_command (by decide) fun _ => .bind tells_readBody fun _ => .ofResult _

theorem tells_retr (messageId : UInt32) :
    Tells [commandFor "RETR ".toList messageId] (retr messageId : ClientM σ Message) :=
  tells_numbered (isOneLine_commandFor (by decide) messageId) fun _ =>
    .bind tells_readBody fun _ => .pure _

theorem tells_dele (messageId : UInt32) :
    Tells [commandFor "DELE ".toList messageId] (dele messageId : ClientM σ Unit) :=
  tells_numbered (isOneLine_commandFor (by decide) messageId) fun _ => .pure _

/-! ## Batches -/

omit [Server σ] in
theorem tells_sequentially
    {verb : Str}
    {operation : UInt32 → ClientM σ α}
    (tells : ∀ messageId, Tells [commandFor verb messageId] (operation messageId))
    (ids : List UInt32) :
    Tells (ids.map (commandFor verb)) (sequentially operation ids) := by
  induction ids with
  | nil => exact .pure []
  | cons messageId ids inductionHypothesis =>
      exact .bind (tells messageId).attempt fun result =>
        inductionHypothesis.bind_silent fun results => .pure (result :: results)

omit [Server σ] in
theorem tells_drainWindow
    {receive : ClientM σ α}
    (silent : Tells [] receive)
    (window : List UInt32) :
    Tells [] (drainWindow receive window) := by
  induction window with
  | nil => exact .pure _
  | cons messageId window inductionHypothesis =>
      refine .bind silent.attempt fun result => ?_
      cases result with
      | ok value => exact inductionHypothesis.bind_silent fun _ => .pure _
      | error error =>
          dsimp only
          split
          · exact .pure _
          · exact inductionHypothesis.bind_silent fun _ => .pure _

theorem tells_pipelined
    {verb : Str}
    (isOneLine : IsOneLine verb)
    {receive : ClientM σ α}
    (silent : Tells [] receive)
    (windows : List (List UInt32)) :
    Tells (windows.flatten.map (commandFor verb))
      (pipelined (fun window => transportField.run (sendWindow verb window)) receive
        windows) := by
  induction windows with
  | nil => exact .pure []
  | cons window windows inductionHypothesis =>
      rw [List.flatten_cons, List.map_append]
      have sends : Tells (window.map (commandFor verb))
          (transportField.run (sendWindow verb window) : Action IoError (Pop3Client σ) Unit) :=
        tells_onTransport (told_sendWindow isOneLine window)
      refine .bind sends.attempt fun sent => ?_
      cases sent with
      | error error => exact (Tells.pure _).weaken (List.nil_sublist _)
      | ok _ =>
          refine .bind (tells_drainWindow silent window) fun drained => ?_
          dsimp only
          split
          · exact inductionHypothesis.bind_silent fun _ => .pure _
          · exact (Tells.pure _).weaken (List.nil_sublist _)

omit [Server σ] in
theorem tells_many
    {sequential inPipeline : List UInt32 → ClientM σ (Items α)}
    {ids : List UInt32}
    (first : Tells commands (sequential ids))
    (second : Tells commands (inPipeline ids)) :
    Tells commands (many sequential inPipeline ids) := by
  refine .requireAuth_bind (.ofResult_bind fun _ _ => ?_)
  split
  · exact (Tells.pure _).weaken (List.nil_sublist _)
  · refine .bind (.gets _) fun isPipelining => ?_
    split
    · exact second
    · exact first

omit [Server σ] in
theorem tells_readRetrResponse : Tells [] (readRetrResponse : ClientM σ Message) :=
  .bind (tells_onTransport told_readLine) fun _ => .bind (.ofResult _) fun _ =>
    .bind tells_readBody fun _ => .pure _

omit [Server σ] in
theorem tells_readDeleResponse : Tells [] (readDeleResponse : ClientM σ Unit) :=
  .bind (tells_onTransport told_readLine) fun _ => .bind (.ofResult _) fun _ => .pure _

theorem tells_retrMany (ids : List UInt32) :
    Tells (ids.map (commandFor "RETR ".toList)) (retrMany ids : ClientM σ (Items Message)) := by
  have inPipeline : Tells _ (retrManyPipelined ids : ClientM σ (Items Message)) :=
    tells_pipelined (by decide) tells_readRetrResponse (chunks pipelineWindow ids)
  rw [chunks_flatten] at inPipeline
  exact tells_many (tells_sequentially tells_retr ids) inPipeline

theorem tells_deleMany (ids : List UInt32) :
    Tells (ids.map (commandFor "DELE ".toList)) (deleMany ids : ClientM σ (Items Unit)) := by
  have inPipeline : Tells _ (deleManyPipelined ids : ClientM σ (Items Unit)) :=
    tells_pipelined (by decide) tells_readDeleResponse (chunks pipelineWindow ids)
  rw [chunks_flatten] at inPipeline
  exact tells_many (tells_sequentially tells_dele ids) inPipeline

/-! ## Incremental sync -/

theorem tells_unseenUids (seen : UidSet) :
    Tells ["UIDL".toList] (unseenUids seen : ClientM σ (List UidlEntry)) :=
  (tells_uidl none).bind_silent fun _ => .pure _

theorem tells_pruneSeen (seen : UidSet) :
    Tells ["UIDL".toList] (pruneSeen seen : ClientM σ (List Str × UidSet)) :=
  (tells_uidl none).bind_silent fun _ => .pure _

theorem tells_fetchEach (entries : List UidlEntry) :
    Tells (entries.map fun entry => commandFor "RETR ".toList entry.messageId)
      (fetchEach entries : ClientM σ (List (UidlEntry × Message))) := by
  induction entries with
  | nil => exact .pure []
  | cons entry entries inductionHypothesis =>
      exact .bind (tells_retr entry.messageId) fun message =>
        inductionHypothesis.bind_silent fun rest => .pure ((entry, message) :: rest)

/-- Which messages are retrieved depends on the listing. -/
theorem told_fetchUnseen (seen : UidSet) (client : Pop3Client σ) :
    ∃ ids : List UInt32,
      Told ("UIDL".toList :: ids.map (commandFor "RETR ".toList)) client.transport
        (finalState (fetchUnseen seen client)).transport := by
  have told := tells_unseenUids seen client
  rw [fetchUnseen]
  cases run : unseenUids seen client with
  | ok entries middle =>
      rw [run] at told
      rw [bind_of_ok run]
      refine ⟨entries.map (·.messageId), ?_⟩
      rw [List.map_map]
      exact told.trans (tells_fetchEach entries middle)
  | error error middle =>
      rw [run] at told
      rw [bind_of_error run]
      exact ⟨[], told⟩

/-! ## Any call -/

theorem tells_top (messageId lines : UInt32) :
    Tells [commandFor "TOP ".toList messageId ++ " ".toList ++ decimal lines.toNat]
      (top messageId lines : ClientM σ Message) :=
  tells_numbered (isOneLine_top messageId lines) fun _ =>
    .bind tells_readBody fun _ => .pure _

variable [Md5]

/-- The answer to the challenge in the greeting. -/
def apopCommand (greeting username password : Str) : Option Str :=
  (extractApopTimestamp greeting).map fun timestamp =>
    "APOP ".toList ++ username ++ " ".toList ++ computeApopDigest timestamp password

/-- The commands that a call is meant to send; which messages are fetched depends
on the listing. -/
def Call.Means (greeting : Str) : Call → List Str → Prop
  | .stls _, commands => commands = ["STLS".toList]
  | .login username password, commands =>
      commands = ["USER ".toList ++ username, "PASS ".toList ++ password, "CAPA".toList]
  | .apop username password, commands =>
      commands = (apopCommand greeting username password).toList ++ ["CAPA".toList]
  | .capa, commands => commands = ["CAPA".toList]
  | .stat, commands => commands = ["STAT".toList]
  | .list none, commands => commands = ["LIST".toList]
  | .list (some messageId), commands => commands = [commandFor "LIST ".toList messageId]
  | .uidl none, commands => commands = ["UIDL".toList]
  | .uidl (some messageId), commands => commands = [commandFor "UIDL ".toList messageId]
  | .retr messageId, commands => commands = [commandFor "RETR ".toList messageId]
  | .top messageId lines, commands => commands =
      [commandFor "TOP ".toList messageId ++ " ".toList ++ decimal lines.toNat]
  | .dele messageId, commands => commands = [commandFor "DELE ".toList messageId]
  | .rset, commands => commands = ["RSET".toList]
  | .noop, commands => commands = ["NOOP".toList]
  | .retrMany ids, commands => commands = ids.map (commandFor "RETR ".toList)
  | .deleMany ids, commands => commands = ids.map (commandFor "DELE ".toList)
  | .unseenUids _, commands => commands = ["UIDL".toList]
  | .fetchUnseen _, commands => ∃ ids : List UInt32,
      commands = "UIDL".toList :: ids.map (commandFor "RETR ".toList)
  | .pruneSeen _, commands => commands = ["UIDL".toList]

theorem told_apop (username password : Str) (client : Pop3Client σ) :
    Told ((apopCommand client.greeting username password).toList ++ ["CAPA".toList])
      client.transport (finalState (apop username password client)).transport := by
  rw [apop, gets_bind_apply]
  refine told_ofResult_bind fun _ _ => told_ofResult_bind fun _ user =>
    told_ofResult_bind fun _ pass => ?_
  rw [gets_bind_apply]
  refine told_ofResult_bind fun timestamp found => ?_
  have challenge : extractApopTimestamp client.greeting = some timestamp := by
    cases extracted : extractApopTimestamp client.greeting with
    | none =>
        rw [extracted] at found
        cases found
    | some other =>
        rw [extracted] at found
        cases found
        rfl
  have isOneLine : IsOneLine ("APOP ".toList ++ username ++ " ".toList ++
      computeApopDigest timestamp password) :=
    ((IsOneLine.append (by decide) (isOneLine_of_checkNoCrlf user)).append (by decide)).append
      (isOneLine_computeApopDigest timestamp password)
  rw [apopCommand, challenge]
  exact Tells.bind ((tells_sendAndCheck isOneLine).mapError authError)
    (fun _ => tells_authenticated) client

/-- A call tells the server what it is meant to. -/
theorem Call.told (call : Call) (client : Pop3Client σ) :
    ∃ commands, call.Means client.greeting commands ∧
      Told commands client.transport (finalState (call.run client)).transport := by
  cases call with
  | stls hostname => exact ⟨_, rfl, (tells_stls hostname).bind_silent (fun _ => .pure _) client⟩
  | login username password =>
      exact ⟨_, rfl, (tells_login username password).bind_silent (fun _ => .pure _) client⟩
  | apop username password =>
      refine ⟨_, rfl, ?_⟩
      rw [Call.run, finalState_bind_pure]
      exact told_apop username password client
  | capa => exact ⟨_, rfl, tells_capa.bind_silent (fun _ => .pure _) client⟩
  | stat => exact ⟨_, rfl, (tells_command (by decide) fun _ => .ofResult _).bind_silent
      (fun _ => .pure _) client⟩
  | list messageId =>
      refine ⟨_, ?_, (tells_list messageId).bind_silent (fun _ => .pure _) client⟩
      cases messageId <;> rfl
  | uidl messageId =>
      refine ⟨_, ?_, (tells_uidl messageId).bind_silent (fun _ => .pure _) client⟩
      cases messageId <;> rfl
  | retr messageId => exact ⟨_, rfl, (tells_retr messageId).bind_silent (fun _ => .pure _) client⟩
  | top messageId lines =>
      exact ⟨_, rfl, (tells_top messageId lines).bind_silent (fun _ => .pure _) client⟩
  | dele messageId => exact ⟨_, rfl, (tells_dele messageId).bind_silent (fun _ => .pure _) client⟩
  | rset => exact ⟨_, rfl, (tells_command (by decide) fun _ => .pure _).bind_silent
      (fun _ => .pure _) client⟩
  | noop => exact ⟨_, rfl, (tells_command (by decide) fun _ => .pure _).bind_silent
      (fun _ => .pure _) client⟩
  | retrMany ids => exact ⟨_, rfl, (tells_retrMany ids).bind_silent (fun _ => .pure _) client⟩
  | deleMany ids => exact ⟨_, rfl, (tells_deleMany ids).bind_silent (fun _ => .pure _) client⟩
  | unseenUids seen =>
      exact ⟨_, rfl, (tells_unseenUids seen).bind_silent (fun _ => .pure _) client⟩
  | fetchUnseen seen =>
      obtain ⟨ids, told⟩ := told_fetchUnseen seen client
      refine ⟨_, ⟨ids, rfl⟩, ?_⟩
      rw [Call.run, finalState_bind_pure]
      exact told
  | pruneSeen seen =>
      exact ⟨_, rfl, (tells_pruneSeen seen).bind_silent (fun _ => .pure _) client⟩

omit [Md5] in
theorem tells_quit : Tells ["QUIT".toList] (quit : ClientM σ Unit) := by
  refine .bind (tells_onTransport (told_sendCommand (by decide))) fun _ =>
    .bind (tells_onTransport told_readLine) fun _ => .bind (.ofResult _) fun _ => ?_
  exact fun client => (untouched_refl client.transport).setClosed.told

/-- What is made of a message is not told. -/
theorem ParsedCall.told {parser : MessageParser μ} (call : ParsedCall) (client : Pop3Client σ) :
    ∃ commands, call.request.Means client.greeting commands ∧
      Told commands client.transport (finalState (call.run parser client)).transport := by
  rw [call.finalState_run]
  exact call.request.told client

/-- A run leaves whole lines only. -/
theorem Call.told_runAll (calls : List Call) (client : Pop3Client σ) :
    ∃ commands, Told commands client.transport (Call.runAll calls client).transport := by
  induction calls generalizing client with
  | nil => exact ⟨[], told_refl _⟩
  | cons call calls inductionHypothesis =>
      obtain ⟨commands, _, told⟩ := call.told client
      obtain ⟨more, rest⟩ := inductionHypothesis (finalState (call.run client))
      exact ⟨commands ++ more, told.trans rest⟩

/-- In every run, whatever the arguments are and whatever is made of the messages, a
call makes the server hear only commands that it is meant to send, each of them one
line.  Where the stream takes what is written, the lines of these commands are all that
the call writes. -/
theorem no_injection
    {start : Pop3Client σ}
    (lined : Lined start.transport)
    (parser : MessageParser μ)
    (calls : List ParsedCall)
    (call : ParsedCall) :
    let client := ParsedCall.runAll parser calls start
    (∃ commands, call.request.Means client.greeting commands ∧
      Heard commands client.transport (finalState (call.run parser client)).transport ∧
      (Settled start.transport →
        WroteLines commands client.transport
          (finalState (call.run parser client)).transport)) ∧
    Heard ["QUIT".toList] client.transport (finalState (quit client)).transport ∧
    (Settled start.transport →
      WroteLines ["QUIT".toList] client.transport (finalState (quit client)).transport) := by
  intro client
  obtain ⟨_, before⟩ : ∃ commands, Told commands start.transport client.transport := by
    rw [show client = _ from ParsedCall.runAll_eq calls start]
    exact Call.told_runAll (calls.map ParsedCall.request) start
  obtain ⟨commands, means, told⟩ := @ParsedCall.told _ _ _ _ parser call client
  have lined' : Lined client.transport := (before.heard lined).1
  have settled' : Settled start.transport → Settled client.transport :=
    fun settled => (before.wrote settled).1
  have quits := tells_quit client
  exact ⟨⟨commands, means, (told.heard lined').2,
      fun settled => (told.wrote (settled' settled)).2⟩,
    (quits.heard lined').2, fun settled => (quits.wrote (settled' settled)).2⟩

end Calls

/-- A user name with a line break in it is not written. -/
theorem no_injection_scripted :
    let parser : MessageParser (List UInt8) := ⟨some⟩
    let client := @ParsedCall.runAll _ _ _ emptyDigest parser [.plain .capa]
      (scripted ["-ERR\r\n".toList])
    let after := finalState (@ParsedCall.run _ _ _ emptyDigest parser
      (.plain (.login "u\r\nDELE 1".toList "p".toList)) client)
    (∃ commands, @Call.Means emptyDigest client.greeting
        (.login "u\r\nDELE 1".toList "p".toList) commands ∧
      Heard commands client.transport after.transport ∧
      WroteLines commands client.transport after.transport) ∧
    writtenBytes after.transport.net.trace = commandLines ["CAPA".toList] := by
  intro parser client after
  have lined : Lined (scripted ["-ERR\r\n".toList]).transport :=
    fun _ => ⟨rfl, rfl, by decide⟩
  have settled : Settled (scripted ["-ERR\r\n".toList]).transport :=
    ⟨by simp [scripted], .inr rfl⟩
  obtain ⟨⟨commands, means, heard, wrote⟩, _⟩ := @no_injection _ _ emptyDigest _ _ lined
    parser [.plain .capa] (.plain (.login "u\r\nDELE 1".toList "p".toList))
  exact ⟨⟨commands, means, heard, wrote settled⟩, by decide +kernel⟩

end Pop3
