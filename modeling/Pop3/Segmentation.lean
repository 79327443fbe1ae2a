import Pop3.Authentication
import Pop3.Batches
import Pop3.Rust.Twins
import Pop3.Session.Lifecycle

/-!
# How bytes arrive does not matter

As long as nothing is late and nothing is lost, no operation but an upgrade can
tell in which pieces the replies arrive, how much of them is buffered already,
and whether the stream is encrypted.
-/

namespace Pop3

open Rust Pop3Client

/-- Transports that show the same view, in calm weather. -/
def SameView (first second : Transport σ) : Prop :=
  ∃ view, Shows calm first view ∧ Shows calm second view

/-- Clients that differ only in what the protocol does not see. -/
structure Alike (first second : Pop3Client σ) : Prop where
  view : SameView first.transport second.transport
  greeting : first.greeting = second.greeting
  state : first.state = second.state
  isPipelining : first.isPipelining = second.isPipelining

/-- What a transport cannot tell apart, its client cannot. -/
theorem respects_alike
    {action : Action ε (Transport σ) α}
    (respects : Respects SameView action) :
    Respects Alike (transportField.run action) :=
  respects.field (fun _ _ alike => alike.view) fun _ _ _ _ alike view =>
    ⟨view, alike.greeting, alike.state, alike.isPipelining⟩

theorem respects_readLine : Respects SameView (Transport.readLine : TransportM σ Str) :=
  .of_gives fun view => mishaps_calm (σ := σ) ▸ readLine_follows calm view

theorem respects_readBody : Respects Alike (readBody : ClientM σ Str) :=
  respects_alike (.of_gives fun view => mishaps_calm (σ := σ) ▸ readMultiline_follows calm view)

section Operations

variable [Server σ]

theorem respects_sendCommand {command : Str} (noFeed : '\n' ∉ command) :
    Respects SameView (Transport.sendCommand command : TransportM σ Unit) :=
  @Respects.of_gives _ _ _ _ _ _ (fun view => .ok () (view.hear command)) fun _ =>
    mishaps_calm (σ := σ) ▸ sendCommand_gives noFeed (fun lossy => by cases lossy)

theorem respects_sendWindow {verb : Str} (noFeed : '\n' ∉ verb) (window : List UInt32) :
    Respects SameView (Pop3Client.sendWindow verb window : WriterM σ Unit) := by
  refine @Respects.of_gives _ _ _ _ _ _
    (fun view => .ok () (view.hearAll (window.map (commandFor verb)))) fun view => ?_
  intro transport shown
  rcases sendWindow_gives noFeed (fun lossy => by cases lossy) transport shown with
    given | ⟨_, _, stuck⟩ | gone
  · exact .inl given
  · exact stuck.elim
  · cases gone.1

theorem respects_sendAndCheck {command : Str} (noFeed : '\n' ∉ command) :
    Respects Alike (sendAndCheck command : ClientM σ Str) :=
  .bind (respects_alike (respects_sendCommand noFeed)) fun _ =>
    .bind (respects_alike respects_readLine) fun _ => .ofResult _

omit [Server σ] in
theorem respects_requireAuth : Respects Alike (requireAuth : ClientM σ Unit) :=
  .gets_bind (fun _ _ alike => alike.state) fun _ => .ofResult _

theorem respects_capa : Respects Alike (capa : ClientM σ (List Capability)) :=
  .bind (respects_sendAndCheck (by decide)) fun _ => .bind respects_readBody fun _ => .pure _

theorem respects_stat : Respects Alike (stat : ClientM σ Stat) :=
  .bind respects_requireAuth fun _ =>
    .bind (respects_sendAndCheck (by decide)) fun _ => .ofResult _

theorem respects_list (messageId : Option UInt32) :
    Respects Alike (list messageId : ClientM σ (List ListEntry)) := by
  refine .bind respects_requireAuth fun _ => ?_
  cases messageId with
  | some messageId =>
      exact .bind (.ofResult _) fun _ =>
        .bind (respects_sendAndCheck (noFeed_commandFor (by decide) _)) fun _ =>
          .bind (.ofResult _) fun _ => .pure _
  | none =>
      exact .bind (respects_sendAndCheck (by decide)) fun _ =>
        .bind respects_readBody fun _ => .ofResult _

theorem respects_uidl (messageId : Option UInt32) :
    Respects Alike (uidl messageId : ClientM σ (List UidlEntry)) := by
  refine .bind respects_requireAuth fun _ => ?_
  cases messageId with
  | some messageId =>
      exact .bind (.ofResult _) fun _ =>
        .bind (respects_sendAndCheck (noFeed_commandFor (by decide) _)) fun _ =>
          .bind (.ofResult _) fun _ => .pure _
  | none =>
      exact .bind (respects_sendAndCheck (by decide)) fun _ =>
        .bind respects_readBody fun _ => .ofResult _

theorem respects_retr (messageId : UInt32) :
    Respects Alike (retr messageId : ClientM σ Message) :=
  .bind respects_requireAuth fun _ => .bind (.ofResult _) fun _ =>
    .bind (respects_sendAndCheck (noFeed_commandFor (by decide) _)) fun _ =>
      .bind respects_readBody fun _ => .pure _

theorem respects_top (messageId lines : UInt32) :
    Respects Alike (top messageId lines : ClientM σ Message) :=
  .bind respects_requireAuth fun _ => .bind (.ofResult _) fun _ =>
    .bind (respects_sendAndCheck (noFeed_top _ _)) fun _ =>
      .bind respects_readBody fun _ => .pure _

theorem respects_dele (messageId : UInt32) :
    Respects Alike (dele messageId : ClientM σ Unit) :=
  .bind respects_requireAuth fun _ => .bind (.ofResult _) fun _ =>
    .bind (respects_sendAndCheck (noFeed_commandFor (by decide) _)) fun _ => .pure _

theorem respects_rset : Respects Alike (rset : ClientM σ Unit) :=
  .bind respects_requireAuth fun _ =>
    .bind (respects_sendAndCheck (by decide)) fun _ => .pure _

theorem respects_noop : Respects Alike (noop : ClientM σ Unit) :=
  .bind respects_requireAuth fun _ =>
    .bind (respects_sendAndCheck (by decide)) fun _ => .pure _

/-! Batches, one by one and in windows. -/

omit [Server σ] in
theorem respects_sequentially
    {related : S → S → Prop}
    {operation : UInt32 → Action Pop3Error S α}
    (respects : ∀ messageId, Respects related (operation messageId))
    (ids : List UInt32) :
    Respects related (sequentially operation ids) := by
  induction ids with
  | nil => exact .pure []
  | cons messageId ids inductionHypothesis =>
      exact .bind (respects messageId).attempt fun _ =>
        .bind inductionHypothesis fun _ => .pure _

omit [Server σ] in
theorem respects_drainWindow
    {related : S → S → Prop}
    {receive : Action Pop3Error S α}
    (respects : Respects related receive)
    (window : List UInt32) :
    Respects related (drainWindow receive window) := by
  induction window with
  | nil => exact .pure _
  | cons messageId window inductionHypothesis =>
      refine .bind respects.attempt fun result => ?_
      cases result with
      | ok value => exact .bind inductionHypothesis fun _ => .pure _
      | error error =>
          dsimp only
          split
          · exact .pure _
          · exact .bind inductionHypothesis fun _ => .pure _

omit [Server σ] in
theorem respects_pipelined
    {related : S → S → Prop}
    {send : List UInt32 → Action IoError S Unit}
    (sends : ∀ window, Respects related (send window))
    {receive : Action Pop3Error S α}
    (respects : Respects related receive)
    (windows : List (List UInt32)) :
    Respects related (pipelined send receive windows) := by
  induction windows with
  | nil => exact .pure []
  | cons window windows inductionHypothesis =>
      refine .bind (sends window).attempt fun sent => ?_
      cases sent with
      | error error => exact .pure _
      | ok _ =>
          refine .bind (respects_drainWindow respects window) fun drained => ?_
          dsimp only
          split
          · exact .bind inductionHypothesis fun _ => .pure _
          · exact .pure _

omit [Server σ] in
theorem respects_many
    {sequential inPipeline : List UInt32 → ClientM σ (Items α)}
    {ids : List UInt32}
    (first : Respects Alike (sequential ids))
    (second : Respects Alike (inPipeline ids)) :
    Respects Alike (many sequential inPipeline ids) := by
  refine .bind respects_requireAuth fun _ => .bind (.ofResult _) fun _ => ?_
  split
  · exact .pure []
  · refine .gets_bind (fun _ _ alike => alike.isPipelining) fun isPipelining => ?_
    split
    · exact second
    · exact first

theorem respects_retrMany (ids : List UInt32) :
    Respects Alike (retrMany ids : ClientM σ (Items Message)) :=
  respects_many (respects_sequentially respects_retr ids)
    (respects_pipelined (fun window => respects_alike (respects_sendWindow (by decide) window))
      (.bind (respects_alike respects_readLine) fun _ => .bind (.ofResult _) fun _ =>
        .bind respects_readBody fun _ => .pure _) _)

theorem respects_deleMany (ids : List UInt32) :
    Respects Alike (deleMany ids : ClientM σ (Items Unit)) :=
  respects_many (respects_sequentially respects_dele ids)
    (respects_pipelined (fun window => respects_alike (respects_sendWindow (by decide) window))
      (.bind (respects_alike respects_readLine) fun _ => .bind (.ofResult _) fun _ => .pure _) _)

theorem respects_unseenUids (seen : UidSet) :
    Respects Alike (unseenUids seen : ClientM σ (List UidlEntry)) :=
  .bind (respects_uidl none) fun _ => .pure _

theorem respects_fetchEach (entries : List UidlEntry) :
    Respects Alike (fetchEach entries : ClientM σ (List (UidlEntry × Message))) := by
  induction entries with
  | nil => exact .pure []
  | cons entry entries inductionHypothesis =>
      exact .bind (respects_retr _) fun _ => .bind inductionHypothesis fun _ => .pure _

theorem respects_fetchUnseen (seen : UidSet) :
    Respects Alike (fetchUnseen seen : ClientM σ (List (UidlEntry × Message))) :=
  .bind (respects_unseenUids seen) respects_fetchEach

theorem respects_pruneSeen (seen : UidSet) :
    Respects Alike (pruneSeen seen : ClientM σ (List Str × UidSet)) :=
  .bind (respects_uidl none) fun _ => .pure _

theorem respects_quit : Respects Alike (quit : ClientM σ Unit) := by
  refine .bind (respects_alike (respects_sendCommand (by decide))) fun _ => ?_
  refine .bind (respects_alike respects_readLine) fun _ => .bind (.ofResult _) fun _ => ?_
  refine .modify fun first second alike => ⟨?_, alike.greeting, alike.state, alike.isPipelining⟩
  obtain ⟨view, showsFirst, showsSecond⟩ := alike.view
  exact ⟨{ view with isClosed := true }, { showsFirst with isClosed := rfl },
    { showsSecond with isClosed := rfl }⟩

/-! Authentication. -/

theorem respects_authenticated : Respects Alike (authenticated : ClientM σ Unit) :=
  .bind (.modify fun _ _ alike => ⟨alike.view, alike.greeting, rfl, alike.isPipelining⟩)
    fun _ => .bind respects_capa.attempt fun _ =>
      .modify fun _ _ alike => ⟨alike.view, alike.greeting, alike.state, rfl⟩

omit [Server σ] in
/-- What has been checked may be sent. -/
theorem respects_checked
    {text : Str}
    {next : Unit → ClientM σ α}
    (rest : '\n' ∉ text → Respects Alike (next ())) :
    Respects Alike (ofResult (checkNoCrlf text) >>= next) := by
  cases checked : checkNoCrlf text with
  | error error => exact .throw error
  | ok _ => exact rest (noFeed_of_checkNoCrlf checked)

theorem respects_login (username password : Str) :
    Respects Alike (login username password : ClientM σ Unit) := by
  refine .gets_bind (fun _ _ alike => alike.state) fun _ => .bind (.ofResult _) fun _ => ?_
  refine respects_checked fun noFeedUser => respects_checked fun noFeedPass => ?_
  refine .bind (respects_sendAndCheck (by simp [noFeedUser])).mapError fun _ => ?_
  exact .bind (respects_sendAndCheck (by simp [noFeedPass])).mapError fun _ =>
    respects_authenticated

theorem respects_apop [Md5] (username password : Str) :
    Respects Alike (apop username password : ClientM σ Unit) := by
  refine .gets_bind (fun _ _ alike => alike.state) fun _ => .bind (.ofResult _) fun _ => ?_
  refine respects_checked fun noFeedUser => respects_checked fun _ => ?_
  refine .gets_bind (fun _ _ alike => alike.greeting) fun _ => ?_
  refine .bind (.ofResult _) fun timestamp => ?_
  have noFeedDigest : '\n' ∉ computeApopDigest timestamp password :=
    noFeed_of_isHex (Md5.isHex _)
  exact .bind (respects_sendAndCheck (by simp [noFeedUser, noFeedDigest])).mapError fun _ =>
    respects_authenticated

variable [Md5]

/-- Only an upgrade can tell alike clients apart. -/
theorem Call.respects_run {call : Call} (noUpgrade : call.upgrades = false) :
    Respects Alike (call.run : ClientM σ Value) := by
  cases call with
  | stls hostname => cases noUpgrade
  | login username password => exact .bind (respects_login username password) fun _ => .pure _
  | apop username password => exact .bind (respects_apop username password) fun _ => .pure _
  | capa => exact .bind respects_capa fun _ => .pure _
  | stat => exact .bind respects_stat fun _ => .pure _
  | list messageId => exact .bind (respects_list messageId) fun _ => .pure _
  | uidl messageId => exact .bind (respects_uidl messageId) fun _ => .pure _
  | retr messageId => exact .bind (respects_retr messageId) fun _ => .pure _
  | top messageId lines => exact .bind (respects_top messageId lines) fun _ => .pure _
  | dele messageId => exact .bind (respects_dele messageId) fun _ => .pure _
  | rset => exact .bind respects_rset fun _ => .pure _
  | noop => exact .bind respects_noop fun _ => .pure _
  | retrMany ids => exact .bind (respects_retrMany ids) fun _ => .pure _
  | deleMany ids => exact .bind (respects_deleMany ids) fun _ => .pure _
  | unseenUids seen => exact .bind (respects_unseenUids seen) fun _ => .pure _
  | fetchUnseen seen => exact .bind (respects_fetchUnseen seen) fun _ => .pure _
  | pruneSeen seen => exact .bind (respects_pruneSeen seen) fun _ => .pure _

/-- Nor can a run without upgrades. -/
theorem Call.alike_runs
    {calls : List Call}
    (noUpgrade : ∀ call ∈ calls, call.upgrades = false)
    {first second : Pop3Client σ}
    (alike : Alike first second) :
    (runs calls first).map Prod.fst = (runs calls second).map Prod.fst ∧
      Alike (runAll calls first) (runAll calls second) := by
  induction calls generalizing first second with
  | nil => exact ⟨rfl, alike⟩
  | cons call calls inductionHypothesis =>
      obtain ⟨same, after⟩ := respects_run (noUpgrade call List.mem_cons_self) first second alike
      obtain ⟨sameRest, afterRest⟩ :=
        inductionHypothesis (fun call member =>
          noUpgrade call (List.mem_cons_of_mem _ member)) after
      exact ⟨congrArg₂ List.cons same sameRest, afterRest⟩

end Operations

/-! ## Connections -/

/-- A new connection, whose schedules stay within the weather. -/
structure Net.Within (weather : Weather) (net : Net σ) : Prop where
  inbound : net.inbound = []
  reads : ∀ tick ∈ net.reads, tick.Within weather
  writes : ∀ tick ∈ net.writes, tick.Within weather

/-- What a new transport shows does not depend on the schedules. -/
theorem shows_of_within
    {weather : Weather}
    {net : Net σ}
    (within : net.Within weather)
    {stream : InnerStream}
    (notGone : stream ≠ .upgrading)
    (encrypted : Bool) :
    Shows weather { stream, encrypted, net : Transport σ }
      { server := net.server
        pending := net.wire
        isOpen := net.isOpen
        log := net.trace.filter Event.isNoted } where
  server := rfl
  pending := rfl
  isOpen := rfl
  isClosed := rfl
  log := rfl
  stream := notGone
  unflushed := rfl
  inbound := within.inbound
  reads := within.reads
  writes := within.writes

/-- The same greeting makes alike clients. -/
theorem alike_of_greet
    {first second : Transport σ}
    (sameView : SameView first second)
    {client client' : Pop3Client σ}
    (greets : greet first = .ok client)
    (greets' : greet second = .ok client') :
    Alike client client' := by
  obtain ⟨same, after⟩ := respects_readLine first second sameView
  unfold greet at greets greets'
  cases run : Transport.readLine first with
  | error error transport =>
      rw [run] at greets
      cases greets
  | ok line transport =>
      rw [run] at same after greets
      have run' := eq_ok_of_returned same.symm
      rw [run'] at greets'
      dsimp only at greets greets'
      cases parsed : parseStatusLine line with
      | error error =>
          rw [parsed] at greets
          cases greets
      | ok greeting =>
          rw [parsed] at greets greets'
          cases greets
          cases greets'
          exact ⟨after, rfl, rfl, rfl⟩

/-- As long as nothing is late, nothing is lost and the connection is not upgraded: in which
pieces the bytes of a server arrive, and whether they are encrypted, makes no difference to
what any of a sequence of calls returns, to what the server has been asked and has sent in
the end, or to what is unread of it. -/
theorem segmentation_independent [Server σ] [Md5]
    {net : Net σ}
    {reads : List ReadTick}
    (isCalm : net.Within calm)
    (isCalm' : { net with reads }.Within calm)
    {client client' : Pop3Client σ}
    (connects : Connects net client)
    (connects' : Connects { net with reads } client')
    {calls : List Call}
    (noUpgrade : ∀ call ∈ calls, call.upgrades = false) :
    (Call.runs calls client).map Prod.fst = (Call.runs calls client').map Prod.fst ∧
      Alike (Call.runAll calls client) (Call.runAll calls client') ∧
      returned (quit (Call.runAll calls client)) =
        returned (quit (Call.runAll calls client')) := by
  obtain ⟨stream, encrypted, notGone, greets⟩ := connects.greets
  obtain ⟨stream', encrypted', notGone', greets'⟩ := connects'.greets
  have alike : Alike client client' := alike_of_greet
    ⟨_, shows_of_within isCalm notGone encrypted, shows_of_within isCalm' notGone' encrypted'⟩
    greets greets'
  obtain ⟨same, after⟩ := Call.alike_runs noUpgrade alike
  exact ⟨same, after, (respects_quit _ _ after).1⟩

/-- Capabilities in one piece, and byte by byte. -/
theorem segmentation_independent_greeted :
    let replies := ["+OK\r\nPIPELINING\r\n.\r\n".toList]
    let client := greeted replies []
    let client' := greeted replies (List.replicate 20 (.arrive 0))
    (@Call.runs _ _ emptyDigest [.capa] client).map Prod.fst =
        (@Call.runs _ _ emptyDigest [.capa] client').map Prod.fst ∧
      Alike (@Call.runAll _ _ emptyDigest [.capa] client)
        (@Call.runAll _ _ emptyDigest [.capa] client') ∧
      returned (quit (@Call.runAll _ _ emptyDigest [.capa] client)) =
        returned (quit (@Call.runAll _ _ emptyDigest [.capa] client')) :=
  @segmentation_independent _ _ emptyDigest
    (greetingNet ["+OK\r\nPIPELINING\r\n.\r\n".toList] [.arrive 4])
    (.arrive 4 :: List.replicate 20 (.arrive 0))
    ⟨rfl, by simp [greetingNet, ReadTick.Within], by simp [greetingNet]⟩
    ⟨rfl, by simp [ReadTick.Within], by simp [greetingNet]⟩
    _ _ (connects_greeted _ _) (connects_greeted _ _) [.capa] (by simp [Call.upgrades])

end Pop3
