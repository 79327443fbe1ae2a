import Pop3.Deletions.Ledger
import Pop3.Mailbox.Refinement
import Pop3.Session.Lifecycle

/-!
# Sessions with a server

A session as its protocol sees it: a dialogue with a server that answers every
command, the state of the session, and what is known of the server.  Logging in is
part of the session, and every call but an upgrade does what it comes to there.
-/

namespace Pop3

open Rust Framing Pop3Client

/-- A session with a server. -/
structure ClientSession (σ : Type) where
  dialogue : Dialogue σ
  greeting : Str
  state : SessionState := .connected
  supportsPipelining : Bool := false

namespace ClientSession

/-- The dialogue of a session. -/
def dialogueField : Field (ClientSession σ) (Dialogue σ) where
  get := ClientSession.dialogue
  set dialogue session := { session with dialogue }
  get_set _ _ := rfl
  set_get _ := rfl
  set_set _ _ _ := rfl

variable [AnsweringServer σ]

/-- The server as a partner in its session. -/
def partner : Partner (ClientSession σ) where
  status command := dialogueField.run (Dialogue.partner.status command)
  body command := dialogueField.run (Dialogue.partner.body command)

/-- The session must be in this state. -/
def require (state : SessionState) : Action Pop3Error (ClientSession σ) Unit := do
  let current ← gets ClientSession.state
  ofResult (if current ≠ state then .error .notAuthenticated else .ok ())

/-- The server is asked what it can do, and need not answer. -/
def authenticated : Action Pop3Error (ClientSession σ) Unit := do
  modify fun session => { session with state := .authenticated }
  let probe ← attempt partner.capa
  let capabilities := match probe with
    | .ok capabilities => capabilities
    | .error (_ : Pop3Error) => []
  modify fun session => { session with
    supportsPipelining := capabilities.any (·.name == "PIPELINING".toList) }

def login (username password : Str) : Action Pop3Error (ClientSession σ) Unit := do
  require .connected
  ofResult (checkNoCrlf username)
  ofResult (checkNoCrlf password)
  let _ ← mapError authError (partner.status ("USER ".toList ++ username))
  let _ ← mapError authError (partner.status ("PASS ".toList ++ password))
  authenticated

variable [Md5]

def apop (username password : Str) : Action Pop3Error (ClientSession σ) Unit := do
  require .connected
  ofResult (checkNoCrlf username)
  ofResult (checkNoCrlf password)
  let greeting ← gets ClientSession.greeting
  let timestamp ← ofResult (okOr (extractApopTimestamp greeting) (.serverError
    "server does not support APOP (no timestamp in greeting)".toList))
  let _ ← mapError authError (partner.status
    ("APOP ".toList ++ username ++ " ".toList ++ computeApopDigest timestamp password))
  authenticated

/-- What a call comes to in a session.  Upgrades are not part of it. -/
def perform : Call → Action Pop3Error (ClientSession σ) Value
  | .login username password => do login username password; return .done
  | .apop username password => do apop username password; return .done
  | .stls _ => throw .notAuthenticated
  | .capa => do return .capabilities (← partner.capa)
  | call => do
      require .authenticated
      dialogueField.run (Dialogue.partner.perform call)

end ClientSession

/-! ## Partners that answer alike -/

/-- To every request the first partner answers what the second does. -/
structure Mirrors (shows : S → T → Prop) (first : Partner S) (second : Partner T) : Prop where
  status : ∀ request : Request,
    Follows shows Escapes.none (first.status request.command) (second.status request.command)
  body : ∀ request : Request,
    Follows shows Escapes.none (first.body request.command) (second.body request.command)

namespace Mirrors

variable {shows : S → T → Prop} {first : Partner S} {second : Partner T}

theorem list (mirrors : Mirrors shows first second) (messageId : Option UInt32) :
    Follows shows Escapes.none (first.list messageId) (second.list messageId) := by
  cases messageId with
  | none => exact (mirrors.body (.list none)).andThen fun _ => .ofResult _
  | some messageId =>
      exact Follows.andThen (.ofResult _) fun _ =>
        (mirrors.status (.list (some messageId))).andThen fun _ =>
          Follows.andThen (.ofResult _) fun _ => .pure _

theorem uidl (mirrors : Mirrors shows first second) (messageId : Option UInt32) :
    Follows shows Escapes.none (first.uidl messageId) (second.uidl messageId) := by
  cases messageId with
  | none => exact (mirrors.body (.uidl none)).andThen fun _ => .ofResult _
  | some messageId =>
      exact Follows.andThen (.ofResult _) fun _ =>
        (mirrors.status (.uidl (some messageId))).andThen fun _ =>
          Follows.andThen (.ofResult _) fun _ => .pure _

theorem retr (mirrors : Mirrors shows first second) (messageId : UInt32) :
    Follows shows Escapes.none (first.retr messageId) (second.retr messageId) :=
  Follows.andThen (.ofResult _) fun _ =>
    (mirrors.body (.retr messageId)).andThen fun _ => .pure _

theorem dele (mirrors : Mirrors shows first second) (messageId : UInt32) :
    Follows shows Escapes.none (first.dele messageId) (second.dele messageId) :=
  Follows.andThen (.ofResult _) fun _ =>
    (mirrors.status (.dele messageId)).andThen fun _ => .pure _

theorem many
    {operation : UInt32 → Action Pop3Error S α}
    {ideal : UInt32 → Action Pop3Error T α}
    (follows : ∀ messageId, Follows shows Escapes.none (operation messageId) (ideal messageId))
    (ids : List UInt32) :
    Follows shows Escapes.none (Partner.many operation ids) (Partner.many ideal ids) :=
  Follows.andThen (.ofResult _) fun _ =>
    sequentially_follows (fun _ _ stuck => stuck) (fun _ _ gone => False.elim gone) follows ids

theorem fetchEach (mirrors : Mirrors shows first second) (entries : List UidlEntry) :
    Follows shows Escapes.none (first.fetchEach entries) (second.fetchEach entries) := by
  induction entries with
  | nil => exact .pure []
  | cons entry entries inductionHypothesis =>
      exact (mirrors.retr _).andThen fun _ => inductionHypothesis.andThen fun _ => .pure _

/-- What is asked of a mailbox comes to the same. -/
theorem perform
    (mirrors : Mirrors shows first second)
    {call : Call}
    (mailbox : call.isMailbox = true) :
    Follows shows Escapes.none (first.perform call) (second.perform call) := by
  cases call with
  | capa | stls | login | apop => cases mailbox
  | stat =>
      exact ((mirrors.status .stat).andThen fun _ => .ofResult _).andThen fun _ => .pure _
  | list messageId => exact (mirrors.list messageId).andThen fun _ => .pure _
  | uidl messageId => exact (mirrors.uidl messageId).andThen fun _ => .pure _
  | retr messageId => exact (mirrors.retr messageId).andThen fun _ => .pure _
  | top messageId lines =>
      exact Follows.andThen (Follows.andThen (.ofResult _) fun _ =>
        (mirrors.body (.top messageId lines)).andThen fun _ => .pure _) fun _ => .pure _
  | dele messageId => exact (mirrors.dele messageId).andThen fun _ => .pure _
  | rset => exact ((mirrors.status .rset).andThen fun _ => .pure _).andThen fun _ => .pure _
  | noop => exact ((mirrors.status .noop).andThen fun _ => .pure _).andThen fun _ => .pure _
  | retrMany ids => exact (many mirrors.retr ids).andThen fun _ => .pure _
  | deleMany ids => exact (many mirrors.dele ids).andThen fun _ => .pure _
  | unseenUids seen =>
      exact ((mirrors.uidl none).andThen fun _ => .pure _).andThen fun _ => .pure _
  | fetchUnseen seen =>
      exact (((mirrors.uidl none).andThen fun _ => .pure _).andThen fun entries =>
        mirrors.fetchEach entries).andThen fun _ => .pure _
  | pruneSeen seen =>
      exact ((mirrors.uidl none).andThen fun _ => .pure _).andThen fun _ => .pure _

end Mirrors

/-! ## Clients in a session -/

/-- The client is in this session. -/
structure Tracks (weather : Weather) (client : Pop3Client σ) (session : ClientSession σ) :
    Prop where
  shows : Shows weather client.transport session.dialogue.view
  greeting : client.greeting = session.greeting
  state : client.state = session.state
  supportsPipelining : client.supportsPipelining = session.supportsPipelining

/-- What a client that continues goes on with. -/
theorem Tracks.continue
    {weather : Weather}
    {client client' : Pop3Client σ}
    {session : ClientSession σ}
    (tracks : Tracks weather client session)
    (continues : Continues client client')
    {dialogue : Dialogue σ}
    (shows : Shows weather client'.transport dialogue.view) :
    Tracks weather client' (ClientSession.dialogueField.set dialogue session) where
  shows := shows
  greeting := continues.greeting.trans tracks.greeting
  state := continues.state.trans tracks.state
  supportsPipelining := continues.supportsPipelining.trans tracks.supportsPipelining

section Following

variable [AnsweringServer σ] {weather : Weather}

omit [AnsweringServer σ] in
/-- What is followed in sync is followed in any state of the session. -/
theorem tracks_of_inSync
    {action : TransportM σ α}
    {ideal : Action Pop3Error (Dialogue σ) α}
    (follows :
      Follows (InSync weather) (clientMishaps weather) (transportField.run action) ideal) :
    Follows (Tracks weather) (clientMishaps weather) (transportField.run action)
      (ClientSession.dialogueField.run ideal) := by
  intro session client tracks
  have twin := follows session.dialogue { client with state := .authenticated }
    ⟨tracks.shows, rfl⟩
  rw [Field.returned_run, Field.finalState_run] at twin ⊢
  rw [Field.returned_run, Field.finalState_run]
  rcases twin with ⟨same, inSync⟩ | escaped
  · exact .inl ⟨same, inSync.shows, tracks.greeting, tracks.state, tracks.supportsPipelining⟩
  · exact .inr escaped

theorem tracks_status
    {command : Str}
    (noFeed : '\n' ∉ command)
    (single : isMultiLine (utf8 command) = false) :
    Follows (Tracks weather) (clientMishaps weather) (sendAndCheck command)
      ((ClientSession.partner : Partner (ClientSession σ)).status command) := by
  have follows : Follows (InSync weather) (clientMishaps weather) (sendAndCheck command)
      (Dialogue.partner.status command : Action Pop3Error (Dialogue σ) Str) :=
    status_follows noFeed single
  rw [sendAndCheck_eq] at follows ⊢
  exact tracks_of_inSync follows

omit [AnsweringServer σ] in
/-- What has been checked may be sent. -/
theorem tracks_checked
    {text : Str}
    {next : Unit → ClientM σ α}
    {ideal : Unit → Action Pop3Error (ClientSession σ) α}
    (follows : '\n' ∉ text →
      Follows (Tracks weather) (clientMishaps weather) (next ()) (ideal ())) :
    Follows (Tracks weather) (clientMishaps weather)
      (ofResult (checkNoCrlf text) >>= next) (ofResult (checkNoCrlf text) >>= ideal) := by
  cases checked : checkNoCrlf text with
  | error error => exact .throw error
  | ok _ => exact follows (noFeed_of_checkNoCrlf checked)

omit [AnsweringServer σ] in
/-- What a lost connection stays through, a run that is gone does. -/
theorem keeps_gone
    {action : ClientM σ α}
    (keeps : Preserves (fun client => Dead client.transport) action) :
    Preserves (clientMishaps weather).gone action :=
  fun client gone => ⟨gone.1, keeps client gone.2⟩

variable (punctual : weather.late = false)

include punctual

/-- Credentials that are sent. -/
theorem tracks_credentials
    {command : Str}
    (noFeed : '\n' ∉ command)
    (single : isMultiLine (utf8 command) = false)
    {next : Str → ClientM σ Unit}
    {ideal : Str → Action Pop3Error (ClientSession σ) Unit}
    (follows : ∀ text, Follows (Tracks weather) (clientMishaps weather) (next text) (ideal text))
    (keeps : ∀ text, Preserves (fun client => Dead client.transport) (next text)) :
    Follows (Tracks weather) (clientMishaps weather)
      (mapError authError (sendAndCheck command) >>= next)
      (mapError authError (ClientSession.partner.status command) >>= ideal) :=
  .bind ((tracks_status noFeed single).mapError (neverStuck_of_punctual punctual)) follows
    fun text => keeps_gone (keeps text)

variable (isClear : ∀ (server : σ) command, (AnsweringServer.answer server command).2.IsClear)

include isClear

omit punctual in
theorem tracks_capa :
    Follows (Tracks weather) (clientMishaps weather) Pop3Client.capa
      (ClientSession.partner : Partner (ClientSession σ)).capa := by
  have follows : Follows (InSync weather) (clientMishaps weather) _
      (Dialogue.partner.body "CAPA".toList : Action Pop3Error (Dialogue σ) Str) :=
    (talks_dialogue weather isClear).body "CAPA".toList (by decide) (by decide)
  have whole : (do
        let _ ← sendAndCheck "CAPA".toList
        readBody : ClientM σ Str) =
      transportField.run ((do
        Transport.sendCommand "CAPA".toList
        let line ← Transport.readLine
        ofResult (parseStatusLine line) : TransportM σ Str) >>= fun _ =>
          Transport.readMultiline) := by
    rw [sendAndCheck_eq]
    exact (Field.run_bind transportField _ _).symm
  rw [whole] at follows
  have tracks := (tracks_of_inSync follows).bind
    (fun body => .pure (parseCapa body)) fun _ => .pure _
  rwa [← whole, bind_assoc] at tracks

theorem tracks_authenticated :
    Follows (Tracks weather) (clientMishaps weather) Pop3Client.authenticated
      (ClientSession.authenticated : Action Pop3Error (ClientSession σ) Unit) := by
  refine .bind (.modify fun _ _ tracks => ?_) (fun _ => ?_) fun _ => keeps_gone
    (.bind (.attempt (program_capa.preserves survivesSteps_dead)) fun _ =>
      .modify fun _ dead => dead)
  · exact ⟨tracks.shows, tracks.greeting, rfl, tracks.supportsPipelining⟩
  refine .bind ((tracks_capa isClear).attempt (neverStuck_of_punctual punctual)) (fun probe => ?_)
    fun _ => keeps_gone (.modify fun _ dead => dead)
  exact .modify fun _ _ tracks => ⟨tracks.shows, tracks.greeting, tracks.state, rfl⟩

theorem tracks_login (username password : Str) :
    Follows (Tracks weather) (clientMishaps weather) (Pop3Client.login username password)
      (ClientSession.login username password : Action Pop3Error (ClientSession σ) Unit) := by
  rw [ClientSession.login, ClientSession.require, bind_assoc]
  refine .gets_bind_same (fun _ _ tracks => tracks.state) fun _ => ?_
  refine .bind (.ofResult _) (fun _ => ?_) fun _ => keeps_gone ?_
  · refine tracks_checked fun noFeedUser => tracks_checked fun noFeedPass => ?_
    refine tracks_credentials punctual (by simp [noFeedUser]) (isMultiLine_user _)
      (fun _ => ?_) fun _ => ?_
    · exact tracks_credentials punctual (by simp [noFeedPass]) (isMultiLine_pass _)
        (fun _ => tracks_authenticated punctual isClear)
        fun _ => preserves_authenticated survivesSteps_dead
    · exact .bind (.mapError ((program_sendAndCheck _).preserves survivesSteps_dead)) fun _ =>
        preserves_authenticated survivesSteps_dead
  · exact .bind (.ofResult _) fun _ => .bind (.ofResult _) fun _ =>
      .bind (.mapError ((program_sendAndCheck _).preserves survivesSteps_dead)) fun _ =>
        .bind (.mapError ((program_sendAndCheck _).preserves survivesSteps_dead)) fun _ =>
          preserves_authenticated survivesSteps_dead

variable [Md5]

theorem tracks_apop (username password : Str) :
    Follows (Tracks weather) (clientMishaps weather) (Pop3Client.apop username password)
      (ClientSession.apop username password : Action Pop3Error (ClientSession σ) Unit) := by
  rw [ClientSession.apop, ClientSession.require, bind_assoc]
  refine .gets_bind_same (fun _ _ tracks => tracks.state) fun _ => ?_
  refine .bind (.ofResult _) (fun _ => ?_) fun _ => keeps_gone ?_
  · refine tracks_checked fun noFeedUser => tracks_checked fun _ => ?_
    refine .gets_bind_same (fun _ _ tracks => tracks.greeting) fun _ => ?_
    refine .bind (.ofResult _) (fun timestamp => ?_) fun _ => keeps_gone ?_
    · have noFeedDigest : '\n' ∉ computeApopDigest timestamp password :=
        noFeed_of_isHex (Md5.isHex _)
      refine tracks_credentials punctual (by simp [noFeedUser, noFeedDigest]) ?_
        (fun _ => tracks_authenticated punctual isClear)
        fun _ => preserves_authenticated survivesSteps_dead
      rw [List.append_assoc, List.append_assoc]
      exact isMultiLine_apop _
    · exact .bind (.mapError ((program_sendAndCheck _).preserves survivesSteps_dead)) fun _ =>
        preserves_authenticated survivesSteps_dead
  · exact .bind (.ofResult _) fun _ => .bind (.ofResult _) fun _ => .bind (.gets _) fun _ =>
      .bind (.ofResult _) fun _ =>
        .bind (.mapError ((program_sendAndCheck _).preserves survivesSteps_dead)) fun _ =>
          preserves_authenticated survivesSteps_dead

/-- A command for the mailbox is refused until the session is authenticated. -/
theorem tracks_mailbox
    {call : Call}
    (mailbox : call.isMailbox = true) :
    Follows (Tracks weather) (clientMishaps weather) (call.run : ClientM σ Value)
      (do
        ClientSession.require .authenticated
        ClientSession.dialogueField.run (Dialogue.partner.perform call)) := by
  have command := Call.isCommand_of_isMailbox mailbox
  intro session client tracks
  by_cases authenticated : session.state = .authenticated
  · have passes : ClientSession.require .authenticated session = .ok () session := by
      rw [ClientSession.require, gets_bind_apply, authenticated]
      rfl
    rw [bind_of_ok passes, Field.returned_run, Field.finalState_run]
    have inSync : InSync weather client session.dialogue :=
      ⟨tracks.shows, tracks.state.trans authenticated⟩
    rcases call.follows punctual isClear command session.dialogue client inSync with
      ⟨same, inSync'⟩ | escaped
    · exact .inl ⟨same, tracks.continue ((call.program_run command).continues client)
        inSync'.shows⟩
    · exact .inr escaped
  · have refused : ClientSession.require .authenticated session =
        .error .notAuthenticated session := by
      rw [ClientSession.require, gets_bind_apply, if_pos authenticated]
      rfl
    rw [bind_of_error refused,
      Call.run_of_ne_authenticated mailbox (tracks.state ▸ authenticated)]
    exact .inl ⟨rfl, tracks⟩

/-- In a session every call but an upgrade does what it comes to. -/
theorem Call.tracks_run {call : Call} (noUpgrade : call.upgrades = false) :
    Follows (Tracks weather) (clientMishaps weather) (call.run : ClientM σ Value)
      (ClientSession.perform call) := by
  cases call with
  | stls hostname => cases noUpgrade
  | login username password =>
      exact (tracks_login punctual isClear username password).bind (fun _ => .pure _)
        fun _ => .pure _
  | apop username password =>
      exact (tracks_apop punctual isClear username password).bind (fun _ => .pure _)
        fun _ => .pure _
  | capa => exact (tracks_capa isClear).bind (fun _ => .pure _) fun _ => .pure _
  | _ => exact tracks_mailbox punctual isClear rfl

end Following

end Pop3
