import Pop3.Parsing.Listings
import Pop3.Parsing.Status
import Pop3.Session.Protocol

/-!
# Accounts

A mailbox behind a login.  The server greets, lists its capabilities to everybody, lets
the connection be upgraded, and gives the mailbox to whoever shows its credentials;
`QUIT` removes the marked messages.  Every call of a session with such a server comes
to what a visitor of the account may expect.
-/

namespace Pop3

open Rust Framing Pop3Client

/-! ## The account and its server -/

/-- What a server knows of an account before anybody has logged in. -/
structure Account where
  username : Str
  password : Str
  /-- The text of the greeting. -/
  greeting : Line
  /-- The timestamp in the greeting, if the server offers `APOP`. -/
  timestamp : Option Str
  isStamped : ∀ stamp, timestamp = some stamp ↔ IsTimestamp (trimStart greeting.text) stamp
  /-- The lines of the capability list, and what they say. -/
  listing : List Line
  capabilities : List Capability
  lists : List.Forall₂ (fun line capability => IsCapability line.text capability)
    listing capabilities
  /-- The server agrees to `STLS`. -/
  offersUpgrade : Bool := false
  /-- How a handshake with the server ends that is begun under a name. -/
  handshake : Str → Handshake := fun _ => .completes
  /-- The texts behind `+OK` and `-ERR`. -/
  positive : Line
  negative : Line

/-- The argument of the `APOP` command that opens the account. -/
def Account.apopArgument [Md5] (account : Account) : Option Str :=
  account.timestamp.map fun timestamp =>
    account.username ++ ' ' :: Md5.hexDigest (utf8 (timestamp ++ account.password))

/-- The messages that are not marked, numbered anew. -/
def Mailbox.expunge (mailbox : Mailbox) : Mailbox where
  mails := mailbox.present.map Prod.snd
  marks := ∅
  countFits := lt_of_le_of_lt mailbox.present_sublist.length_le mailbox.countFits
  sizeFits := lt_of_le_of_lt
    ((mailbox.present_sublist.map Mail.size).sum_le_sum fun _ _ => Nat.zero_le _) mailbox.sizeFits

/-- The messages that are left when the session ends. -/
def MailServer.commit (mails : MailServer) : MailServer :=
  { mails with mailbox := mails.mailbox.expunge }

/-- The server of an account. -/
structure AccountServer where
  account : Account
  mails : MailServer
  /-- The name that `USER` has given. -/
  named : Option Str := none
  /-- Somebody has logged in. -/
  isOpen : Bool := false

/-- What is shown to open an account. -/
inductive Credential
  | user (name : Str)
  | pass (password : Str)
  | apop (argument : Str)

def Credential.parse (command : Str) : Option Credential :=
  ((stripPrefix "USER ".toList command).map user).orElse fun _ =>
    ((stripPrefix "PASS ".toList command).map pass).orElse fun _ =>
      (stripPrefix "APOP ".toList command).map apop

namespace AccountServer

variable (server : AccountServer)

/-- Access is granted, or refused. -/
def judge (valid : Bool) : AccountServer × Answer :=
  if valid then ({ server with named := none, isOpen := true },
    .granting server.account.positive [])
  else ({ server with named := none }, .refusing server.account.negative)

/-- What a server that waits for credentials does with them. -/
def authenticate [Md5] : Option Credential → AccountServer × Answer
  | some (.user name) => ({ server with named := some name }, .granting server.account.positive [])
  | some (.pass password) =>
      server.judge (server.named == some server.account.username &&
        password == server.account.password)
  | some (.apop argument) => server.judge (server.account.apopArgument == some argument)
  | none => (server, .refusing server.account.negative)

/-- The connection may be upgraded, if that is offered, and nothing said before counts then. -/
def agree : AccountServer × Answer :=
  if server.account.offersUpgrade then
    ({ server with named := none }, .granting server.account.positive [])
  else (server, .refusing server.account.negative)

/-- What an open account does with a command. -/
def serve (command : List UInt8) : AccountServer × Answer :=
  let (mails, answer) := AnsweringServer.answer server.mails command
  ({ server with mails }, answer)

/-- The session ends. -/
def retire : AccountServer :=
  if server.isOpen then { server with mails := server.mails.commit } else server

/-- Everybody is told the capabilities, and may leave. -/
def answer [Md5] (command : List UInt8) : AccountServer × Answer :=
  if command = utf8 "CAPA".toList then
    (server, .granting server.account.positive server.account.listing)
  else if command = utf8 "QUIT".toList then
    (server.retire, .granting server.account.positive [])
  else if server.isOpen then server.serve command
  else if command = utf8 "STLS".toList then server.agree
  else server.authenticate ((fromUtf8 command).bind Credential.parse)

instance [Md5] : AnsweringServer AccountServer where
  answer server := server.answer

end AccountServer

/-! ## What a user may expect -/

/-- An account in a session. -/
structure Visit where
  mails : MailServer
  isOpen : Bool := false
  supportsPipelining : Bool := false
  /-- What the session goes over: the placeholder, if a handshake has failed. -/
  stream : InnerStream := .plain

/-- The mailbox of an open account. -/
def Visit.mailsField : Field Visit MailServer where
  get := Visit.mails
  set mails visit := { visit with mails }
  get_set _ _ := rfl
  set_get _ := rfl
  set_set _ _ _ := rfl

namespace Account

variable (account : Account)

/-- The error for credentials that are not accepted. -/
def rejection : Pop3Error :=
  match mappedError (trimStart account.negative.text) with
  | .serverError message => .authFailed message
  | other => other

def offersPipelining : Bool :=
  account.capabilities.any fun capability => capability.name == "PIPELINING".toList

/-- Without a stream nothing can be asked. -/
def reach : Action Pop3Error Visit Unit := do
  let stream ← gets Visit.stream
  ofResult (if stream = .upgrading then .error (.io upgradingError) else .ok ())

/-- Open the account to whoever is entitled. -/
def enter (entitled : Bool) : Action Pop3Error Visit Value := do
  reach
  if entitled then
    modify fun visit => { visit with
      isOpen := true
      supportsPipelining := account.offersPipelining }
    return .done
  else throw account.rejection

/-- What may be upgraded is neither open nor encrypted. -/
def mayUpgrade : Action Pop3Error Visit Unit := do
  let isOpen ← gets Visit.isOpen
  ofResult (if isOpen then
    .error (.serverError "STLS not allowed after authentication (RFC 2595)".toList) else .ok ())
  let stream ← gets Visit.stream
  ofResult (if stream = .tls then
    .error (.serverError "connection is already encrypted".toList) else .ok ())

/-- A handshake replaces the stream, or takes it away. -/
def shake (hostname : Str) : Action Pop3Error Visit Value :=
  match account.handshake hostname with
  | .completes => do
      modify fun visit => { visit with stream := .tls }
      return .done
  | .invalidDnsName message => do
      modify fun visit => { visit with stream := .upgrading }
      throw (.invalidDnsName message)
  | .fails message => do
      modify fun visit => { visit with stream := .upgrading }
      throw (.tls message)

/-- The session must be authenticated, or must not. -/
def mustBe (isOpen : Bool) : Action Pop3Error Visit Unit := do
  let current ← gets Visit.isOpen
  ofResult (if current = isOpen then .ok () else .error .notAuthenticated)

/-- What a call comes to for a visitor. -/
def perform [Md5] : Call → Action Pop3Error Visit Value
  | .login username password => do
      mustBe false
      ofResult (checkNoCrlf username)
      ofResult (checkNoCrlf password)
      account.enter (username == account.username && password == account.password)
  | .apop username password => do
      mustBe false
      ofResult (checkNoCrlf username)
      ofResult (checkNoCrlf password)
      match account.timestamp with
      | none => throw (.serverError
          "server does not support APOP (no timestamp in greeting)".toList)
      | some timestamp =>
          account.enter (username == account.username &&
            Md5.hexDigest (utf8 (timestamp ++ password)) ==
              Md5.hexDigest (utf8 (timestamp ++ account.password)))
  | .stls hostname => do
      mayUpgrade
      reach
      if account.offersUpgrade then account.shake hostname
      else throw (mappedError (trimStart account.negative.text))
  | .capa => do
      reach
      return .capabilities account.capabilities
  | call => do
      mustBe true
      Visit.mailsField.run (MailServer.perform call)

/-- At the end of a session the messages are removed that are marked in an open account. -/
def leave : Action Pop3Error Visit Unit := do
  reach
  modify fun visit =>
    if visit.isOpen then { visit with mails := visit.mails.commit } else visit

/-- What each of a sequence of calls returns, and the account after it. -/
def runs [Md5] : List Call → Visit → List (Except Pop3Error Value × Visit)
  | [], _ => []
  | call :: calls, visit =>
      let result := account.perform call visit
      (returned result, finalState result) :: runs calls (finalState result)

/-- The account after a sequence of calls. -/
def runAll [Md5] (calls : List Call) (visit : Visit) : Visit :=
  calls.foldl (fun visit call => finalState (account.perform call visit)) visit

section Visiting

variable {account : Account} {visit : Visit} {isOpen : Bool}

theorem mustBe_of_eq (same : visit.isOpen = isOpen) : mustBe isOpen visit = .ok () visit := by
  rw [mustBe, gets_bind_apply, if_pos same]
  rfl

theorem mustBe_of_ne (other : visit.isOpen ≠ isOpen) :
    mustBe isOpen visit = .error .notAuthenticated visit := by
  rw [mustBe, gets_bind_apply, if_neg other]
  rfl

theorem reach_of_ne (usable : visit.stream ≠ .upgrading) : reach visit = .ok () visit := by
  rw [reach, gets_bind_apply, if_neg usable]
  rfl

theorem reach_of_eq (gone : visit.stream = .upgrading) :
    reach visit = .error (.io upgradingError) visit := by
  rw [reach, gets_bind_apply, if_pos gone]
  rfl

/-- Entering the account opens it, or changes nothing. -/
theorem preserves_enter
    {kept : Visit → Prop}
    (opens : ∀ visit, kept visit → kept { visit with
      isOpen := true
      supportsPipelining := account.offersPipelining })
    (entitled : Bool) :
    Preserves kept (account.enter entitled) := by
  refine .bind (.bind (.gets _) fun _ => .ofResult _) fun _ => ?_
  cases entitled with
  | false => exact .throw _
  | true => exact .bind (.modify opens) fun _ => .pure _

/-- A handshake concerns nothing but the stream. -/
theorem preserves_shake
    {kept : Visit → Prop}
    (replaces : ∀ visit stream, kept visit → kept { visit with stream })
    (hostname : Str) :
    Preserves kept (account.shake hostname) := by
  unfold shake
  split
  · exact .bind (.modify fun visit holds => replaces visit _ holds) fun _ => .pure _
  · exact .bind (.modify fun visit holds => replaces visit _ holds) fun _ => .throw _
  · exact .bind (.modify fun visit holds => replaces visit _ holds) fun _ => .throw _

variable [Md5] {call : Call}

/-- What is asked of the mailbox. -/
theorem perform_of_isMailbox (mailbox : call.isMailbox = true) :
    account.perform call = (do
      mustBe true
      Visit.mailsField.run (MailServer.perform call)) := by
  cases call with
  | capa | stls | login | apop => cases mailbox
  | _ => rfl

/-- What entering the account, a handshake and the mailbox keep, every call keeps. -/
theorem preserves_perform
    {kept : Visit → Prop}
    (entering : ∀ entitled, Preserves kept (account.enter entitled))
    (shaking : call.upgrades = true → ∀ hostname, Preserves kept (account.shake hostname))
    (asking : call.isMailbox = true → ∀ visit mails, kept visit → kept { visit with mails }) :
    Preserves kept (account.perform call) := by
  have checks : ∀ isOpen, Preserves kept (mustBe isOpen) := fun _ =>
    .bind (.gets _) fun _ => .ofResult _
  have reaches : Preserves kept reach := .bind (.gets _) fun _ => .ofResult _
  cases call with
  | login username password =>
      exact .bind (checks _) fun _ => .bind (.ofResult _) fun _ => .bind (.ofResult _) fun _ =>
        entering _
  | apop username password =>
      refine .bind (checks _) fun _ => .bind (.ofResult _) fun _ => .bind (.ofResult _) fun _ => ?_
      cases account.timestamp with
      | none => exact .throw _
      | some timestamp => exact entering _
  | stls hostname =>
      have allows : Preserves kept mayUpgrade := .bind (.gets _) fun _ => .bind (.ofResult _)
        fun _ => .bind (.gets _) fun _ => .ofResult _
      refine .bind allows fun _ => .bind reaches fun _ => ?_
      split
      · exact shaking rfl hostname
      · exact .throw _
  | capa => exact .bind reaches fun _ => .pure _
  | _ =>
      refine .bind (checks _) fun _ visit holds => ?_
      rw [Field.finalState_run]
      exact asking rfl visit _ holds

/-- Nothing that is called on an open account closes it. -/
theorem isOpen_perform (opened : visit.isOpen = true) (call : Call) :
    (finalState (account.perform call visit)).isOpen = true := by
  have keeps : Preserves (fun visit : Visit => visit.isOpen = true) (account.perform call) :=
    preserves_perform (preserves_enter fun _ _ => rfl)
      (fun _ => preserves_shake fun _ _ opened => opened) fun _ _ _ opened => opened
  exact keeps visit opened

/-- Only an upgrade changes the stream. -/
theorem stream_perform (noUpgrade : call.upgrades = false) (visit : Visit) :
    (finalState (account.perform call visit)).stream = visit.stream := by
  have keeps : Preserves (fun after : Visit => after.stream = visit.stream)
      (account.perform call) :=
    preserves_perform (preserves_enter fun _ same => same)
      (fun upgrades => Bool.noConfusion (noUpgrade.symm.trans upgrades)) fun _ _ _ same => same
  exact keeps visit rfl

end Visiting

end Account

/-! ## The server refines the account -/

/-- The session is with the server of this account, as its visitor sees it. -/
structure Visits (account : Account) (session : ClientSession AccountServer) (visit : Visit) :
    Prop where
  belongs : session.dialogue.server.account = account
  mails : session.dialogue.server.mails = visit.mails
  isOpen : session.dialogue.server.isOpen = visit.isOpen
  greeting : session.greeting = trimStart account.greeting.text
  state : session.state = if visit.isOpen then .authenticated else .connected
  supportsPipelining : session.supportsPipelining = visit.supportsPipelining
  usable : visit.stream ≠ .upgrading

/-! ### Answers -/

theorem isClear_granting (text : Line) (lines : List Line) :
    (Answer.granting text lines).IsClear :=
  Answer.isClear_of_lines rfl

theorem isClear_refusing (text : Line) : (Answer.refusing text).IsClear :=
  Answer.isClear_of_lines (List.map_nil).symm

namespace Credential

theorem parse_user (name : Str) :
    parse ("USER ".toList ++ name) = some (.user name) := by
  rw [parse, stripPrefix_append]
  rfl

theorem parse_pass (password : Str) :
    parse ("PASS ".toList ++ password) = some (.pass password) := by
  have other : stripPrefix "USER ".toList ("PASS ".toList ++ password) = none :=
    stripPrefix_eq_none (by simp)
  rw [parse, other, stripPrefix_append]
  rfl

theorem parse_apop (argument : Str) :
    parse ("APOP ".toList ++ argument) = some (.apop argument) := by
  have notUser : stripPrefix "USER ".toList ("APOP ".toList ++ argument) = none :=
    stripPrefix_eq_none (by simp)
  have notPass : stripPrefix "PASS ".toList ("APOP ".toList ++ argument) = none :=
    stripPrefix_eq_none (by simp)
  rw [parse, notUser, notPass, stripPrefix_append]
  rfl

end Credential

namespace AccountServer

variable {server : AccountServer}

theorem isClear_judge (valid : Bool) : (server.judge valid).2.IsClear := by
  cases valid with
  | false => exact isClear_refusing _
  | true => exact isClear_granting _ _

variable [Md5]

theorem isClear (server : AccountServer) (command : List UInt8) :
    (AnsweringServer.answer server command).2.IsClear := by
  change (server.answer command).2.IsClear
  unfold answer
  split
  · exact isClear_granting _ _
  split
  · exact isClear_granting _ _
  split
  · exact MailServer.isClear _ _
  split
  · unfold agree
    split
    · exact isClear_granting _ _
    · exact isClear_refusing _
  · cases (fromUtf8 command).bind Credential.parse with
    | none => exact isClear_refusing _
    | some credential =>
        cases credential with
        | user name => exact isClear_granting _ _
        | pass password => exact isClear_judge _
        | apop argument => exact isClear_judge _

theorem answer_capa (server : AccountServer) :
    AnsweringServer.answer server (utf8 "CAPA".toList) =
      (server, .granting server.account.positive server.account.listing) := by
  change server.answer _ = _
  rw [answer, if_pos rfl]

theorem answer_quit (server : AccountServer) :
    AnsweringServer.answer server (utf8 "QUIT".toList) =
      (server.retire, .granting server.account.positive []) := by
  have other : utf8 "QUIT".toList ≠ utf8 "CAPA".toList := by decide
  change server.answer _ = _
  rw [answer, if_neg other, if_pos rfl]

/-- A server that is not open waits for credentials. -/
theorem answer_closed
    (closed : server.isOpen = false)
    {command : Str}
    {credential : Credential}
    (parsed : Credential.parse command = some credential) :
    AnsweringServer.answer server (utf8 command) = server.authenticate (some credential) := by
  have notCapa : utf8 command ≠ utf8 "CAPA".toList := by
    intro same
    obtain rfl := utf8_injective same
    cases parsed
  have notQuit : utf8 command ≠ utf8 "QUIT".toList := by
    intro same
    obtain rfl := utf8_injective same
    cases parsed
  have notStls : utf8 command ≠ utf8 "STLS".toList := by
    intro same
    obtain rfl := utf8_injective same
    cases parsed
  change server.answer (utf8 command) = _
  rw [answer, if_neg notCapa, if_neg notQuit, closed, if_neg Bool.false_ne_true, if_neg notStls,
    fromUtf8_utf8, Option.bind_some, parsed]

/-- A server that is not open agrees to an upgrade, or does not. -/
theorem answer_stls (closed : server.isOpen = false) :
    AnsweringServer.answer server (utf8 "STLS".toList) = server.agree := by
  have notCapa : utf8 "STLS".toList ≠ utf8 "CAPA".toList := by decide
  have notQuit : utf8 "STLS".toList ≠ utf8 "QUIT".toList := by decide
  change server.answer _ = _
  rw [answer, if_neg notCapa, if_neg notQuit, closed, if_neg Bool.false_ne_true, if_pos rfl]

/-- An open account does what its mailbox does. -/
theorem answer_open
    (isOpen : server.isOpen = true)
    {command : List UInt8}
    (notCapa : command ≠ utf8 "CAPA".toList)
    (notQuit : command ≠ utf8 "QUIT".toList) :
    AnsweringServer.answer server command =
      ({ server with mails := (AnsweringServer.answer server.mails command).1 },
        (AnsweringServer.answer server.mails command).2) := by
  change server.answer command = _
  rw [answer, if_neg notCapa, if_neg notQuit, if_pos isOpen, serve]

end AccountServer

/-! ### The mailbox -/

theorem Request.command_ne
    {command : Str}
    (unknown : Request.parse (utf8 command) = none)
    (request : Request) :
    utf8 request.command ≠ utf8 command := by
  intro same
  rw [← same, Request.parse_command] at unknown
  cases unknown

section Visiting

variable [Md5] {account : Account}

/-- The dialogue is with the open server of this account, whose mailbox has this server. -/
structure Opens (account : Account) (dialogue : Dialogue AccountServer) (mails : MailServer) :
    Prop where
  belongs : dialogue.server.account = account
  isOpen : dialogue.server.isOpen = true
  mails : dialogue.server.mails = mails

/-- An open account answers requests as its mailbox does. -/
theorem take_opens (result : Answer → Except Pop3Error Str) (request : Request) :
    Follows (fun dialogue mirrored => Opens account dialogue mirrored.server) Escapes.none
      (Dialogue.take result request.command)
      (Dialogue.take result request.command : Action Pop3Error (Dialogue MailServer) Str) := by
  intro mirrored dialogue opens
  have notCapa := Request.command_ne parse_capa request
  have notQuit := Request.command_ne parse_quit request
  have answered := AccountServer.answer_open opens.isOpen notCapa notQuit
  rw [opens.mails] at answered
  rw [Dialogue.returned_take, Dialogue.returned_take, Dialogue.finalState_take,
    Dialogue.finalState_take]
  refine .inl ⟨?_, ?_⟩
  · simp only [Dialogue.ask, answered]
  · simp only [Dialogue.ask, answered]
    exact ⟨opens.belongs, opens.isOpen, rfl⟩

theorem mirrors_opens :
    Mirrors (fun dialogue mirrored => Opens account dialogue mirrored.server)
      (Dialogue.partner : Partner (Dialogue AccountServer))
      (Dialogue.partner : Partner (Dialogue MailServer)) :=
  ⟨take_opens _, take_opens _⟩

/-- A call on an open account comes to what it comes to on its mailbox. -/
theorem perform_opens {call : Call} (mailbox : call.isMailbox = true) :
    Follows (Opens account) Escapes.none (Dialogue.partner.perform call)
      (MailServer.perform call) := by
  intro mails dialogue opens
  let mirrored : Dialogue MailServer := { server := mails }
  obtain ⟨same, opens'⟩ := (mirrors_opens.perform mailbox mirrored).of_none opens
  have starts : mirrored.server = mails := rfl
  obtain ⟨expected, server⟩ :=
    (MailServer.perform_refines call mailbox mails).of_none starts
  exact .inl ⟨same.trans expected, server ▸ opens'⟩

/-! ### Credentials -/

omit [Md5] in
/-- A positive answer to a command. -/
theorem status_of_granting [AnsweringServer σ]
    {session : ClientSession σ}
    {command : Str}
    {server : σ}
    {text : Line}
    (answered : AnsweringServer.answer session.dialogue.server (utf8 command) =
      (server, .granting text [])) :
    ∃ log, ClientSession.partner.status command session =
      .ok (trimStart text.text) { session with dialogue := { server, log } } := by
  have asked : (session.dialogue.ask command).1.statusResult = .ok (trimStart text.text) := by
    simp only [Dialogue.ask, answered]
    rfl
  have after : (session.dialogue.ask command).2.server = server := by
    simp only [Dialogue.ask, answered]
  refine ⟨(session.dialogue.ask command).2.log, ?_⟩
  refine (Field.run_of_ok (Dialogue.take_of_ok asked)).trans ?_
  rw [← after]
  rfl

omit [Md5] in
/-- A negative answer to a command. -/
theorem status_of_refusing [AnsweringServer σ]
    {session : ClientSession σ}
    {command : Str}
    {server : σ}
    {text : Line}
    (answered : AnsweringServer.answer session.dialogue.server (utf8 command) =
      (server, .refusing text)) :
    ∃ log, ClientSession.partner.status command session =
      .error (mappedError (trimStart text.text)) { session with dialogue := { server, log } } := by
  have asked : (session.dialogue.ask command).1.statusResult =
      .error (mappedError (trimStart text.text)) := by
    simp only [Dialogue.ask, answered]
    exact statusResult_refusing text
  have after : (session.dialogue.ask command).2.server = server := by
    simp only [Dialogue.ask, answered]
  refine ⟨(session.dialogue.ask command).2.log, ?_⟩
  refine (Field.run_of_error (Dialogue.take_of_error asked)).trans ?_
  rw [← after]
  rfl

omit [Md5] in
/-- A line is one capability at most. -/
theorem isCapability_unique : Relator.RightUnique IsCapability := by
  intro line first second isFirst isSecond
  obtain ⟨name, arguments⟩ := first
  obtain ⟨name', arguments'⟩ := second
  obtain ⟨rfl, rfl⟩ := List.cons_eq_cons.mp
    (isFirst.2.splitWhitespace_eq.symm.trans isSecond.2.splitWhitespace_eq)
  rfl

omit [Md5] in
/-- A capability is not blank. -/
theorem IsCapability.not_isBlank
    {line : Str}
    {capability : Capability}
    (isCapability : IsCapability line capability) :
    ¬IsBlank line := by
  intro blank
  cases (Spells.blank blank).splitWhitespace_eq.symm.trans isCapability.2.splitWhitespace_eq

omit [Md5] in
/-- The list of capabilities says what it lists. -/
theorem parseCapa_listing (account : Account) :
    parseCapa (joined (account.listing.map Line.text)) = account.capabilities := by
  have lists : List.Forall₂ IsCapability (account.listing.map Line.text) account.capabilities :=
    List.forall₂_map_left_iff.mpr account.lists
  have whole : nonBlankLines (joined (account.listing.map Line.text)) =
      account.listing.map Line.text := by
    rw [nonBlankLines, lines_joined, List.filter_eq_self]
    intro line member
    have solid := (List.forall₂_and_left _ _).mp
      (lists.imp fun _ _ isCapability => ⟨isCapability.not_isBlank, isCapability⟩)
    rw [Bool.not_eq_true', ← Bool.not_eq_true, ← isBlank_iff_all]
    exact solid.1 line member
  have parsed := parseCapa_capabilities (joined (account.listing.map Line.text))
  rw [whole] at parsed
  exact isCapability_unique.forall₂ parsed lists

/-- The probe of the capabilities is answered. -/
theorem capa_of_visits
    (session : ClientSession AccountServer)
    (belongs : session.dialogue.server.account = account) :
    ∃ log, ClientSession.partner.capa session =
      .ok account.capabilities
        { session with dialogue := { server := session.dialogue.server, log } } := by
  have answered := AccountServer.answer_capa session.dialogue.server
  have asked : (session.dialogue.ask "CAPA".toList).1.bodyResult =
      .ok (joined (account.listing.map Line.text)) := by
    simp only [Dialogue.ask, answered, belongs]
    exact bodyResult_granting _ _
  have after : (session.dialogue.ask "CAPA".toList).2.server = session.dialogue.server := by
    simp only [Dialogue.ask, answered]
  have run : ClientSession.partner.body "CAPA".toList session =
      .ok (joined (account.listing.map Line.text))
        (ClientSession.dialogueField.set (session.dialogue.ask "CAPA".toList).2 session) :=
    @Field.run_of_ok _ _ _ _ _ ClientSession.dialogueField _ _ _ (Dialogue.take_of_ok asked)
  refine ⟨(session.dialogue.ask "CAPA".toList).2.log, ?_⟩
  rw [Partner.capa, bind_of_ok run, parseCapa_listing, ← after]
  rfl

/-- Whoever is let in finds the account open. -/
theorem authenticated_of_visits
    (session : ClientSession AccountServer)
    {visit : Visit}
    (belongs : session.dialogue.server.account = account)
    (mails : session.dialogue.server.mails = visit.mails)
    (isOpen : session.dialogue.server.isOpen = true)
    (greeting : session.greeting = trimStart account.greeting.text)
    (usable : visit.stream ≠ .upgrading) :
    ∃ session', ClientSession.authenticated session = .ok () session' ∧
      Visits account session' { visit with
        isOpen := true
        supportsPipelining := account.offersPipelining } := by
  obtain ⟨log, probed⟩ := capa_of_visits { session with state := .authenticated } belongs
  let opened : ClientSession AccountServer :=
    { session with
      dialogue := { server := session.dialogue.server, log }
      state := .authenticated
      supportsPipelining := account.offersPipelining }
  refine ⟨opened, ?_, belongs, mails, isOpen, greeting, rfl, rfl, usable⟩
  rw [ClientSession.authenticated, modify_bind_apply, bind_of_ok (attempt_of_ok probed)]
  rfl

omit [Md5] in
theorem rejection_eq (account : Account) :
    account.rejection = authError (mappedError (trimStart account.negative.text)) := by
  rw [Account.rejection]
  cases mappedError (trimStart account.negative.text) <;> rfl

/-- What the server decides on the last credential decides the login. -/
theorem enters
    {session : ClientSession AccountServer}
    {visit : Visit}
    (visits : Visits account session visit)
    (closed : visit.isOpen = false)
    {command : Str}
    {credential : Credential}
    (parsed : Credential.parse command = some credential)
    {entitled : Bool}
    (judged : session.dialogue.server.authenticate (some credential) =
      session.dialogue.server.judge entitled) :
    ∃ session', (do
        let _ ← mapError authError (ClientSession.partner.status command)
        ClientSession.authenticated
        return Value.done : Action Pop3Error (ClientSession AccountServer) Value) session =
          Dialogue.moved (fun _ => session') (account.enter entitled visit) ∧
      Visits account session' (finalState (account.enter entitled visit)) := by
  have answered := AccountServer.answer_closed (visits.isOpen.trans closed) parsed
  rw [judged, AccountServer.judge] at answered
  rw [Account.enter, bind_of_ok (Account.reach_of_ne visits.usable)]
  cases entitled with
  | false =>
      obtain ⟨log, run⟩ := status_of_refusing answered
      rw [visits.belongs] at run
      refine ⟨{ session with dialogue := ⟨{ session.dialogue.server with named := none }, log⟩ },
        ?_, ⟨visits.belongs, visits.mails, visits.isOpen, visits.greeting, visits.state,
          visits.supportsPipelining, visits.usable⟩⟩
      rw [bind_of_error (mapError_of_error run), ← rejection_eq]
      simp only [visits.belongs]
      rfl
  | true =>
      obtain ⟨log, run⟩ := status_of_granting answered
      obtain ⟨session', authenticated, visits'⟩ := authenticated_of_visits
        { session with dialogue := ⟨{ session.dialogue.server with
          named := none, isOpen := true }, log⟩ }
        visits.belongs visits.mails rfl visits.greeting visits.usable
      refine ⟨session', ?_, visits'⟩
      rw [bind_of_ok (mapError_of_ok run), bind_of_ok authenticated]
      rfl

omit [Md5] in
/-- The checks before any credentials are sent. -/
theorem visits_of_checks
    {username password : Str}
    {next : Action Pop3Error (ClientSession AccountServer) Value}
    {ideal : Action Pop3Error Visit Value}
    (rest : ∀ session visit, Visits account session visit → visit.isOpen = false →
      ∃ session', next session = Dialogue.moved (fun _ => session') (ideal visit) ∧
        Visits account session' (finalState (ideal visit))) :
    Follows (Visits account) Escapes.none
      (do
        ClientSession.require .connected
        ofResult (checkNoCrlf username)
        ofResult (checkNoCrlf password)
        next)
      (do
        Account.mustBe false
        ofResult (checkNoCrlf username)
        ofResult (checkNoCrlf password)
        ideal) := by
  intro visit session visits
  have state := visits.state
  cases isOpen : visit.isOpen with
  | true =>
      rw [isOpen, if_pos rfl] at state
      have refused : ClientSession.require .connected session =
          .error .notAuthenticated session := by
        rw [ClientSession.require, gets_bind_apply, state]
        rfl
      have refused' := Account.mustBe_of_ne
        (isOpen.trans_ne Bool.noConfusion : visit.isOpen ≠ false)
      rw [bind_of_error refused, bind_of_error refused']
      exact .inl ⟨rfl, visits⟩
  | false =>
      rw [isOpen, if_neg Bool.false_ne_true] at state
      have passes : ClientSession.require .connected session = .ok () session := by
        rw [ClientSession.require, gets_bind_apply, state]
        rfl
      rw [bind_of_ok passes, bind_of_ok (Account.mustBe_of_eq isOpen)]
      cases checkNoCrlf username with
      | error error => exact .inl ⟨rfl, visits⟩
      | ok _ =>
          rw [ofResult_ok_bind, ofResult_ok_bind]
          cases checkNoCrlf password with
          | error error => exact .inl ⟨rfl, visits⟩
          | ok _ =>
              rw [ofResult_ok_bind, ofResult_ok_bind]
              obtain ⟨session', run, visits'⟩ := rest session visit visits isOpen
              rw [run, Dialogue.returned_moved, Dialogue.finalState_moved]
              exact .inl ⟨rfl, visits'⟩

theorem login_visits (username password : Str) :
    Follows (Visits account) Escapes.none (ClientSession.perform (.login username password))
      (account.perform (.login username password)) := by
  simp only [ClientSession.perform, ClientSession.login, bind_assoc]
  refine visits_of_checks fun session visit visits closed => ?_
  have named := AccountServer.answer_closed (visits.isOpen.trans closed)
    (Credential.parse_user username)
  obtain ⟨log, run⟩ := status_of_granting named
  rw [bind_of_ok (mapError_of_ok run)]
  have visits' : Visits account { session with
      dialogue := ⟨{ session.dialogue.server with named := some username }, log⟩ } visit :=
    ⟨visits.belongs, visits.mails, visits.isOpen, visits.greeting, visits.state,
      visits.supportsPipelining, visits.usable⟩
  refine enters visits' closed (Credential.parse_pass password) ?_
  simp only [AccountServer.authenticate, visits.belongs, Option.some_beq_some]

omit [Md5] in
/-- The client finds the timestamp of the greeting. -/
theorem extractApopTimestamp_greeting (account : Account) :
    extractApopTimestamp (trimStart account.greeting.text) = account.timestamp := by
  cases stamped : account.timestamp with
  | some timestamp =>
      exact extractApopTimestamp_eq_some_iff.mpr ((account.isStamped timestamp).mp stamped)
  | none =>
      rw [Option.eq_none_iff_forall_ne_some]
      intro timestamp extracted
      have known := (account.isStamped timestamp).mpr
        (extractApopTimestamp_eq_some_iff.mp extracted)
      cases stamped.symm.trans known

omit [Md5] in
/-- Two texts without the delimiter behind one are the same. -/
theorem delimiter_append_inj
    {delimiter : Char}
    {left right after after' : Str}
    (afterFree : delimiter ∉ after)
    (afterFree' : delimiter ∉ after')
    (same : left ++ delimiter :: after = right ++ delimiter :: after') :
    left = right ∧ after = after' := by
  have reversed : after.reverse ++ delimiter :: left.reverse =
      after'.reverse ++ delimiter :: right.reverse := by
    simpa using congrArg List.reverse same
  obtain ⟨afters, befores⟩ := append_delimiter_inj (by simpa using afterFree)
    (by simpa using afterFree') reversed
  exact ⟨List.reverse_injective befores, List.reverse_injective afters⟩

/-- The argument of `APOP` is right if the name and the digest are. -/
theorem apopArgument_beq
    {timestamp : Str}
    (stamped : account.timestamp = some timestamp)
    (username password : Str) :
    (account.apopArgument == some (username ++ ' ' :: computeApopDigest timestamp password)) =
      (username == account.username &&
        Md5.hexDigest (utf8 (timestamp ++ password)) ==
          Md5.hexDigest (utf8 (timestamp ++ account.password))) := by
  have noSpace : ∀ input, ' ' ∉ Md5.hexDigest input :=
    fun input member => absurd (Md5.isHex input _ member) (by decide)
  rw [Bool.eq_iff_iff, Account.apopArgument, stamped, Option.map_some, beq_iff_eq,
    Option.some.injEq, Bool.and_eq_true, beq_iff_eq, beq_iff_eq, computeApopDigest]
  constructor
  · intro same
    obtain ⟨names, digests⟩ := delimiter_append_inj (noSpace _) (noSpace _) same
    exact ⟨names.symm, digests.symm⟩
  · rintro ⟨rfl, digests⟩
    rw [digests]

theorem apop_visits (username password : Str) :
    Follows (Visits account) Escapes.none (ClientSession.perform (.apop username password))
      (account.perform (.apop username password)) := by
  simp only [ClientSession.perform, ClientSession.apop, bind_assoc]
  refine visits_of_checks fun session visit visits closed => ?_
  rw [gets_bind_apply, visits.greeting, extractApopTimestamp_greeting]
  cases stamped : account.timestamp with
  | none => exact ⟨session, rfl, visits⟩
  | some timestamp =>
      rw [okOr, ofResult_ok_bind]
      have command : "APOP ".toList ++ username ++ " ".toList ++
          computeApopDigest timestamp password =
          "APOP ".toList ++ (username ++ ' ' :: computeApopDigest timestamp password) := by
        simp
      rw [command]
      refine enters visits closed (Credential.parse_apop _) ?_
      rw [AccountServer.authenticate, visits.belongs, apopArgument_beq stamped]

/-- A call on the mailbox of an account. -/
theorem mailbox_visits {call : Call} (mailbox : call.isMailbox = true) :
    Follows (Visits account) Escapes.none
      (do
        ClientSession.require .authenticated
        ClientSession.dialogueField.run (Dialogue.partner.perform call))
      (do
        Account.mustBe true
        Visit.mailsField.run (MailServer.perform call)) := by
  intro visit session visits
  have state := visits.state
  cases isOpen : visit.isOpen with
  | false =>
      rw [isOpen, if_neg Bool.false_ne_true] at state
      have refused : ClientSession.require .authenticated session =
          .error .notAuthenticated session := by
        rw [ClientSession.require, gets_bind_apply, state]
        rfl
      have refused' := Account.mustBe_of_ne (isOpen.trans_ne Bool.noConfusion : visit.isOpen ≠ true)
      rw [bind_of_error refused, bind_of_error refused']
      exact .inl ⟨rfl, visits⟩
  | true =>
      rw [isOpen, if_pos rfl] at state
      have passes : ClientSession.require .authenticated session = .ok () session := by
        rw [ClientSession.require, gets_bind_apply, state]
        rfl
      rw [bind_of_ok passes, bind_of_ok (Account.mustBe_of_eq isOpen), Field.returned_run,
        Field.returned_run, Field.finalState_run, Field.finalState_run]
      have opened : Opens account session.dialogue visit.mails :=
        ⟨visits.belongs, visits.isOpen.trans isOpen, visits.mails⟩
      obtain ⟨same, opens⟩ := (perform_opens mailbox visit.mails).of_none opened
      exact .inl ⟨same, opens.belongs, opens.mails, opens.isOpen.trans isOpen.symm,
        visits.greeting, visits.state, visits.supportsPipelining, visits.usable⟩

/-- Every call but an upgrade comes to what its visitor may expect. -/
theorem perform_visits {call : Call} (noUpgrade : call.upgrades = false) :
    Follows (Visits account) Escapes.none (ClientSession.perform call) (account.perform call) := by
  cases call with
  | stls hostname => cases noUpgrade
  | login username password => exact login_visits username password
  | apop username password => exact apop_visits username password
  | capa =>
      intro visit session visits
      obtain ⟨log, run⟩ := capa_of_visits session visits.belongs
      rw [ClientSession.perform, bind_of_ok run, Account.perform,
        bind_of_ok (Account.reach_of_ne visits.usable)]
      exact .inl ⟨rfl, visits.belongs, visits.mails, visits.isOpen, visits.greeting, visits.state,
        visits.supportsPipelining, visits.usable⟩
  | _ => exact mailbox_visits rfl

end Visiting

end Pop3
