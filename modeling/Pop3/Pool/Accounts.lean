import Pop3.Pool.Commands
import Pop3.Reconnecting.Accounts

/-!
# Pools of accounts

The holders of a pooled connection, one after another, are in one and the same session with
the account.  As none of them can end it, no message is ever removed.
-/

namespace Pop3

open Rust Framing Pop3Client

/-! ## What removes no message -/

/-- Whatever is granted, no message is removed. -/
theorem MailServer.mails_of_granted
    {server : MailServer}
    {command : List UInt8}
    {given : Line × List Line}
    {mailbox : Mailbox}
    (granted : server.granted command = some (given, mailbox)) :
    mailbox.mails = server.mailbox.mails := by
  unfold MailServer.granted at granted
  cases parsed : Request.parse command with
  | none =>
      rw [parsed] at granted
      cases granted
  | some request =>
      rw [parsed] at granted
      obtain ⟨_, _, same⟩ := Option.map_eq_some_iff.mp granted
      obtain ⟨_, rfl⟩ := Prod.mk.inj same
      cases request <;> rfl

/-- A mailbox server marks messages, and removes none. -/
theorem MailServer.mails_answer (server : MailServer) (command : List UInt8) :
    (AnsweringServer.answer server command).1.mailbox.mails = server.mailbox.mails := by
  unfold AnsweringServer.answer instAnsweringServer
  dsimp only
  split
  · rename_i granted
    exact mails_of_granted granted
  · rfl

section Removing

variable [Md5] {server : AccountServer}

/-- The server of an account removes messages only at the end of a session. -/
theorem AccountServer.mails_answer
    {command : List UInt8}
    (goesOn : command ≠ utf8 "QUIT".toList) :
    (AnsweringServer.answer server command).1.mails.mailbox.mails =
      server.mails.mailbox.mails := by
  change (server.answer command).1.mails.mailbox.mails = _
  have judged : ∀ valid, (server.judge valid).1.mails = server.mails := by
    intro valid
    cases valid <;> rfl
  unfold answer
  rw [if_neg goesOn]
  split
  · rfl
  split
  · exact MailServer.mails_answer server.mails command
  split
  · unfold agree
    split <;> rfl
  · cases (fromUtf8 command).bind Credential.parse with
    | none => rfl
    | some credential =>
        cases credential with
        | user name => rfl
        | pass password => exact congrArg (·.mailbox.mails) (judged _)
        | apop argument => exact congrArg (·.mailbox.mails) (judged _)

theorem AccountServer.mails_reactAll
    {commands : List Str}
    (goesOn : "QUIT".toList ∉ commands) :
    (Server.reactAll server (commands.map utf8)).mails.mailbox.mails =
      server.mails.mailbox.mails := by
  refine Server.reactAll_induction (motive := fun after : AccountServer =>
    after.mails.mailbox.mails = server.mails.mailbox.mails) ?_ rfl
  intro before command listed same
  obtain ⟨text, member, rfl⟩ := List.mem_map.mp listed
  refine (mails_answer fun quits => goesOn ?_).trans same
  exact utf8_injective quits ▸ member

end Removing

/-! ## Sessions of pooled connections -/

section Opening

variable [Md5] {account : Account} {client : Pop3Client AccountServer}

/-- Whoever is connected by a manager finds the account open, or has lost the connection. -/
theorem meets_connect
    {mails : MailServer}
    {dial : Dial AccountServer}
    (hosts : account.Hosts lossy mails dial)
    {manager : Pop3ConnectionManager}
    (connected : manager.connect dial = .ok client) :
    account.Meets lossy client (account.opened mails manager.builder.tlsMode.stream) ∨
      (clientMishaps lossy).gone client := by
  obtain ⟨secured, established, authenticated⟩ :=
    Pop3ConnectionManager.authenticates_of_connect connected
  have logsIn : manager.authenticating.logsIn = true := by
    unfold Pop3ConnectionManager.authenticating
    cases manager.builder.auth <;> rfl
  rcases meets_established rfl hosts established with meets | gone
  · exact (meets_login rfl logsIn authenticated meets).imp_left And.right
  · have gone' := gone_run manager.authenticating gone
    rw [authenticated] at gone'
    exact .inr gone'

/-- Calls in a session in which the account is open. -/
theorem meets_runAll
    {visit : Visit}
    (reached : account.Meets lossy client visit ∨ (clientMishaps lossy).gone client)
    {calls : List Call}
    (commands : ∀ call ∈ calls, call.isCommand = true) :
    account.Meets lossy (Call.runAll calls client) (account.runAll calls visit) ∨
      (clientMishaps lossy).gone (Call.runAll calls client) := by
  induction calls generalizing client visit with
  | nil => exact reached
  | cons call calls inductionHypothesis =>
      obtain ⟨command, rest⟩ := List.forall_mem_cons.mp commands
      refine inductionHypothesis ?_ rest
      rcases reached with meets | gone
      · exact (meets_or_gone command meets).imp_left And.right
      · exact .inr (gone_run call gone)

end Opening

namespace Pop3Pool

section Serving

variable [Md5] [ManagedBb8 π AccountServer] {account : Account}

/-- Pools whose connections may be lost at any point, and on which no deadline fires, neither
that of a read nor that which cancels a test.  If whatever a pool of an account dials is the
server of that account, then in every run, by any number of tasks in any order: no
message is removed from the mailbox of any open connection, whatever its holders call.  Unless
the connection is lost, what all its holders have called, one after another, they have called
in one session with the account, and the next holder's call returns what the account says in
this session, or loses the connection. -/
theorem serves_account
    {mails : Dial AccountServer → MailServer}
    {steps : List (PoolStep π)}
    {key : AccountKey}
    (hosts : ∀ dial, Dialed steps key dial → account.Hosts lossy (mails dial) dial)
    {client : Pop3Client AccountServer}
    (opened : (key, client) ∈ (run steps new : Pop3Pool π).clients) :
    ∃ manager : Pop3ConnectionManager, ∃ dial calls,
      PoolStep.addAccount key manager.builder manager.username manager.password ∈ steps ∧
      Dialed steps key dial ∧ (∀ call ∈ calls, call.isCommand = true) ∧
      client.transport.net.server.mails.mailbox.mails = (mails dial).mailbox.mails ∧
      let visit := account.runAll calls
        (account.opened (mails dial) manager.builder.tlsMode.stream)
      (client.transport.net.isOpen = true → Account.InTouch client visit) ∧
      ∀ call : Call, call.isCommand = true →
        (finalState (call.run client)).transport.net.isOpen = true →
        returned (call.run client) = returned (account.perform call visit) := by
  obtain ⟨manager, registered, descends⟩ := descends_run opened
  obtain ⟨dial, first, calls, dialed, connected, commands, rfl⟩ := descends.from_connect
  obtain ⟨net, greeted, answered, connects, same⟩ :=
    Pop3ConnectionManager.connects_of_connect connected
  obtain ⟨greets, within⟩ := hosts dial dialed _ _ net answered
  have reached := meets_runAll (meets_connect (hosts dial dialed) connected) commands
  refine ⟨manager, dial, calls, registered, dialed, commands, ?_, fun alive => ?_,
    fun call command alive => ?_⟩
  · obtain ⟨heard, hears⟩ := exists_hears connects within.inbound (manager.opening ++ calls)
    rw [Call.runAll_append, ← same] at hears
    rw [hears.server, AccountServer.mails_reactAll hears.quit_not_mem, greets.server]
  · exact Account.Attends.inTouch (.inl (reached.resolve_right (not_gone alive)))
  · have meets := reached.resolve_right fun gone => not_gone alive (gone_run call gone)
    exact ((meets_or_gone command meets).resolve_right (not_gone alive)).1

end Serving

end Pop3Pool

/-- Whoever dials is greeted by the server of the small account. -/
def smallAccount.dial : Dial AccountServer where
  connects _ _ := .ok {
    server := { account := smallAccount, mails := smallServer }
    wire := smallAccount.opening
    handshake := smallAccount.handshake }

/-- One task deletes a message and drops its connection, and another task obtains it. -/
def handing [Md5] (key : AccountKey) : List (PoolStep (ClientPool AccountServer)) :=
  [.addAccount key { hostname := key.host } key.username "secret".toList, .checkout key,
    .within 0 (PoolOccurrence.connects (σ := AccountServer)),
    .within 0 (PoolOccurrence.connected 0 smallAccount.dial),
    .within 0 (PoolOccurrence.checksOut (σ := AccountServer) 0),
    .within 0 (PoolOccurrence.uses (σ := AccountServer) 0 (.dele 1)),
    .within 0 (PoolOccurrence.returns (σ := AccountServer) 0), .checkout key,
    .within 0 (PoolOccurrence.checksOut (σ := AccountServer) 0)]

theorem hosts_handing
    [Md5]
    {key : AccountKey}
    {dial : Dial AccountServer}
    (dialed : Pop3Pool.Dialed (handing key) key dial) :
    smallAccount.Hosts lossy smallServer dial := by
  obtain ⟨before, number, occurrence, after, _, split, _, member⟩ := dialed
  have within : PoolStep.within number occurrence ∈ handing key := by
    rw [split]
    exact List.mem_append_right _ List.mem_cons_self
  have same : dial = smallAccount.dial := by
    simp only [handing, List.mem_cons, reduceCtorEq, false_or, PoolStep.within.injEq,
      List.not_mem_nil, or_false] at within
    rcases within with ⟨_, rfl⟩ | ⟨_, rfl⟩ | ⟨_, rfl⟩ | ⟨_, rfl⟩ | ⟨_, rfl⟩ | ⟨_, rfl⟩
    case inr.inl => exact List.mem_singleton.mp member
    all_goals cases member
  subst same
  intro _ _ net found
  obtain rfl := Except.ok.inj found
  exact ⟨⟨rfl, rfl, rfl, rfl⟩, rfl, by simp, by simp⟩

/-- The other task does not see the message, which is still there. -/
theorem serves_account_handing :
    let _ := emptyDigest
    let key : AccountKey := { host := "here".toList, port := 110, username := "me".toList }
    ∃ client : Pop3Client AccountServer,
      returned (Call.stat.run client) = .ok (.stat { messageCount := 0, mailboxSize := 0 }) ∧
      ∃ manager : Pop3ConnectionManager, ∃ dial calls,
        PoolStep.addAccount key manager.builder manager.username manager.password ∈
          handing key ∧
        Pop3Pool.Dialed (handing key) key dial ∧ (∀ call ∈ calls, call.isCommand = true) ∧
        client.transport.net.server.mails.mailbox.mails = smallMailbox.mails ∧
        let visit := smallAccount.runAll calls
          (smallAccount.opened smallServer manager.builder.tlsMode.stream)
        (client.transport.net.isOpen = true → Account.InTouch client visit) ∧
        ∀ call : Call, call.isCommand = true →
          (finalState (call.run client)).transport.net.isOpen = true →
          returned (call.run client) = returned (smallAccount.perform call visit) := by
  let _ := emptyDigest
  let key : AccountKey := { host := "here".toList, port := 110, username := "me".toList }
  have held : (Pop3Pool.run (handing key) Pop3Pool.new).clients.map
      (fun entry => (entry.1, returned (Call.stat.run entry.2))) =
      [(key, .ok (.stat { messageCount := 0, mailboxSize := 0 }))] := by
    decide +kernel
  obtain ⟨⟨other, client⟩, opened, same⟩ := List.mem_map.mp (held ▸ List.mem_singleton_self _)
  obtain ⟨rfl, answered⟩ := Prod.mk.inj same
  exact ⟨client, answered, Pop3Pool.serves_account (fun _ => hosts_handing) opened⟩

end Pop3
