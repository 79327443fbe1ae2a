import Pop3.Deletions.Sessions
import Pop3.Reconnecting.Callback
import Pop3.Reconnecting.Transience

/-!
# Deletions carried into another session

Message numbers belong to a session.  What is marked in it has been named there,
unless a deletion is repeated in a new session: then its number marks whatever
message has it now.
-/

namespace Pop3

open Rust Pop3Client

/-! ## New sessions -/

/-- Nothing has been said on the connections that are dialed. -/
def Dial.IsFresh (dial : Dial σ) : Prop :=
  ∀ host port net, dial host port = .ok net → net.trace = [] ∧ net.inbound = []

/-- Only whole lines were written, and none of those heard names another message for
deletion. -/
structure Names (ids : List UInt32) (transport : Transport σ) : Prop where
  lined : Lined transport
  only : NamesOnly ids transport.net.trace

theorem Names.told
    {ids more : List UInt32}
    {commands : List Str}
    {before after : Transport σ}
    (names : Names ids before)
    (told : Told commands before after)
    (named : ∀ command ∈ commands, ∀ messageId,
      Request.parse (utf8 command) = some (.dele messageId) → messageId ∈ more) :
    Names (ids ++ more) after := by
  obtain ⟨lined, heard⟩ := told.heard names.lined
  exact ⟨lined, names.only.heard heard named⟩

/-- The keywords of requests to a mailbox. -/
def requestWords : List Str :=
  ["STAT", "LIST", "UIDL", "RETR", "TOP", "DELE", "RSET", "NOOP"].map String.toList

/-- The command is no request to a mailbox. -/
def IsForeign (command : Str) : Prop := Request.parse (utf8 command) = none

theorem isForeign_of_keyword
    {keyword : Str}
    (isToken : IsToken keyword)
    (unknown : keyword ∉ requestWords)
    (rest : Str) :
    IsForeign (keyword ++ ' ' :: rest) := by
  simp only [requestWords, List.map_cons, List.map_nil, List.mem_cons, List.not_mem_nil, or_false,
    not_or] at unknown
  unfold IsForeign Request.parse
  rw [fromUtf8_utf8, Option.bind_eq_bind, Option.bind_some, splitWhitespace_keyword isToken]
  refine Option.bind_eq_none_iff.mpr fun arguments _ => ?_
  dsimp only [List.headD_cons]
  unfold Request.ofWords
  split <;> simp only [unknown, ↓reduceIte]

theorem isForeign_user (username : Str) : IsForeign ("USER ".toList ++ username) := by
  have split : "USER ".toList ++ username = "USER".toList ++ ' ' :: username := by simp
  rw [split]
  exact isForeign_of_keyword (by decide) (by decide) username

theorem isForeign_pass (password : Str) : IsForeign ("PASS ".toList ++ password) := by
  have split : "PASS ".toList ++ password = "PASS".toList ++ ' ' :: password := by simp
  rw [split]
  exact isForeign_of_keyword (by decide) (by decide) password

theorem isForeign_apop (rest : Str) : IsForeign ("APOP ".toList ++ rest) := by
  have split : "APOP ".toList ++ rest = "APOP".toList ++ ' ' :: rest := by simp
  rw [split]
  exact isForeign_of_keyword (by decide) (by decide) rest

theorem isForeign_stls : IsForeign "STLS".toList :=
  Request.parse_keyword "STLS".toList (by decide)

theorem isForeign_quit : IsForeign "QUIT".toList :=
  Request.parse_keyword "QUIT".toList (by decide)

/-- Foreign commands name nothing. -/
theorem Names.foreign
    {ids : List UInt32}
    {commands : List Str}
    {before after : Transport σ}
    (names : Names ids before)
    (told : Told commands before after)
    (foreign : ∀ command ∈ commands, IsForeign command) :
    Names ids after := by
  have nothing : Names (ids ++ []) after :=
    names.told told fun command member messageId parsed => by
      rw [foreign command member] at parsed
      cases parsed
  rwa [List.append_nil] at nothing

section Authentication

variable [Server σ] [Md5]

/-- Nothing is named for deletion while a client logs in. -/
theorem survivesAuthentication_names (ids : List UInt32) :
    SurvivesAuthentication (Names ids : Transport σ → Prop) where
  stls hostname client names :=
    names.foreign (tells_stls hostname client) (List.forall_mem_singleton.mpr isForeign_stls)
  login username password client names :=
    names.foreign (tells_login username password client)
      (List.forall_mem_cons.mpr ⟨isForeign_user username,
        List.forall_mem_cons.mpr ⟨isForeign_pass password,
          List.forall_mem_singleton.mpr parse_capa⟩⟩)
  apop username password client names := by
    refine names.foreign (told_apop username password client) fun command member => ?_
    rcases List.mem_append.mp member with member | member
    · unfold apopCommand at member
      obtain ⟨timestamp, _, rfl⟩ := Option.map_eq_some_iff.mp (Option.mem_toList.mp member)
      rw [List.append_assoc, List.append_assoc]
      exact isForeign_apop _
    · rw [List.mem_singleton.mp member]
      exact parse_capa

/-- A new session has no marks. -/
theorem names_connectAndAuth
    {builder : Pop3ClientBuilder}
    {username password : Str}
    {dial : Dial σ}
    (fresh : dial.IsFresh)
    {client : Pop3Client σ}
    (connected : connectAndAuth builder username password dial = .ok client) :
    Names [] client.transport := by
  have leaves : Leaves (Names []) (connectingAndAuth builder username password dial) none := by
    refine (leaves_connectingAndAuth ?_ (survivesAuthentication_names []) username password).2.2
    intro net found stream encrypted established
    obtain ⟨trace, inbound⟩ := fresh _ _ _ found
    have dialed : Names [] ({ stream, encrypted, net } : Transport σ) :=
      ⟨fun _ => ⟨rfl, inbound, established⟩, by simp [NamesOnly, heardCommands, trace]⟩
    exact dialed.foreign (told_readLine _) (List.forall_mem_nil _)
  rw [← returned_connectingAndAuth builder username password dial none] at connected
  exact leaves.client client connected

end Authentication

/-! ## Runs -/

namespace ReconnectingClient

section Runs

variable [Server σ] [Md5]

/-- The messages named by deletions that were begun in the session that the run ends in. -/
def begun : List UInt32 → List Call → ReconnectingClient σ → List UInt32
  | ids, [], _ => ids
  | ids, call :: calls, reconnecting =>
      begun (if renews call reconnecting then [] else ids ++ call.named) calls
        (finalState (perform call reconnecting))

/-- One operation names in a session what it was begun for there, if it is not repeated. -/
theorem names_perform
    {call : Call}
    (command : call.isCommand = true)
    {reconnecting : ReconnectingClient σ}
    (fresh : ∀ number, (reconnecting.dials number).IsFresh)
    {ids : List UInt32}
    (names : Names ids reconnecting.client.transport)
    (once : renews call reconnecting = true → call.named = []) :
    Names (if renews call reconnecting then [] else ids ++ call.named)
      (finalState (perform call reconnecting)).client.transport := by
  have goesOn : ∀ {ids} {client : Pop3Client σ}, Names ids client.transport →
      Names (ids ++ call.named) (finalState (call.run client)).transport := by
    intro ids client names
    obtain ⟨commands, means, told⟩ := call.told client
    exact names.told told fun text member messageId parsed =>
      (Call.asks_of_means command means text member).named parsed
  have way := performs command reconnecting
  unfold renews at once ⊢
  generalize perform call reconnecting = result at way
  cases way with
  | stays unwarranted =>
      rw [unwarranted, finalState_ofResult]
      exact goesOn names
  | refused warranted refused =>
      rw [warranted, refused]
      exact goesOn names
  | renewed warranted connected =>
      rw [warranted, connected] at once ⊢
      rw [finalState_ofResult]
      obtain ⟨number, _, _, authenticated⟩ := exists_dial_of_retry connected
      have repeated := goesOn (names_connectAndAuth (fresh number) authenticated)
      rw [once rfl] at repeated
      exact repeated

/-- No deletion is repeated in a new session. -/
def RepeatsNoDeletion (calls : List Call) (reconnecting : ReconnectingClient σ) : Prop :=
  ∀ before call after, calls = before ++ call :: after →
    renews call (performAll before reconnecting) = true → call.named = []

theorem names_performAll
    {calls : List Call}
    (commands : ∀ call ∈ calls, call.isCommand = true)
    {reconnecting : ReconnectingClient σ}
    (fresh : ∀ number, (reconnecting.dials number).IsFresh)
    {ids : List UInt32}
    (names : Names ids reconnecting.client.transport)
    (repeats : RepeatsNoDeletion calls reconnecting) :
    Names (begun ids calls reconnecting) (performAll calls reconnecting).client.transport := by
  induction calls generalizing ids reconnecting with
  | nil => exact names
  | cons call calls inductionHypothesis =>
      obtain ⟨command, rest⟩ := List.forall_mem_cons.mp commands
      refine inductionHypothesis rest ?_
        (names_perform command fresh names (repeats [] call calls rfl)) ?_
      · rw [dials_perform command]
        exact fresh
      · rintro before later after rfl
        exact repeats (call :: before) later after rfl

/-- Only a new session makes the outcome one of a reconnect. -/
theorem renews_of_reconnected
    {call : Call}
    (command : call.isCommand = true)
    {reconnecting : ReconnectingClient σ}
    {value : Value}
    (reconnected : returned (perform call reconnecting) = .ok (.reconnected value)) :
    renews call reconnecting = true := by
  have way := performs command reconnecting
  unfold renews
  generalize perform call reconnecting = result at way reconnected
  cases way with
  | stays _ =>
      rw [returned_ofResult] at reconnected
      cases first : firstResult call reconnecting with
      | ok value =>
          rw [first] at reconnected
          cases reconnected
      | error error =>
          rw [first] at reconnected
          cases reconnected
  | refused _ _ => cases reconnected
  | renewed warranted connected =>
      rw [warranted, connected]
      rfl

/-- If no deletion is repeated in a new session, every mark there is was named by a deletion
that was begun in its own session; after a reconnect there are none; and ending the session
deletes no other messages. -/
theorem marks_subset_begun
    {settings : ReconnectingClientBuilder σ}
    (fresh : ∀ number, (settings.dials number).IsFresh)
    {username password : Str}
    {reconnecting : ReconnectingClient σ}
    (connected : settings.connect username password = .ok reconnecting)
    {calls : List Call}
    (commands : ∀ call ∈ calls, call.isCommand = true)
    (repeats : RepeatsNoDeletion calls reconnecting) :
    let last := performAll calls reconnecting
    last.client.deletions.marks ⊆ begun [] calls reconnecting ∧
      (∀ before call after value, calls = before ++ call :: after →
        returned (perform call (performAll before reconnecting)) = .ok (.reconnected value) →
          (finalState (perform call (performAll before reconnecting))).client.deletions.marks =
            []) ∧
      (finalState (quit last)).client.deletions.committed ⊆ begun [] calls reconnecting := by
  obtain ⟨dials, number, authenticated⟩ := exists_dial_of_connect connected
  have names := names_connectAndAuth (fresh number) authenticated
  rw [← dials] at fresh
  have throughout := names_performAll commands fresh names repeats
  refine ⟨throughout.only.deletions.1, ?_, ?_⟩
  · rintro before call after value rfl reconnected
    obtain ⟨first, rest⟩ := List.forall_mem_append.mp commands
    have command := rest call List.mem_cons_self
    have soFar := names_performAll first fresh names fun earlier other later split =>
      repeats earlier other (later ++ call :: after) (by rw [split]; simp)
    have renewed := renews_of_reconnected command reconnected
    have freshly := names_perform command (by rw [dials_performAll first]; exact fresh) soFar
      (repeats before call after rfl)
    rw [if_pos renewed] at freshly
    exact List.subset_nil.mp freshly.only.deletions.1
  · have ended := throughout.foreign (tells_quit _) (List.forall_mem_singleton.mpr isForeign_quit)
    rw [quit, Field.finalState_run]
    exact ended.only.deletions.2

end Runs

end ReconnectingClient

/-- Connections to the server, on the first of which the reply to the first command after the
login is too late. -/
def Obliging.stalling (server : Obliging) : ReconnectingClientBuilder Obliging where
  builder := { hostname := [] }
  dials number := { connects _ _ := .ok {
    server
    wire := utf8 "+OK\r\n".toList
    reads := if number = 0 then List.replicate 4 (.arrive 99) ++ [.deadline] else [] } }

theorem isFresh_stalling (server : Obliging) (number : Nat) :
    (server.stalling.dials number).IsFresh := by
  rintro host port net ⟨⟩
  exact ⟨rfl, rfl⟩

/-- What is computed of a result is computed of its value. -/
theorem exists_ok_of_toOption_map
    {result : Except ε α}
    {compute : α → β}
    {value : β}
    (computes : result.toOption.map compute = some value) :
    ∃ found, result = .ok found ∧ compute found = value := by
  cases result with
  | error error => cases computes
  | ok found => exact ⟨found, rfl, Option.some.inj computes⟩

/-- A deletion that is too late marks a message in the next session. -/
theorem exists_carried :
    ¬∀ (settings : ReconnectingClientBuilder Obliging) (username password : Str)
      (reconnecting : ReconnectingClient Obliging) (calls : List Call),
      (∀ number, (settings.dials number).IsFresh) →
        @ReconnectingClientBuilder.connect _ _ emptyDigest settings username password =
          .ok reconnecting →
        (∀ call ∈ calls, call.isCommand = true) →
          (@ReconnectingClient.performAll _ _ emptyDigest calls
            reconnecting).client.deletions.marks ⊆
              @ReconnectingClient.begun _ _ emptyDigest [] calls reconnecting := by
  intro always
  let _ := emptyDigest
  have computes : ((Obliging.stalling ⟨[]⟩).connect [] []).toOption.map (fun reconnecting =>
      ((reconnecting.performAll [.dele 1]).client.deletions.marks,
        reconnecting.begun [] [.dele 1])) = some ([1], []) := by
    decide +kernel
  obtain ⟨reconnecting, connected, same⟩ := exists_ok_of_toOption_map computes
  obtain ⟨marks, begun⟩ := Prod.mk.inj same
  have carried := always _ [] [] reconnecting [.dele 1] (isFresh_stalling ⟨[]⟩) connected
    (by simp [Call.isCommand])
  rw [marks, begun] at carried
  exact absurd (carried List.mem_cons_self) (List.not_mem_nil)

/-- A deletion after a reconnect belongs to the new session. -/
theorem marks_subset_begun_stalling :
    ∃ reconnecting, @ReconnectingClientBuilder.connect _ _ emptyDigest
        (Obliging.stalling ⟨[]⟩) [] [] = .ok reconnecting ∧
      (@ReconnectingClient.performAll _ _ emptyDigest [.stat, .dele 1]
        reconnecting).client.deletions.marks ⊆
          @ReconnectingClient.begun _ _ emptyDigest [] [.stat, .dele 1] reconnecting := by
  let _ := emptyDigest
  have computes : ((Obliging.stalling ⟨[]⟩).connect [] []).toOption.map (fun reconnecting =>
      ReconnectingClient.renews (.dele 1) (reconnecting.performAll [.stat])) = some false := by
    decide +kernel
  obtain ⟨reconnecting, connected, once⟩ := exists_ok_of_toOption_map computes
  refine ⟨reconnecting, connected, (ReconnectingClient.marks_subset_begun
    (isFresh_stalling ⟨[]⟩) connected (by simp [Call.isCommand]) ?_).1⟩
  intro before call after split renewed
  rcases before with _ | ⟨first, _ | ⟨second, before⟩⟩
  · cases split
    rfl
  · cases split
    cases once.symm.trans renewed
  · simp at split

end Pop3
