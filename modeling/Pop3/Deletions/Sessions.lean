import Pop3.Connecting
import Pop3.Injection.Calls
import Pop3.Mailbox.Server
import Pop3.Reconnecting.Attempts

/-!
# Deletions in a session

Marks for deletion belong to one session: `DELE` sets one, `RSET` removes them,
and `QUIT` has the marked messages deleted.  Which marks a session has is read
off what its server has answered.
-/

namespace Pop3

open Rust Pop3Client

/-! ## Sessions -/

/-- The messages marked for deletion in a session, and those that it has deleted. -/
structure Deletions where
  marks : List UInt32 := []
  committed : List UInt32 := []
  deriving DecidableEq

namespace Deletions

/-- Only commands that the server accepts have an effect. -/
def hear (deletions : Deletions) : Event → Deletions
  | .answered command reply =>
      if IsPositive reply then
        if command = utf8 "QUIT".toList then { marks := [], committed := deletions.marks }
        else match Request.parse command with
          | some (.dele messageId) => { deletions with marks := deletions.marks ++ [messageId] }
          | some .rset => { deletions with marks := [] }
          | _ => deletions
      else deletions
  | _ => deletions

/-- What a session with this log has marked and deleted. -/
def ofTrace (trace : List Event) : Deletions := trace.foldl hear {}

theorem ofTrace_append (trace : List Event) (event : Event) :
    ofTrace (trace ++ [event]) = (ofTrace trace).hear event := by
  rw [ofTrace, List.foldl_append]
  rfl

end Deletions

/-- What the session of a client has marked and deleted. -/
def Pop3Client.deletions (client : Pop3Client σ) : Deletions :=
  .ofTrace client.transport.net.trace

/-- The messages that the commands heard in a session name for deletion are among these. -/
def NamesOnly (ids : List UInt32) (trace : List Event) : Prop :=
  ∀ command ∈ heardCommands trace, ∀ messageId,
    Request.parse command = some (.dele messageId) → messageId ∈ ids

theorem NamesOnly.of_append
    {ids : List UInt32}
    {first second : List Event}
    (names : NamesOnly ids (first ++ second)) :
    NamesOnly ids first :=
  fun command member =>
    names command (by rw [heardCommands_append]; exact List.mem_append_left _ member)

/-- What is marked or deleted has been named. -/
theorem NamesOnly.deletions
    {ids : List UInt32}
    {trace : List Event}
    (names : NamesOnly ids trace) :
    (Deletions.ofTrace trace).marks ⊆ ids ∧ (Deletions.ofTrace trace).committed ⊆ ids := by
  induction trace using List.reverseRecOn with
  | nil => exact ⟨List.nil_subset _, List.nil_subset _⟩
  | append_singleton trace event inductionHypothesis =>
      obtain ⟨marks, committed⟩ := inductionHypothesis names.of_append
      rw [Deletions.ofTrace_append]
      cases event with
      | wrote | consumed | timedOut => exact ⟨marks, committed⟩
      | answered command reply =>
          unfold Deletions.hear
          dsimp only
          split
          · split
            · exact ⟨List.nil_subset _, marks⟩
            · cases parsed : Request.parse command with
              | none => exact ⟨marks, committed⟩
              | some request =>
                  cases request with
                  | dele messageId =>
                      have named : messageId ∈ ids :=
                        names command (by simp [heardCommands]) messageId parsed
                      refine ⟨List.append_subset.mpr ⟨marks, ?_⟩, committed⟩
                      exact List.cons_subset.mpr ⟨named, List.nil_subset _⟩
                  | rset => exact ⟨List.nil_subset _, committed⟩
                  | _ => exact ⟨marks, committed⟩
          · exact ⟨marks, committed⟩

/-- Of the commands that are heard, some name messages for deletion. -/
theorem NamesOnly.heard
    {ids more : List UInt32}
    {commands : List Str}
    {before after : Transport σ}
    (names : NamesOnly ids before.net.trace)
    (heard : Heard commands before after)
    (named : ∀ command ∈ commands, ∀ messageId,
      Request.parse (utf8 command) = some (.dele messageId) → messageId ∈ more) :
    NamesOnly (ids ++ more) after.net.trace := by
  obtain ⟨some, among, _, same⟩ := heard
  intro command member messageId parsed
  rw [same, List.mem_append] at member
  rcases member with member | member
  · exact List.mem_append_left _ (names command member messageId parsed)
  · obtain ⟨text, isSome, rfl⟩ := List.mem_map.mp member
    exact List.mem_append_right _ (named text (among.subset isSome) messageId parsed)

/-! ## What calls have deleted -/

/-- The messages that a call names for deletion. -/
def Call.named : Call → List UInt32
  | .dele messageId => [messageId]
  | .deleMany ids => ids
  | _ => []

theorem parse_capa : Request.parse (utf8 "CAPA".toList) = none :=
  Request.parse_keyword "CAPA".toList (by decide)

/-- The command asks for no more than the call says about deletions. -/
def Call.Asks (call : Call) (command : Str) : Prop :=
  command = "CAPA".toList ∨
    ∃ request : Request, command = request.command ∧ (request = .rset → call = .rset) ∧
      ∀ messageId, request = .dele messageId → messageId ∈ call.named

theorem Call.asks_each
    {call : Call}
    {requests : List Request}
    (rset : .rset ∈ requests → call = .rset)
    (dele : ∀ messageId, .dele messageId ∈ requests → messageId ∈ call.named) :
    ∀ command ∈ requests.map Request.command, call.Asks command := by
  intro command member
  obtain ⟨request, isOne, rfl⟩ := List.mem_map.mp member
  refine .inr ⟨request, rfl, ?_, ?_⟩
  · rintro rfl
    exact rset isOne
  · rintro messageId rfl
    exact dele messageId isOne

theorem map_command_retr (ids : List UInt32) :
    (ids.map Request.retr).map Request.command = ids.map (commandFor "RETR ".toList) :=
  List.map_map

theorem map_command_dele (ids : List UInt32) :
    (ids.map Request.dele).map Request.command = ids.map (commandFor "DELE ".toList) :=
  List.map_map

/-- The commands of a call that does not log in are requests, or probe for capabilities. -/
theorem Call.asks_of_means
    [Md5]
    {call : Call}
    (isCommand : call.isCommand = true)
    {greeting : Str}
    {commands : List Str}
    (means : call.Means greeting commands) :
    ∀ command ∈ commands, call.Asks command := by
  cases call with
  | stls _ => cases isCommand
  | login _ _ => cases isCommand
  | apop _ _ => cases isCommand
  | capa =>
      obtain rfl : commands = _ := means
      intro command member
      exact .inl (List.mem_singleton.mp member)
  | stat =>
      obtain rfl : commands = [Request.stat].map Request.command := means
      exact asks_each (by simp) (by simp)
  | list messageId =>
      obtain rfl : commands = [Request.list messageId].map Request.command := by
        cases messageId <;> exact means
      exact asks_each (by simp) (by simp)
  | uidl messageId =>
      obtain rfl : commands = [Request.uidl messageId].map Request.command := by
        cases messageId <;> exact means
      exact asks_each (by simp) (by simp)
  | retr messageId =>
      obtain rfl : commands = [Request.retr messageId].map Request.command := means
      exact asks_each (by simp) (by simp)
  | top messageId lines =>
      obtain rfl : commands = [Request.top messageId lines].map Request.command := means
      exact asks_each (by simp) (by simp)
  | dele messageId =>
      obtain rfl : commands = [Request.dele messageId].map Request.command := means
      exact asks_each (by simp) (by simp [named])
  | rset =>
      obtain rfl : commands = [Request.rset].map Request.command := means
      exact asks_each (fun _ => rfl) (by simp)
  | noop =>
      obtain rfl : commands = [Request.noop].map Request.command := means
      exact asks_each (by simp) (by simp)
  | retrMany ids =>
      obtain rfl := means.trans (map_command_retr ids).symm
      exact asks_each (by simp) (by simp)
  | deleMany ids =>
      obtain rfl := means.trans (map_command_dele ids).symm
      exact asks_each (by simp) (by simp [named])
  | unseenUids _ =>
      obtain rfl : commands = [Request.uidl none].map Request.command := means
      exact asks_each (by simp) (by simp)
  | fetchUnseen _ =>
      obtain ⟨ids, rfl⟩ := means
      have same : "UIDL".toList :: ids.map (commandFor "RETR ".toList) =
          (Request.uidl none :: ids.map Request.retr).map Request.command :=
        congrArg (List.cons _) (map_command_retr ids).symm
      rw [same]
      exact asks_each (by simp) (by simp)
  | pruneSeen _ =>
      obtain rfl : commands = [Request.uidl none].map Request.command := means
      exact asks_each (by simp) (by simp)

/-- A command names no message for deletion that the call does not name. -/
theorem Call.Asks.named
    {call : Call}
    {command : Str}
    (asks : call.Asks command)
    {messageId : UInt32}
    (parsed : Request.parse (utf8 command) = some (.dele messageId)) :
    messageId ∈ call.named := by
  rcases asks with rfl | ⟨request, rfl, _, dele⟩
  · rw [parse_capa] at parsed
    cases parsed
  · rw [Request.parse_command, Option.some.injEq] at parsed
    exact dele messageId parsed

/-! ## The sessions of a reconnecting client -/

namespace ReconnectingClient

variable [Server σ] [Md5]

/-- The operation replaces the session by a new one. -/
def renews (call : Call) (reconnecting : ReconnectingClient σ) : Bool :=
  warrantsReconnect (firstResult call reconnecting) &&
    (returned (attempted call reconnecting).dialing).isOk

/-- What can be dialed does not depend on what has been done. -/
theorem dials_perform
    {call : Call}
    (command : call.isCommand = true)
    (reconnecting : ReconnectingClient σ) :
    (finalState (perform call reconnecting)).dials = reconnecting.dials := by
  have redialed : Redialed reconnecting.toReconnectingClientBuilder
      (finalState (attempted call reconnecting).dialing) :=
    redialed_retry _ _ _ _ _
  have way := performs command reconnecting
  generalize perform call reconnecting = result at way
  cases way with
  | stays _ =>
      rw [finalState_ofResult]
      rfl
  | refused _ refused =>
      rw [refused] at redialed
      exact redialed.dials
  | renewed _ connected =>
      rw [connected] at redialed
      rw [finalState_ofResult]
      exact redialed.dials

theorem dials_performAll
    {calls : List Call}
    (commands : ∀ call ∈ calls, call.isCommand = true)
    (reconnecting : ReconnectingClient σ) :
    (performAll calls reconnecting).dials = reconnecting.dials := by
  induction calls generalizing reconnecting with
  | nil => rfl
  | cons call calls inductionHypothesis =>
      obtain ⟨command, rest⟩ := List.forall_mem_cons.mp commands
      exact (inductionHypothesis rest _).trans (dials_perform command reconnecting)

/-- A client that has connected holds one of the connections that can be dialed. -/
theorem exists_dial_of_connect
    {settings : ReconnectingClientBuilder σ}
    {username password : Str}
    {reconnecting : ReconnectingClient σ}
    (connected : settings.connect username password = .ok reconnecting) :
    reconnecting.dials = settings.dials ∧
      ∃ number, connectAndAuth settings.builder username password (settings.dials number) =
        .ok reconnecting.client := by
  unfold ReconnectingClientBuilder.connect at connected
  have redialed := redialed_retry username password settings.maxRetries 0 settings
  cases found : ReconnectingClientBuilder.retry username password settings.maxRetries 0
      settings with
  | error error after =>
      rw [found] at connected
      cases connected
  | ok client after =>
      rw [found] at connected redialed
      cases connected
      obtain ⟨number, _, _, authenticated⟩ := exists_dial_of_retry found
      exact ⟨redialed.dials, number, authenticated⟩

end ReconnectingClient

end Pop3
