import Pop3.Client

/-!
# Calls

The public operations of a client as data, so that a run is a list of calls.
-/

namespace Pop3

open Rust Pop3Client

/-- A public operation with its arguments. -/
inductive Call
  | stls (hostname : Str)
  | login (username password : Str)
  | apop (username password : Str)
  | capa
  | stat
  | list (messageId : Option UInt32)
  | uidl (messageId : Option UInt32)
  | retr (messageId : UInt32)
  | top (messageId lines : UInt32)
  | dele (messageId : UInt32)
  | rset
  | noop
  | retrMany (ids : List UInt32)
  | deleMany (ids : List UInt32)
  | unseenUids (seen : UidSet)
  | fetchUnseen (seen : UidSet)
  | pruneSeen (seen : UidSet)

/-- What an operation returns. -/
inductive Value
  | done
  | capabilities (capabilities : List Capability)
  | stat (stat : Stat)
  | listing (entries : List ListEntry)
  | uids (entries : List UidlEntry)
  | message (message : Message)
  | messages (items : Items Message)
  | deletions (items : Items Unit)
  | fetched (messages : List (UidlEntry × Message))
  | pruned (uids : List Str) (seen : UidSet)
  deriving DecidableEq

namespace Call

/-- Perform an operation. -/
def run [Server σ] [Md5] : Call → ClientM σ Value
  | stls hostname => do Pop3Client.stls hostname; return .done
  | login username password => do Pop3Client.login username password; return .done
  | apop username password => do Pop3Client.apop username password; return .done
  | capa => do return .capabilities (← Pop3Client.capa)
  | stat => do return .stat (← Pop3Client.stat)
  | list messageId => do return .listing (← Pop3Client.list messageId)
  | uidl messageId => do return .uids (← Pop3Client.uidl messageId)
  | retr messageId => do return .message (← Pop3Client.retr messageId)
  | top messageId lines => do return .message (← Pop3Client.top messageId lines)
  | dele messageId => do Pop3Client.dele messageId; return .done
  | rset => do Pop3Client.rset; return .done
  | noop => do Pop3Client.noop; return .done
  | retrMany ids => do return .messages (← Pop3Client.retrMany ids)
  | deleMany ids => do return .deletions (← Pop3Client.deleMany ids)
  | unseenUids seen => do return .uids (← Pop3Client.unseenUids seen)
  | fetchUnseen seen => do return .fetched (← Pop3Client.fetchUnseen seen)
  | pruneSeen seen => do
      let (uids, seen) ← Pop3Client.pruneSeen seen
      return .pruned uids seen

/-- The client after a sequence of calls, whatever they returned. -/
def runAll [Server σ] [Md5] (calls : List Call) (client : Pop3Client σ) : Pop3Client σ :=
  calls.foldl (fun client call => finalState (call.run client)) client

theorem runAll_append [Server σ] [Md5]
    (before after : List Call) (client : Pop3Client σ) :
    runAll (before ++ after) client = runAll after (runAll before client) :=
  List.foldl_append

/-- What a run has brought about, one of its calls has. -/
theorem exists_call_of_runAll [Server σ] [Md5]
    (property : Pop3Client σ → Prop)
    {calls : List Call}
    {client : Pop3Client σ}
    (absent : ¬property client)
    (holds : property (runAll calls client)) :
    ∃ before call after, calls = before ++ call :: after ∧
      ¬property (runAll before client) ∧
      property (finalState (call.run (runAll before client))) := by
  induction calls generalizing client with
  | nil => exact absurd holds absent
  | cons call calls inductionHypothesis =>
      by_cases now : property (finalState (call.run client))
      · exact ⟨[], call, calls, rfl, absent, now⟩
      · obtain ⟨before, later, after, rfl, notYet, found⟩ := inductionHypothesis now holds
        exact ⟨call :: before, later, after, rfl, notYet, found⟩

/-- What each of a sequence of calls returns, and the client after it. -/
def runs [Server σ] [Md5] :
    List Call → Pop3Client σ → List (Except Pop3Error Value × Pop3Client σ)
  | [], _ => []
  | call :: calls, client =>
      let result := call.run client
      (returned result, finalState result) :: runs calls (finalState result)

end Call

end Pop3
