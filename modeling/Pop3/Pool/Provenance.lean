import Pop3.Pool.Exclusivity
import Pop3.Reconnecting.Credentials
import Pop3.Session.Lifecycle

/-!
# Where pooled connections come from

A connection of an account's pool has been opened and authenticated with what the account
was registered with.  Whoever holds it can call anything, but not make it another's.
-/

namespace Pop3

open Rust Pop3Client

/-! ## Descent -/

section Descent

variable [Server σ] [Md5]

/-- The client has been connected and authenticated by the manager, which has dialed, and then
used with calls that neither authenticate nor change the stream. -/
structure Descends (manager : Pop3ConnectionManager) (dialed : Dial σ → Prop)
    (client : Pop3Client σ) : Prop where
  from_connect : ∃ dial first calls, dialed dial ∧ manager.connect dial = .ok first ∧
    (∀ call ∈ calls, call.isCommand = true) ∧ client = Call.runAll calls first
  authenticated : client.state = .authenticated

variable {manager : Pop3ConnectionManager} {dialed : Dial σ → Prop} {client : Pop3Client σ}

/-- Whatever a manager connects is authenticated. -/
theorem Pop3ConnectionManager.state_connect
    {dial : Dial σ}
    (connected : manager.connect dial = .ok client) :
    client.state = .authenticated := by
  unfold connect at connected
  split at connected
  · cases connected
  · obtain ⟨first, _, decided⟩ := bind_eq_ok_iff.mp connected
    by_cases already : first.state = .authenticated
    · rw [if_neg (not_not_intro already)] at decided
      cases decided
      exact already
    · rw [if_pos already] at decided
      exact (authenticates_of_login (run_of_after decided)).after

theorem descends_of_connect
    {dial : Dial σ}
    (isDialed : dialed dial)
    (connected : manager.connect dial = .ok client) :
    Descends manager dialed client :=
  ⟨⟨dial, client, [], isDialed, connected, by simp, rfl⟩,
    Pop3ConnectionManager.state_connect connected⟩

/-- More may have been dialed. -/
theorem Descends.mono
    (descends : Descends manager dialed client)
    {more : Dial σ → Prop}
    (subset : ∀ dial, dialed dial → more dial) :
    Descends manager more client := by
  obtain ⟨dial, first, calls, isDialed, rest⟩ := descends.from_connect
  exact ⟨⟨dial, first, calls, subset dial isDialed, rest⟩, descends.authenticated⟩

/-- A call that would authenticate anew or change the stream has no effect. -/
theorem Descends.run (descends : Descends manager dialed client) (call : Call) :
    Descends manager dialed (finalState (call.run client)) := by
  cases command : call.isCommand with
  | false =>
      obtain ⟨error, refused⟩ := Call.run_of_authenticated command descends.authenticated
      rw [refused]
      exact descends
  | true =>
      obtain ⟨dial, first, calls, isDialed, connected, commands, same⟩ := descends.from_connect
      have continues := Call.continues_of_authenticated descends.authenticated call
      refine ⟨⟨dial, first, calls ++ [call], isDialed, connected, fun other member => ?_, ?_⟩,
        continues.state.trans descends.authenticated⟩
      · rcases List.mem_append.mp member with member | member
        · exact commands other member
        · rwa [List.mem_singleton.mp member]
      · rw [Call.runAll_append, ← same]
        rfl

/-- The test before a connection is handed out is a call. -/
theorem Descends.isValid (descends : Descends manager dialed client) :
    Descends manager dialed (finalState (Pop3ConnectionManager.isValid client)) := by
  have tested := descends.run .noop
  rwa [Call.run, finalState_bind_pure] at tested

end Descent

/-! ## Pools that make connections through their manager -/

/-- How the client of a connection comes about. -/
inductive Comes [Server σ] [Md5] (manager : Pop3ConnectionManager) (dials : List (Dial σ))
    (before : List (Pop3Client σ)) : Pop3Client σ → Prop
  | stays {client : Pop3Client σ} : client ∈ before → Comes manager dials before client
  /-- The holder of the connection has called something. -/
  | used {client : Pop3Client σ} (call : Call) :
      client ∈ before → Comes manager dials before (finalState (call.run client))
  /-- The connection has been tested, or a deadline has fired in its test. -/
  | tested {client : Pop3Client σ} :
      client ∈ before →
      Comes manager dials before (finalState (Pop3ConnectionManager.isValid client))
  /-- The manager has connected. -/
  | opened {client : Pop3Client σ} {dial : Dial σ} :
      dial ∈ dials → manager.connect dial = .ok client → Comes manager dials before client

/-- A pool that has no connections but those that its manager opens, and does nothing with
them but test them and hand them out. -/
class ManagedBb8 (π : Type) (σ : outParam Type) [Server σ] [Md5] extends Bb8 π where
  manager : π → Pop3ConnectionManager
  /-- The client of a connection that has been opened. -/
  clientOf : Connection → Option (Pop3Client σ)
  /-- What is dialed when something happens. -/
  dials : Occurrence → List (Dial σ)
  manager_buildUnchecked : ∀ size built, manager (buildUnchecked size built) = built
  manager_getOwned : ∀ pool, manager (getOwned pool) = manager pool
  manager_occurs : ∀ occurrence pool, manager (occurs occurrence pool) = manager pool
  manager_dropped : ∀ pool, manager (dropped pool) = manager pool
  connections_getOwned : ∀ pool, connections (getOwned pool) ⊆ connections pool
  connections_dropped : ∀ pool, connections (dropped pool) ⊆ connections pool
  comes_occurs : ∀ occurrence pool, ∀ connection ∈ connections (occurs occurrence pool),
    ∀ client, clientOf connection = some client →
      Comes (manager pool) (dials occurrence) ((connections pool).filterMap clientOf) client

namespace ManagedBb8

open Bb8

section Managed

variable [Server σ] [Md5] [ManagedBb8 π σ]

variable {dialed : Dial σ → Prop} {bb8 : π}

/-- Every connection of the pool descends from its manager. -/
def Rooted (dialed : Dial σ → Prop) (bb8 : π) : Prop :=
  ∀ connection ∈ connections bb8, ∀ client, clientOf connection = some client →
    Descends (manager bb8) dialed client

theorem rooted_buildUnchecked (size : Nat) (built : Pop3ConnectionManager) :
    Rooted dialed (buildUnchecked size built : π) := by
  intro connection member
  rw [(empty_buildUnchecked size built).1] at member
  cases member

theorem Rooted.mono
    (rooted : Rooted dialed bb8)
    {more : Dial σ → Prop}
    (subset : ∀ dial, dialed dial → more dial) :
    Rooted more bb8 :=
  fun connection member client opened => (rooted connection member client opened).mono subset

theorem Rooted.getOwned (rooted : Rooted dialed bb8) : Rooted dialed (getOwned bb8) := by
  intro connection member
  rw [manager_getOwned]
  exact rooted connection (connections_getOwned bb8 member)

theorem Rooted.dropped (rooted : Rooted dialed bb8) : Rooted dialed (dropped bb8) := by
  intro connection member
  rw [manager_dropped]
  exact rooted connection (connections_dropped bb8 member)

theorem Rooted.occurs
    (rooted : Rooted dialed bb8)
    {occurrence : Occurrence π}
    (isDialed : ∀ dial ∈ dials occurrence, dialed dial) :
    Rooted dialed (occurs occurrence bb8) := by
  have before : ∀ client ∈ (connections bb8).filterMap clientOf,
      Descends (manager bb8) dialed client := by
    intro client member
    obtain ⟨connection, member, opened⟩ := List.mem_filterMap.mp member
    exact rooted connection member client opened
  intro connection member client opened
  rw [manager_occurs]
  cases comes_occurs occurrence bb8 connection member client opened with
  | stays member => exact before _ member
  | used call member => exact (before _ member).run call
  | tested member => exact (before _ member).isValid
  | opened member connected => exact descends_of_connect (isDialed _ member) connected

end Managed

end ManagedBb8

/-! ## Runs of the pool -/

namespace Pop3Pool

open ManagedBb8

section Runs

variable [Server σ] [Md5] [ManagedBb8 π σ]

/-- The open connections of a pool, each with its account. -/
def clients (pool : Pop3Pool π) : List (AccountKey × Pop3Client σ) :=
  pool.built.flatMap fun (key, bb8) =>
    ((Bb8.connections bb8).filterMap clientOf).map fun client => (key, client)

/-- In the course of these steps, this has been dialed in a pool of the account. -/
def Dialed (steps : List (PoolStep π)) (key : AccountKey) (dial : Dial σ) : Prop :=
  ∃ (before : List (PoolStep π)) (number : Nat) (occurrence : Bb8.Occurrence π)
    (after : List (PoolStep π)) (bb8 : π), steps = before ++ .within number occurrence :: after ∧
    (run before new).built[number]? = some (key, bb8) ∧ dial ∈ dials occurrence

theorem Dialed.mono
    {steps : List (PoolStep π)}
    {key : AccountKey}
    {dial : Dial σ}
    (dialed : Dialed steps key dial)
    (more : List (PoolStep π)) :
    Dialed (steps ++ more) key dial := by
  obtain ⟨before, number, occurrence, after, bb8, rfl, there, member⟩ := dialed
  exact ⟨before, number, occurrence, after ++ more, bb8, by simp, there, member⟩

/-- Every per-account pool has been registered with what its manager connects with, and its
connections descend from the manager. -/
def Provenance (steps : List (PoolStep π)) (pool : Pop3Pool π) : Prop :=
  ∀ key bb8, (key, bb8) ∈ pool.built →
    PoolStep.addAccount key (manager bb8).builder (manager bb8).username (manager bb8).password ∈
      steps ∧ Rooted (Dialed steps key) bb8

/-- What changes the pools one by one, and keeps the manager and the descent of each. -/
theorem Provenance.of_built
    {steps : List (PoolStep π)}
    {pool after : Pop3Pool π}
    (provenance : Provenance steps pool)
    (goesOn : ∀ key bb8, (key, bb8) ∈ after.built → ∃ before, (key, before) ∈ pool.built ∧
      manager bb8 = manager before ∧
      (Rooted (Dialed steps key) before → Rooted (Dialed steps key) bb8)) :
    Provenance steps after := by
  intro key bb8 member
  obtain ⟨before, was, same, keeps⟩ := goesOn key bb8 member
  obtain ⟨registered, rooted⟩ := provenance key before was
  rw [same]
  exact ⟨registered, keeps rooted⟩

/-- A pool that is changed at one place. -/
theorem Provenance.modify
    {steps : List (PoolStep π)}
    {pool : Pop3Pool π}
    (provenance : Provenance steps pool)
    {change : π → π}
    (sameManager : ∀ bb8, manager (change bb8) = manager bb8)
    {number : Nat}
    (keeps : ∀ key bb8, pool.built[number]? = some (key, bb8) →
      Rooted (Dialed steps key) bb8 → Rooted (Dialed steps key) (change bb8)) :
    Provenance steps { pool with
      built := pool.built.modify number fun entry => (entry.1, change entry.2) } := by
  refine provenance.of_built fun key bb8 member => ?_
  obtain ⟨place, found⟩ := List.mem_iff_getElem?.mp member
  rw [List.getElem?_modify, Option.map_eq_map, Option.map_eq_some_iff] at found
  obtain ⟨⟨other, before⟩, was, same⟩ := found
  have there : (other, before) ∈ pool.built := List.mem_of_getElem? was
  split at same
  · rename_i here
    obtain ⟨rfl, rfl⟩ := Prod.mk.inj same
    exact ⟨before, there, sameManager before, keeps other before (here ▸ was)⟩
  · obtain ⟨rfl, rfl⟩ := Prod.mk.inj same
    exact ⟨before, there, rfl, id⟩

theorem Provenance.release
    {steps : List (PoolStep π)}
    {pool : Pop3Pool π}
    (provenance : Provenance steps pool) :
    Provenance steps pool.release := by
  refine provenance.of_built fun key bb8 member => ?_
  obtain ⟨number, bound, same⟩ := List.mem_mapIdx.mp member
  generalize was : pool.built[number] = entry at same
  have there : entry ∈ pool.built := was ▸ List.getElem_mem bound
  obtain ⟨other, before⟩ := entry
  dsimp only at same
  split at same
  · obtain ⟨rfl, rfl⟩ := Prod.mk.inj same
    exact ⟨before, there, rfl, id⟩
  · obtain ⟨rfl, rfl⟩ := Prod.mk.inj same
    exact ⟨before, there, manager_dropped before, Rooted.dropped⟩

theorem Provenance.mono
    {steps : List (PoolStep π)}
    {pool : Pop3Pool π}
    (provenance : Provenance steps pool)
    (more : List (PoolStep π)) :
    Provenance (steps ++ more) pool :=
  fun key bb8 member => (provenance key bb8 member).imp
    (fun registered => List.mem_append_left more registered)
    (fun rooted => rooted.mono fun _ dialed => dialed.mono more)

/-- One step of any task. -/
theorem Provenance.step
    {steps : List (PoolStep π)}
    (provenance : Provenance steps (run steps new))
    (step : PoolStep π) :
    Provenance (steps ++ [step]) ((run steps new).step step) := by
  have before := provenance.mono [step]
  refine Provenance.release ?_
  cases step with
  | addAccount key builder username password =>
      dsimp only [addAccount]
      split
      · exact before
      · intro other bb8 member
        rcases List.mem_append.mp member with member | member
        · exact before other bb8 member
        · obtain ⟨rfl, rfl⟩ := Prod.mk.inj (List.mem_singleton.mp member)
          rw [manager_buildUnchecked]
          exact ⟨by simp, rooted_buildUnchecked _ _⟩
  | checkout key =>
      dsimp only [checkout]
      cases (run steps new).pools key with
      | none => exact before
      | some number => exact before.modify manager_getOwned fun _ _ _ => Rooted.getOwned
  | removeAccount key => exact before
  | within number occurrence =>
      exact before.modify (manager_occurs occurrence) fun key bb8 there rooted =>
        rooted.occurs fun dial member => ⟨steps, number, occurrence, [], bb8, rfl, there, member⟩

theorem provenance_run (steps : List (PoolStep π)) : Provenance steps (run steps new) := by
  induction steps using List.reverseRecOn with
  | nil => exact fun _ _ member => absurd member List.not_mem_nil
  | append_singleton steps step inductionHypothesis =>
      rw [run, List.foldl_append]
      exact inductionHypothesis.step step

/-- The open connections of an account descend from a manager that was registered for it. -/
theorem descends_run
    {steps : List (PoolStep π)}
    {key : AccountKey}
    {client : Pop3Client σ}
    (opened : (key, client) ∈ (run steps new : Pop3Pool π).clients) :
    ∃ manager : Pop3ConnectionManager,
      PoolStep.addAccount key manager.builder manager.username manager.password ∈ steps ∧
      Descends manager (Dialed steps key) client := by
  obtain ⟨⟨other, bb8⟩, built, listed⟩ := List.mem_flatMap.mp opened
  obtain ⟨_, member, same⟩ := List.mem_map.mp listed
  obtain ⟨rfl, rfl⟩ := Prod.mk.inj same
  obtain ⟨connection, lives, isClient⟩ := List.mem_filterMap.mp member
  obtain ⟨registered, rooted⟩ := provenance_run steps _ bb8 built
  exact ⟨manager bb8, registered, rooted connection lives _ isClient⟩

/-- Connections stay with their account.  In every run of a pool, by any number of tasks in
any order: each open connection of an account's pool has been connected and authenticated by a
manager with which that account has been registered, when a pool of that account has dialed,
and is still authenticated.  What its holders have called since amounts to calls that neither
authenticate nor change the stream, whatever they did call. -/
theorem stays_with_account
    {steps : List (PoolStep π)}
    {key : AccountKey}
    {client : Pop3Client σ}
    (opened : (key, client) ∈ (run steps new : Pop3Pool π).clients) :
    client.state = .authenticated ∧
    ∃ builder username password dial first calls,
      PoolStep.addAccount key builder username password ∈ steps ∧ Dialed steps key dial ∧
      Pop3ConnectionManager.connect { builder, username, password } dial = .ok first ∧
      (∀ call ∈ calls, call.isCommand = true) ∧ client = Call.runAll calls first := by
  obtain ⟨manager, registered, descends⟩ := descends_run opened
  obtain ⟨dial, first, calls, descent⟩ := descends.from_connect
  exact ⟨descends.authenticated, _, _, _, dial, first, calls, registered, descent⟩

end Runs

end Pop3Pool

/-! ## Pools of client connections -/

namespace ClientPool

/-- The client of a connection that has been opened. -/
def clientOf : PoolConnection σ → Option (Pop3Client σ)
  | .connecting => none
  | .idle client => some client
  | .checkedOut client => some client

/-- What is dialed when a connection is opened. -/
def dials : PoolOccurrence σ → List (Dial σ)
  | .connected _ dial => [dial]
  | _ => []

theorem mem_of_put
    {place : Nat}
    {replaced : Option (PoolConnection σ)}
    {pool : ClientPool σ}
    {connection : PoolConnection σ}
    (member : connection ∈ (pool.put place replaced).connections) :
    connection ∈ pool.connections ∨ replaced = some connection := by
  cases replaced with
  | none => exact .inl (List.mem_of_mem_eraseIdx member)
  | some other =>
      rcases List.mem_or_eq_of_mem_set member with member | rfl
      · exact .inl member
      · exact .inr rfl

section Managed

variable [Server σ] [Md5]

theorem manager_occurs (occurrence : PoolOccurrence σ) (pool : ClientPool σ) :
    (pool.occurs occurrence).manager = pool.manager :=
  occurs_cases (motive := fun after => after.manager = pool.manager) occurrence pool
    (fun _ => rfl) (fun _ made _ _ => by cases made <;> rfl) fun _ => rfl

/-- What is made in the place of a connection has a client that comes about as it may. -/
theorem Makes.comes
    {occurrence : PoolOccurrence σ}
    {pool : ClientPool σ}
    {connection : PoolConnection σ}
    (makes : Makes pool occurrence connection)
    {client : Pop3Client σ}
    (opened : clientOf connection = some client) :
    Comes pool.manager (dials occurrence) (pool.connections.filterMap clientOf) client := by
  have there : ∀ {other : PoolConnection σ} {before : Pop3Client σ},
      other ∈ pool.connections → clientOf other = some before →
        before ∈ pool.connections.filterMap clientOf :=
    fun member was => List.mem_filterMap.mpr ⟨_, member, was⟩
  cases makes with
  | opened connects =>
      cases opened
      exact .opened (List.mem_singleton_self _) connects
  | tested idle valid =>
      cases opened
      have same : finalState (Pop3ConnectionManager.isValid _) = client :=
        congrArg finalState valid
      rw [← same]
      exact .tested (there idle rfl)
  | cancelled idle late =>
      cases opened
      have same : finalState (Pop3ConnectionManager.isValid _) = client :=
        congrArg finalState late
      rw [← same]
      exact .tested (there idle rfl)
  | used call held =>
      cases opened
      exact .used call (there held rfl)
  | returned held =>
      cases opened
      exact .stays (there held rfl)

theorem comes_occurs (occurrence : PoolOccurrence σ) (pool : ClientPool σ) :
    ∀ connection ∈ (pool.occurs occurrence).connections, ∀ client,
      clientOf connection = some client →
        Comes pool.manager (dials occurrence) (pool.connections.filterMap clientOf) client := by
  have stays : ∀ connection ∈ pool.connections, ∀ client, clientOf connection = some client →
      Comes pool.manager (dials occurrence) (pool.connections.filterMap clientOf) client :=
    fun connection member _ opened => .stays (List.mem_filterMap.mpr ⟨connection, member, opened⟩)
  refine occurs_cases (motive := fun after => ∀ connection ∈ after.connections, ∀ client,
    clientOf connection = some client →
      Comes pool.manager (dials occurrence) (pool.connections.filterMap clientOf) client)
    occurrence pool ?_ ?_ fun _ => stays
  · intro room connection member client opened
    rcases List.mem_append.mp member with member | member
    · exact stays connection member client opened
    · rw [List.mem_singleton.mp member] at opened
      cases opened
  · intro place made waiting makes connection member client opened
    rcases mem_of_put member with member | same
    · exact stays connection member client opened
    · exact (makes connection same).comes opened

instance instManagedBb8 : ManagedBb8 (ClientPool σ) σ where
  toBb8 := instBb8
  manager := manager
  clientOf := clientOf
  dials := dials
  manager_buildUnchecked _ _ := rfl
  manager_getOwned _ := rfl
  manager_occurs := manager_occurs
  manager_dropped _ := rfl
  connections_getOwned _ := List.Subset.refl _
  connections_dropped _ := List.nil_subset _
  comes_occurs := comes_occurs

end Managed

end ClientPool

/-- A task tries to log in as somebody else, and then goes on. -/
def usurping [Md5] (key : AccountKey) : List (PoolStep (ClientPool Pop3Pool.Admitting)) :=
  Pop3Pool.employing key 0 ++
    [.within 0 (PoolOccurrence.uses (σ := Pop3Pool.Admitting) 0
        (.login "eve".toList "guess".toList)),
      .within 0 (PoolOccurrence.uses (σ := Pop3Pool.Admitting) 0 .rset)]

/-- The connection that it holds stays what it was. -/
theorem stays_with_account_usurping :
    let _ := emptyDigest
    let key : AccountKey := { host := [], port := 110, username := [] }
    ∃ client : Pop3Client Pop3Pool.Admitting, client.state = .authenticated ∧
      ∃ builder username password dial first calls,
        PoolStep.addAccount key builder username password ∈ usurping key ∧
        Pop3Pool.Dialed (usurping key) key dial ∧
        Pop3ConnectionManager.connect { builder, username, password } dial = .ok first ∧
        (∀ call ∈ calls, call.isCommand = true) ∧ client = Call.runAll calls first := by
  let _ := emptyDigest
  let key : AccountKey := { host := [], port := 110, username := [] }
  have held : (Pop3Pool.run (usurping key) Pop3Pool.new).clients.map
      (fun entry => (entry.1, entry.2.state)) = [(key, .authenticated)] := by
    decide +kernel
  obtain ⟨⟨other, client⟩, opened, same⟩ := List.mem_map.mp (held ▸ List.mem_singleton_self _)
  obtain rfl : other = key := (Prod.mk.inj same).1
  exact ⟨client, Pop3Pool.stays_with_account opened⟩

end Pop3
