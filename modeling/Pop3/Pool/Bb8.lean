import Pop3.Manager
import Pop3.Call

/-!
# Pools of bounded size

What is relied on of bb8, and a pool that behaves so.
-/

namespace Pop3

open Rust

/-- A pool that never has more than `maxSize` connections in existence and that opens none
unless a task waits for one, as the type of its states. -/
class Bb8 (π : Type) where
  /-- What happens inside a pool: a connection is opened, handed out, used, given back or
  closed, or a wait ends. -/
  Occurrence : Type
  /-- A connection in existence: idle, checked out, or being opened. -/
  Connection : Type
  /-- Build a pool without opening a connection. -/
  buildUnchecked : (maxSize : Nat) → Pop3ConnectionManager → π
  /-- A task begins to wait for a connection. -/
  getOwned : π → π
  occurs : Occurrence → π → π
  /-- Nothing refers to the pool any more. -/
  dropped : π → π
  maxSize : π → Nat
  connections : π → List Connection
  /-- Some task waits for a connection of the pool, opens one or holds one. -/
  isHeld : π → Bool
  bounded : ∀ pool, (connections pool).length ≤ maxSize pool
  maxSize_buildUnchecked : ∀ size manager, maxSize (buildUnchecked size manager) = size
  maxSize_getOwned : ∀ pool, maxSize (getOwned pool) = maxSize pool
  maxSize_occurs : ∀ occurrence pool, maxSize (occurs occurrence pool) = maxSize pool
  maxSize_dropped : ∀ pool, maxSize (dropped pool) = maxSize pool
  empty_buildUnchecked : ∀ size manager, connections (buildUnchecked size manager) = [] ∧
    isHeld (buildUnchecked size manager) = false
  empty_occurs : ∀ occurrence pool, connections pool = [] → isHeld pool = false →
    connections (occurs occurrence pool) = [] ∧ isHeld (occurs occurrence pool) = false
  empty_dropped : ∀ pool, connections pool = [] → isHeld pool = false →
    connections (dropped pool) = [] ∧ isHeld (dropped pool) = false

namespace Bb8

variable [Bb8 π]

/-- A pool without a connection and without a task that waits for one. -/
def IsSpent (pool : π) : Prop := connections pool = [] ∧ isHeld pool = false

instance (pool : π) : Decidable (IsSpent pool) :=
  inferInstanceAs (Decidable (connections pool = [] ∧ isHeld pool = false))

theorem isSpent_buildUnchecked (size : Nat) (manager : Pop3ConnectionManager) :
    IsSpent (buildUnchecked size manager : π) :=
  empty_buildUnchecked size manager

theorem IsSpent.occurs
    {pool : π}
    (spent : IsSpent pool)
    (occurrence : Occurrence π) :
    IsSpent (occurs occurrence pool) :=
  empty_occurs occurrence pool spent.1 spent.2

theorem IsSpent.dropped {pool : π} (spent : IsSpent pool) : IsSpent (dropped pool) :=
  empty_dropped pool spent.1 spent.2

end Bb8

/-! ## A pool of client connections -/

/-- A connection of a pool, from the moment it begins to be opened. -/
inductive PoolConnection (σ : Type)
  | connecting
  | idle (client : Pop3Client σ)
  | checkedOut (client : Pop3Client σ)

/-- The connection is not idle. -/
def PoolConnection.isBusy : PoolConnection σ → Bool
  | idle _ => false
  | _ => true

/-- A pool of client connections. -/
structure ClientPool (σ : Type) where
  manager : Pop3ConnectionManager
  maxSize : Nat
  connections : List (PoolConnection σ)
  /-- How many tasks wait for a connection. -/
  waiting : Nat
  bounded : connections.length ≤ maxSize

/-- What happens inside a pool of client connections, by the places of the
connections. -/
inductive PoolOccurrence (σ : Type)
  /-- A connection begins to be opened for a task that waits. -/
  | connects
  /-- It has been opened, or it has failed. -/
  | connected (place : Nat) (dial : Dial σ)
  /-- An idle connection is tested and handed to a task that waits. -/
  | checksOut (place : Nat)
  /-- The test of an idle connection is cancelled, because the task has waited too long, and
  the connection goes back to the pool. -/
  | cancels (place : Nat)
  /-- The holder of a connection performs an operation. -/
  | uses (place : Nat) (call : Call)
  /-- The holder of a connection drops it. -/
  | returns (place : Nat)
  /-- An idle connection is closed because of its age. -/
  | reaps (place : Nat)
  /-- A task stops waiting. -/
  | givesUp

namespace ClientPool

/-- Replace a connection, or remove it. -/
def put (place : Nat) (connection : Option (PoolConnection σ)) (pool : ClientPool σ) :
    ClientPool σ :=
  match connection with
  | some connection =>
      { pool with
        connections := pool.connections.set place connection
        bounded := by simpa using pool.bounded }
  | none =>
      { pool with
        connections := pool.connections.eraseIdx place
        bounded := (List.length_eraseIdx_le ..).trans pool.bounded }

/-- Nothing that is in a pool happens at an empty place. -/
def occurs [Server σ] [Md5] (occurrence : PoolOccurrence σ) (pool : ClientPool σ) :
    ClientPool σ :=
  match occurrence with
  | .connects =>
      if room : 0 < pool.waiting ∧ pool.connections.length < pool.maxSize then
        { pool with
          connections := pool.connections ++ [.connecting]
          bounded := by
            rw [List.length_append]
            exact room.2 }
      else pool
  | .connected place dial =>
      match pool.connections[place]? with
      | some .connecting => pool.put place ((pool.manager.connect dial).toOption.map .idle)
      | _ => pool
  | .checksOut place =>
      match pool.connections[place]? with
      | some (.idle client) =>
          if 0 < pool.waiting then
            match Pop3ConnectionManager.isValid client with
            | .ok () client =>
                { pool.put place (some (.checkedOut client)) with waiting := pool.waiting - 1 }
            | .error _ _ => pool.put place none
          else pool
      | _ => pool
  | .cancels place =>
      match pool.connections[place]? with
      | some (.idle client) =>
          if 0 < pool.waiting then
            match Pop3ConnectionManager.isValid client with
            -- The deadline that fires is that of the task, not that of the read.
            | .error .timeout client =>
                { pool.put place
                    (if Pop3ConnectionManager.hasBroken client then none
                      else some (.idle client)) with
                  waiting := pool.waiting - 1 }
            | _ => pool
          else pool
      | _ => pool
  | .uses place call =>
      match pool.connections[place]? with
      | some (.checkedOut client) =>
          pool.put place (some (.checkedOut (finalState (call.run client))))
      | _ => pool
  | .returns place =>
      match pool.connections[place]? with
      | some (.checkedOut client) =>
          pool.put place
            (if Pop3ConnectionManager.hasBroken client then none else some (.idle client))
      | _ => pool
  | .reaps place =>
      match pool.connections[place]? with
      | some (.idle _) => pool.put place none
      | _ => pool
  | .givesUp => { pool with waiting := pool.waiting - 1 }

/-- A task waits for a connection of the pool, opens one or holds one. -/
def isHeld (pool : ClientPool σ) : Bool :=
  0 < pool.waiting || pool.connections.any PoolConnection.isBusy

@[simp] theorem put_maxSize
    (place : Nat)
    (connection : Option (PoolConnection σ))
    (pool : ClientPool σ) :
    (pool.put place connection).maxSize = pool.maxSize := by
  cases connection <;> rfl

section Occurrences

variable [Server σ] [Md5]

/-- What may stand in the place of a connection after such an occurrence. -/
inductive Makes (pool : ClientPool σ) : PoolOccurrence σ → PoolConnection σ → Prop
  | opened {place : Nat} {dial : Dial σ} {client : Pop3Client σ} :
      pool.manager.connect dial = .ok client → Makes pool (.connected place dial) (.idle client)
  | tested {place : Nat} {client after : Pop3Client σ} :
      .idle client ∈ pool.connections →
      Pop3ConnectionManager.isValid client = .ok () after →
      Makes pool (.checksOut place) (.checkedOut after)
  | cancelled {place : Nat} {client after : Pop3Client σ} :
      .idle client ∈ pool.connections →
      Pop3ConnectionManager.isValid client = .error .timeout after →
      Makes pool (.cancels place) (.idle after)
  | used {place : Nat} {client : Pop3Client σ} (call : Call) :
      .checkedOut client ∈ pool.connections →
      Makes pool (.uses place call) (.checkedOut (finalState (call.run client)))
  | returned {place : Nat} {client : Pop3Client σ} :
      .checkedOut client ∈ pool.connections → Makes pool (.returns place) (.idle client)

/-- All that can happen: a connection begins to be opened, or one is replaced or removed,
or none changes. -/
theorem occurs_cases
    {motive : ClientPool σ → Prop}
    (occurrence : PoolOccurrence σ)
    (pool : ClientPool σ)
    (opening : ∀ room : pool.connections.length < pool.maxSize, motive
      { pool with
        connections := pool.connections ++ [.connecting]
        bounded := by rw [List.length_append]; exact room })
    (replaced : ∀ place made waiting,
      (∀ connection, made = some connection → Makes pool occurrence connection) →
        motive { pool.put place made with waiting })
    (same : ∀ waiting, motive { pool with waiting }) :
    motive (pool.occurs occurrence) := by
  cases occurrence with
  | connects =>
      dsimp only [occurs]
      split
      case isTrue room => exact opening room.2
      case isFalse => exact same pool.waiting
  | connected place dial =>
      dsimp only [occurs]
      split
      · refine replaced place _ (pool.put place _).waiting fun connection made => ?_
        cases connects : pool.manager.connect dial with
        | error error =>
            rw [connects] at made
            cases made
        | ok client =>
            rw [connects] at made
            cases made
            exact .opened connects
      · exact same pool.waiting
  | checksOut place =>
      dsimp only [occurs]
      split
      case h_1 client found =>
        split
        · split
          case h_1 after tested =>
            refine replaced place _ _ fun connection made => ?_
            cases made
            exact .tested (List.mem_of_getElem? found) tested
          case h_2 =>
            exact replaced place none (pool.put place none).waiting fun _ made => by cases made
        · exact same pool.waiting
      case h_2 => exact same pool.waiting
  | cancels place =>
      dsimp only [occurs]
      split
      case h_1 client found =>
        split
        · split
          case h_1 after tested =>
            refine replaced place _ _ fun connection made => ?_
            split at made <;> cases made
            exact .cancelled (List.mem_of_getElem? found) tested
          case h_2 => exact same pool.waiting
        · exact same pool.waiting
      case h_2 => exact same pool.waiting
  | uses place call =>
      dsimp only [occurs]
      split
      case h_1 client found =>
        refine replaced place (some (.checkedOut (finalState (call.run client)))) pool.waiting
          fun connection made => ?_
        cases made
        exact .used call (List.mem_of_getElem? found)
      case h_2 => exact same pool.waiting
  | returns place =>
      dsimp only [occurs]
      split
      case h_1 client found =>
        refine replaced place _ (pool.put place _).waiting fun connection made => ?_
        split at made <;> cases made
        exact .returned (List.mem_of_getElem? found)
      case h_2 => exact same pool.waiting
  | reaps place =>
      dsimp only [occurs]
      split
      · exact replaced place none (pool.put place none).waiting fun _ made => by cases made
      · exact same pool.waiting
  | givesUp => exact same (pool.waiting - 1)

theorem maxSize_occurs (occurrence : PoolOccurrence σ) (pool : ClientPool σ) :
    (pool.occurs occurrence).maxSize = pool.maxSize :=
  occurs_cases (motive := fun after => after.maxSize = pool.maxSize) occurrence pool
    (fun _ => rfl) (fun place made _ _ => put_maxSize place made pool) fun _ => rfl

/-- A pool opens no connection that no task waits for. -/
theorem empty_occurs
    (occurrence : PoolOccurrence σ)
    (pool : ClientPool σ)
    (empty : pool.connections = [])
    (unheld : pool.isHeld = false) :
    (pool.occurs occurrence).connections = [] ∧ (pool.occurs occurrence).isHeld = false := by
  have unawaited : pool.waiting = 0 := by simpa [isHeld, empty] using unheld
  cases occurrence with
  | connects => simp [occurs, unawaited, empty, unheld]
  | givesUp => simp [occurs, isHeld, unawaited, empty]
  | _ => simp [occurs, empty, unheld]

end Occurrences

instance instBb8 [Server σ] [Md5] : Bb8 (ClientPool σ) where
  Occurrence := PoolOccurrence σ
  Connection := PoolConnection σ
  buildUnchecked size manager :=
    { manager, maxSize := size, connections := [], waiting := 0, bounded := Nat.zero_le _ }
  getOwned pool := { pool with waiting := pool.waiting + 1 }
  occurs := fun occurrence pool => pool.occurs occurrence
  dropped pool := { pool with connections := [], bounded := Nat.zero_le _ }
  maxSize := maxSize
  connections := connections
  isHeld := isHeld
  bounded := bounded
  maxSize_buildUnchecked _ _ := rfl
  maxSize_getOwned _ := rfl
  maxSize_occurs := maxSize_occurs
  maxSize_dropped _ := rfl
  empty_buildUnchecked _ _ := ⟨rfl, rfl⟩
  empty_occurs := empty_occurs
  empty_dropped pool empty unheld := by
    refine ⟨rfl, ?_⟩
    simpa [isHeld, empty] using unheld

end ClientPool

end Pop3
