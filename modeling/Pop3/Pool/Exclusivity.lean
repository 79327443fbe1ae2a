import Pop3.Pool.Registry

/-!
# Exclusive access to mailboxes

Each per-account pool has one connection at most, so an account has one as long
as one pool of it is in use.  The registry builds another pool for an account
that is removed and added again, also while a task still waits in the old pool
or holds its connection: then the account has two connections.
-/

namespace Pop3

open Rust Bb8

namespace Pop3Pool

section Exclusivity

variable [Bb8 π]

/-- A connection to the mailbox of an account exists at a place of a per-account pool. -/
def Lives (pool : Pop3Pool π) (key : AccountKey) (number place : Nat) : Prop :=
  ∃ bb8, pool.built[number]? = some (key, bb8) ∧ place < (connections bb8).length

/-- Every account has at most one connection. -/
def Exclusive (pool : Pop3Pool π) : Prop :=
  ∀ key number place number' place', pool.Lives key number place →
    pool.Lives key number' place' → number = number' ∧ place = place'

/-- An account is not added while an earlier pool of it, which is not registered any more,
still has a connection or a task that waits for one. -/
def Spares (pool : Pop3Pool π) : PoolStep π → Prop
  | .addAccount key _ _ _ => pool.pools key = none →
      ∀ entry ∈ pool.built, entry.1 = key → IsSpent entry.2
  | _ => True

instance (pool : Pop3Pool π) (step : PoolStep π) : Decidable (pool.Spares step) := by
  cases step <;> simp only [Spares] <;> infer_instance

/-- Every step of a run spares the pools that are still in use. -/
def Spared : List (PoolStep π) → Pop3Pool π → Prop
  | [], _ => True
  | step :: steps, pool => pool.Spares step ∧ Spared steps (pool.step step)

instance : (steps : List (PoolStep π)) → (pool : Pop3Pool π) → Decidable (Spared steps pool)
  | [], _ => .isTrue trivial
  | step :: steps, pool =>
      have := instDecidableSpared steps (pool.step step)
      inferInstanceAs (Decidable (pool.Spares step ∧ Spared steps (pool.step step)))

/-! ## Pools in use -/

/-- One of the pools of an account may have a connection now or later. -/
def InUse (pool : Pop3Pool π) (key : AccountKey) (number : Nat) : Prop :=
  ∃ bb8, pool.built[number]? = some (key, bb8) ∧ ¬IsSpent bb8

/-- Every account has one pool in use at most, and the registry refers to it. -/
structure Accounted (pool : Pop3Pool π) : Prop where
  sized : ∀ key bb8, (key, bb8) ∈ pool.built → maxSize bb8 = 1
  registered : ∀ key number, pool.pools key = some number →
    ∃ bb8, pool.built[number]? = some (key, bb8)
  alone : ∀ key number number', pool.InUse key number → pool.InUse key number' →
    number = number'
  current : ∀ key number number', pool.pools key = some number → pool.InUse key number' →
    number' = number

/-- Where a connection exists, the pool is in use. -/
theorem Lives.inUse
    {pool : Pop3Pool π}
    {key : AccountKey}
    {number place : Nat}
    (lives : pool.Lives key number place) :
    pool.InUse key number := by
  obtain ⟨bb8, built, bound⟩ := lives
  refine ⟨bb8, built, fun spent => ?_⟩
  rw [spent.1] at bound
  exact Nat.not_lt_zero _ bound

/-- A pool capped at one connection has none but the first. -/
theorem Lives.place_eq_zero
    {pool : Pop3Pool π}
    {key : AccountKey}
    {number place : Nat}
    (lives : pool.Lives key number place)
    (accounted : Accounted pool) :
    place = 0 := by
  obtain ⟨bb8, built, bound⟩ := lives
  have atMost := bounded bb8
  rw [accounted.sized key bb8 (List.mem_of_getElem? built)] at atMost
  omega

theorem Accounted.exclusive
    {pool : Pop3Pool π}
    (accounted : Accounted pool) :
    Exclusive pool := by
  intro key number place number' place' lives lives'
  refine ⟨accounted.alone key number number' lives.inUse lives'.inUse, ?_⟩
  rw [lives.place_eq_zero accounted, lives'.place_eq_zero accounted]

theorem accounted_new : Accounted (new : Pop3Pool π) where
  sized _ _ member := nomatch member
  registered _ _ registered := nomatch registered
  alone _ _ _ inUse _ := nomatch inUse.choose_spec.1
  current _ _ _ registered _ := nomatch registered

/-! ## Steps -/

/-- The per-account pools go on, and none comes into use but one that is registered. -/
theorem Accounted.of_built
    {pool : Pop3Pool π}
    (accounted : Accounted pool)
    {built : List (AccountKey × π)}
    (length : built.length = pool.built.length)
    (goesOn : ∀ number key bb8, built[number]? = some (key, bb8) →
      ∃ before, pool.built[number]? = some (key, before) ∧ maxSize bb8 = maxSize before ∧
        (IsSpent before → IsSpent bb8 ∨ pool.pools key = some number)) :
    Accounted { pool with built } := by
  have inUse : ∀ {key number}, ({ pool with built } : Pop3Pool π).InUse key number →
      pool.InUse key number ∨ pool.pools key = some number := by
    rintro key number ⟨bb8, found, unspent⟩
    obtain ⟨before, was, _, stays⟩ := goesOn number key bb8 found
    by_cases spent : IsSpent before
    · exact .inr ((stays spent).resolve_left unspent)
    · exact .inl ⟨before, was, spent⟩
  refine ⟨?sized, ?registered, ?alone, ?current⟩
  case sized =>
    intro key bb8 member
    obtain ⟨number, found⟩ := List.mem_iff_getElem?.mp member
    obtain ⟨before, was, same, _⟩ := goesOn number key bb8 found
    rw [same]
    exact accounted.sized key before (List.mem_of_getElem? was)
  case registered =>
    intro key number registered
    obtain ⟨before, was⟩ := accounted.registered key number registered
    have bound : number < built.length := by
      rw [length]
      exact (List.getElem?_eq_some_iff.mp was).1
    obtain ⟨before', was', _⟩ := goesOn number _ _ (List.getElem?_eq_getElem bound)
    have same : key = built[number].1 := congrArg Prod.fst (Option.some.inj (was.symm.trans was'))
    exact ⟨built[number].2, by rw [same]; exact List.getElem?_eq_getElem bound⟩
  case alone =>
    intro key number number' left right
    rcases inUse left, inUse right with ⟨left | left, right | right⟩
    · exact accounted.alone key number number' left right
    · exact accounted.current key number' number right left
    · exact (accounted.current key number number' left right).symm
    · exact Option.some.inj (left.symm.trans right)
  case current =>
    intro key number number' registered other
    rcases inUse other with other | other
    · exact accounted.current key number number' registered other
    · exact Option.some.inj (other.symm.trans registered)

theorem Accounted.release
    {pool : Pop3Pool π}
    (accounted : Accounted pool) :
    Accounted pool.release := by
  refine accounted.of_built (by simp) fun number key bb8 found => ?_
  rw [List.getElem?_mapIdx, Option.map_eq_some_iff] at found
  obtain ⟨⟨_, before⟩, was, same⟩ := found
  dsimp only at same
  split at same
  · cases same
    exact ⟨_, was, rfl, .inl⟩
  · cases same
    exact ⟨before, was, maxSize_dropped before, fun spent => .inl spent.dropped⟩

/-- What happens inside a pool does not bring it into use. -/
theorem Accounted.occurs
    {pool : Pop3Pool π}
    (accounted : Accounted pool)
    (place : Nat)
    (occurrence : Occurrence π) :
    Accounted (pool.occurs place occurrence) := by
  refine accounted.of_built (by simp) fun number key bb8 found => ?_
  rw [List.getElem?_modify, Option.map_eq_map, Option.map_eq_some_iff] at found
  obtain ⟨⟨_, before⟩, was, same⟩ := found
  dsimp only at same
  split at same
  · cases same
    exact ⟨before, was, maxSize_occurs occurrence before, fun spent => .inl (spent.occurs _)⟩
  · cases same
    exact ⟨_, was, rfl, .inl⟩

/-- A task waits in the pool that is registered. -/
theorem Accounted.checkout
    {pool after : Pop3Pool π}
    (accounted : Accounted pool)
    {key : AccountKey}
    (found : pool.checkout key = .ok after) :
    Accounted after := by
  unfold Pop3Pool.checkout at found
  split at found
  · cases found
  · rename_i place registered
    cases found
    refine accounted.of_built (by simp) fun number other bb8 found => ?_
    rw [List.getElem?_modify, Option.map_eq_map, Option.map_eq_some_iff] at found
    obtain ⟨⟨_, before⟩, was, same⟩ := found
    dsimp only at same
    split at same
    · rename_i here
      cases same
      subst here
      obtain ⟨_, there⟩ := accounted.registered key place registered
      cases there.symm.trans was
      exact ⟨before, was, maxSize_getOwned before, fun _ => .inr registered⟩
    · cases same
      exact ⟨_, was, rfl, .inl⟩

theorem Accounted.removeAccount
    {pool : Pop3Pool π}
    (accounted : Accounted pool)
    (key : AccountKey) :
    Accounted (pool.removeAccount key).2 := by
  have before : ∀ {other number}, (pool.removeAccount key).2.pools other = some number →
      pool.pools other = some number := by
    intro other number registered
    dsimp only [Pop3Pool.removeAccount] at registered
    split at registered
    · cases registered
    · exact registered
  exact {
    sized := accounted.sized
    registered := fun other number registered =>
      accounted.registered other number (before registered)
    alone := accounted.alone
    current := fun other number number' registered =>
      accounted.current other number number' (before registered) }

/-- An account that is added has no other pool in use. -/
theorem Accounted.addAccount
    {pool : Pop3Pool π}
    (accounted : Accounted pool)
    {key : AccountKey}
    {builder : Pop3ClientBuilder}
    {username password : Str}
    (spares : pool.Spares (.addAccount key builder username password)) :
    Accounted (pool.addAccount key builder username password) := by
  unfold Pop3Pool.addAccount
  split
  · exact accounted
  · rename_i absent
    have unregistered : pool.pools key = none := by simpa using absent
    have spent := spares unregistered
    let manager : Pop3ConnectionManager := { builder, username, password }
    have fresh : ∀ {other bb8}, (other, bb8) ∈ [(key, (buildUnchecked 1 manager : π))] →
        other = key ∧ bb8 = buildUnchecked 1 manager := by
      intro other bb8 member
      cases List.eq_of_mem_singleton member
      exact ⟨rfl, rfl⟩
    have inUse : ∀ {pools other number},
        InUse ⟨pools, pool.built ++ [(key, (buildUnchecked 1 manager : π))]⟩ other number →
          pool.InUse other number ∧ other ≠ key := by
      rintro pools other number ⟨bb8, found, unspent⟩
      by_cases bound : number < pool.built.length
      · rw [List.getElem?_append_left bound] at found
        refine ⟨⟨bb8, found, unspent⟩, ?_⟩
        rintro rfl
        exact unspent (spent _ (List.mem_of_getElem? found) rfl)
      · rw [List.getElem?_append_right (Nat.le_of_not_lt bound)] at found
        obtain ⟨_, rfl⟩ := fresh (List.mem_of_getElem? found)
        exact absurd (isSpent_buildUnchecked 1 manager) unspent
    refine ⟨?sized, ?registered, ?alone, ?current⟩
    case sized =>
      intro other bb8 member
      rcases List.mem_append.mp member with member | member
      · exact accounted.sized other bb8 member
      · obtain ⟨_, rfl⟩ := fresh member
        exact maxSize_buildUnchecked 1 manager
    case registered =>
      intro other number registered
      dsimp only at registered
      split at registered
      · rename_i same
        cases registered
        exact ⟨_, by rw [same, List.getElem?_append_right (Nat.le_refl _), Nat.sub_self]; rfl⟩
      · obtain ⟨bb8, found⟩ := accounted.registered other number registered
        refine ⟨bb8, ?_⟩
        rw [List.getElem?_append_left (List.getElem?_eq_some_iff.mp found).1]
        exact found
    case alone =>
      intro other number number' left right
      exact accounted.alone other number number' (inUse left).1 (inUse right).1
    case current =>
      intro other number number' registered used
      dsimp only at registered
      rw [if_neg (inUse used).2] at registered
      exact accounted.current other number number' registered (inUse used).1

theorem Accounted.step
    {pool : Pop3Pool π}
    (accounted : Accounted pool)
    {step : PoolStep π}
    (spares : pool.Spares step) :
    Accounted (pool.step step) := by
  refine Accounted.release ?_
  cases step with
  | addAccount key builder username password => exact accounted.addAccount spares
  | checkout key =>
      dsimp only
      cases found : pool.checkout key with
      | error error => exact accounted
      | ok after => exact accounted.checkout found
  | removeAccount key => exact accounted.removeAccount key
  | within number occurrence => exact accounted.occurs number occurrence

/-! ## Runs -/

/-- A run whose steps all spare the pools that are still in use keeps accounts. -/
theorem accounted_run
    {steps : List (PoolStep π)}
    {pool : Pop3Pool π}
    (accounted : Accounted pool)
    (spared : Spared steps pool) :
    Accounted (pool.run steps) := by
  induction steps generalizing pool with
  | nil => exact accounted
  | cons step steps inductionHypothesis =>
      exact inductionHypothesis (accounted.step spared.1) spared.2

theorem Spared.of_append
    {before after : List (PoolStep π)}
    {pool : Pop3Pool π}
    (spared : Spared (before ++ after) pool) :
    Spared before pool := by
  induction before generalizing pool with
  | nil => trivial
  | cons step steps inductionHypothesis => exact ⟨spared.1, inductionHypothesis spared.2⟩

/-- Every account has one connection at most at every moment of a run in which no account is
added again while an earlier pool of it is still in use. -/
theorem exclusive_run
    (steps : List (PoolStep π))
    (spared : Spared steps (new : Pop3Pool π)) :
    ∀ before after, steps = before ++ after → Exclusive ((new : Pop3Pool π).run before) := by
  rintro before after rfl
  exact (accounted_run accounted_new spared.of_append).exclusive

end Exclusivity

/-! ## Two holders -/

/-- A server that accepts every command. -/
structure Admitting where

instance : Server Admitting where
  respond server _ := (server, { bytes := utf8 "+OK\r\n".toList })

def Admitting.dial : Dial Admitting where
  connects _ _ := .ok { server := {}, wire := utf8 "+OK\r\n".toList }

section Holders

variable [Md5]

/-- A task checks out a connection of an account. -/
def obtaining (key : AccountKey) (number : Nat) : List (PoolStep (ClientPool Admitting)) :=
  [.checkout key, .within number (PoolOccurrence.connects (σ := Admitting)),
    .within number (PoolOccurrence.connected 0 Admitting.dial),
    .within number (PoolOccurrence.checksOut (σ := Admitting) 0)]

/-- An account is added, and a task obtains its connection. -/
def employing (key : AccountKey) (number : Nat) : List (PoolStep (ClientPool Admitting)) :=
  .addAccount key { hostname := key.host } key.username [] :: obtaining key number

/-- An account is removed and added again, while a task holds its connection or after the
task has dropped it. -/
def readding (key : AccountKey) (between : List (PoolStep (ClientPool Admitting))) :
    List (PoolStep (ClientPool Admitting)) :=
  employing key 0 ++ between ++ .removeAccount key :: employing key 1

/-- One task after the other uses the mailbox. -/
def takingTurns (key : AccountKey) : List (PoolStep (ClientPool Admitting)) :=
  readding key [.within 0 (PoolOccurrence.returns (σ := Admitting) 0)]

end Holders

/-- The sessions of the tasks that hold a connection. -/
def holders (pool : Pop3Pool (ClientPool σ)) : List (AccountKey × List SessionState) :=
  pool.built.map fun (key, bb8) =>
    (key, bb8.connections.filterMap fun connection =>
      match connection with
      | .checkedOut client => some client.state
      | _ => none)

/-- Where a task holds a connection, there is one. -/
theorem lives_of_holders
    [Server σ] [Md5]
    {pool : Pop3Pool (ClientPool σ)}
    {key : AccountKey}
    {number : Nat}
    {session : SessionState}
    {sessions : List SessionState}
    (held : (holders pool)[number]? = some (key, session :: sessions)) :
    pool.Lives key number 0 := by
  rw [holders, List.getElem?_map, Option.map_eq_some_iff] at held
  obtain ⟨⟨_, bb8⟩, found, same⟩ := held
  cases same' : bb8.connections with
  | nil => simp [same'] at same
  | cons connection connections =>
      refine ⟨bb8, ?_, ?_⟩
      · rw [found, (Prod.mk.inj same).1]
      · show 0 < bb8.connections.length
        rw [same']
        exact Nat.succ_pos _

/-- Two tasks hold authenticated connections to one mailbox. -/
theorem exists_two_holders :
    ¬∀ [Md5] (steps : List (PoolStep (ClientPool Admitting))),
      Exclusive ((new : Pop3Pool (ClientPool Admitting)).run steps) := by
  intro always
  let _ := emptyDigest
  let key : AccountKey := { host := [], port := 110, username := [] }
  have held : holders (run (readding key []) new) =
      [(key, [.authenticated]), (key, [.authenticated])] := by
    decide +kernel
  have same := always (readding key []) key 0 0 1 0
    (lives_of_holders (by rw [held]; rfl)) (lives_of_holders (by rw [held]; rfl))
  exact absurd same.1 (by decide)

/-- The account is added again after the task has dropped its connection. -/
theorem exclusive_run_takingTurns :
    @Exclusive (ClientPool Admitting) (@ClientPool.instBb8 _ _ emptyDigest)
      (@run _ (@ClientPool.instBb8 _ _ emptyDigest)
        (@takingTurns emptyDigest { host := [], port := 110, username := [] }) new) :=
  @exclusive_run _ (@ClientPool.instBb8 _ _ emptyDigest) _ (by decide +kernel) _ []
    (List.append_nil _).symm

end Pop3Pool

end Pop3
