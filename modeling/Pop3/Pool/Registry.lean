import Pop3.Pool.Bb8

/-!
# The pool of accounts

A registry of per-account pools, each capped at one connection.  Tasks clone a
per-account pool out of the registry, so that a pool which is no longer
registered lives on while a task waits in it or holds its connection.
-/

namespace Pop3

open Rust

/-- What identifies a mailbox account. -/
structure AccountKey where
  host : Str
  port : UInt16
  username : Str
  deriving DecidableEq

/-- The errors of the pool. -/
inductive Pop3PoolError
  | checkoutTimeout
  | connection (error : Pop3Error)
  | unknownAccount (key : AccountKey)
  deriving DecidableEq

/-- The pool, with every per-account pool that it has built. -/
structure Pop3Pool (π : Type) where
  /-- The registry: where the pool of an account is among those built. -/
  pools : AccountKey → Option Nat
  /-- The per-account pools in the order of their building, each with its account. -/
  built : List (AccountKey × π)

namespace Pop3Pool

variable [Bb8 π]

/-- A pool without accounts. -/
def new : Pop3Pool π where
  pools _ := none
  built := []

/-- Register an account.  If it is already registered, nothing happens. -/
def addAccount
    (key : AccountKey)
    (builder : Pop3ClientBuilder)
    (username password : Str)
    (pool : Pop3Pool π) : Pop3Pool π :=
  if (pool.pools key).isSome then pool
  else
    let manager : Pop3ConnectionManager := { builder, username, password }
    { pools := fun other => if other = key then some pool.built.length else pool.pools other
      built := pool.built ++ [(key, Bb8.buildUnchecked 1 manager)] }

/-- A task looks the pool of an account up, and waits in it for a connection. -/
def checkout (key : AccountKey) (pool : Pop3Pool π) : Except Pop3PoolError (Pop3Pool π) :=
  match pool.pools key with
  | none => .error (.unknownAccount key)
  | some number =>
      .ok { pool with
        built := pool.built.modify number fun (key, bb8) => (key, Bb8.getOwned bb8) }

/-- Remove an account from the registry, if it is there. -/
def removeAccount (key : AccountKey) (pool : Pop3Pool π) : Bool × Pop3Pool π :=
  ((pool.pools key).isSome,
    { pool with pools := fun other => if other = key then none else pool.pools other })

/-- Something happens inside one of the per-account pools. -/
def occurs (number : Nat) (occurrence : Bb8.Occurrence π) (pool : Pop3Pool π) : Pop3Pool π :=
  { pool with
    built := pool.built.modify number fun (key, bb8) => (key, Bb8.occurs occurrence bb8) }

/-- A per-account pool is dropped when it is neither registered nor held by a task. -/
def release (pool : Pop3Pool π) : Pop3Pool π :=
  { pool with
    built := pool.built.mapIdx fun number (key, bb8) =>
      if pool.pools key = some number ∨ Bb8.isHeld bb8 = true then (key, bb8)
      else (key, Bb8.dropped bb8) }

end Pop3Pool

/-- What happens to a pool, in the order in which the tasks take the lock of the registry
and the per-account pools go on. -/
inductive PoolStep (π : Type) [Bb8 π]
  | addAccount (key : AccountKey) (builder : Pop3ClientBuilder) (username password : Str)
  | checkout (key : AccountKey)
  | removeAccount (key : AccountKey)
  | within (number : Nat) (occurrence : Bb8.Occurrence π)

namespace Pop3Pool

variable [Bb8 π]

def step (step : PoolStep π) (pool : Pop3Pool π) : Pop3Pool π :=
  release <|
    match step with
    | .addAccount key builder username password => pool.addAccount key builder username password
    | .checkout key => (pool.checkout key).toOption.getD pool
    | .removeAccount key => (pool.removeAccount key).2
    | .within number occurrence => pool.occurs number occurrence

/-- The pool after a sequence of steps of any number of tasks. -/
def run (steps : List (PoolStep π)) (pool : Pop3Pool π) : Pop3Pool π :=
  steps.foldl (fun pool step => pool.step step) pool

end Pop3Pool

end Pop3
