import LuminaRail.Model.Config
import LuminaRail.Model.World

/-! `DistributedLockService`: locks in Redis, each stored under a token of its acquisition.
The heartbeat that renews a lock belongs to the environment: it may lose the lock at any time.
-/

namespace LuminaRail

open Concurrency Service

structure DistributedLock where
  key : String
  ownerToken : Token
deriving DecidableEq

namespace DistributedLockService

/-- SET NX. Where Redis fails the token may have been stored or not. -/
def acquire (config : Config) (key : String) : Service (Option DistributedLock) :=
  act fun t world input =>
    let answer := world.redis.acquire t key
    if input.throws then
      let after := if input.number = 0 then world else { world with redis := answer.2 }
      if config.requiresLocks then
        some (.error ⟨s!"Distributed lock required but unavailable for key {key}: {input.text}",
          500, "INTERNAL_SERVER_ERROR"⟩, after)
      else
        some (.ok none, after)
    else
      some (.ok (answer.1.map fun token => ⟨key, token⟩), { world with redis := answer.2 })

/-- `lock.isOwned()`. -/
def isOwned (lock : DistributedLock) : Service Bool :=
  act fun _ world _ => some (.ok (!world.lost lock.ownerToken), world)

/-- The key is deleted only if it stores this lock's token; errors are swallowed. -/
def release (lock : DistributedLock) : Service Bool :=
  act fun _ world input =>
    if world.lost lock.ownerToken then
      some (.ok false, world)
    else
      let lost := Function.update world.lost lock.ownerToken true
      if input.throws then
        some (.ok false, { world with lost := lost })
      else
        some (.ok (world.redis.holder lock.key = some lock.ownerToken),
          { world with redis := world.redis.release lock.key lock.ownerToken, lost := lost })

/-- Polling for a lock; how often it is polled before the time is over is up to the environment. -/
def poll (config : Config) (key : String) : Nat → Service (Option DistributedLock)
  | 0 => pure none
  | attempt + 1 => do
      match ← acquire config key with
      | some lock => pure (some lock)
      | none => poll config key attempt

end DistributedLockService

/-- `if (lock && !lock.isOwned()) throw error`. -/
def DistributedLock.throwIfLost (lock : Option DistributedLock) (error : AppError)
    : Service Unit := do
  match lock with
  | none => pure ()
  | some lock =>
      let owned ← DistributedLockService.isOwned lock
      throwIf (owned = false) error

/-- `if (lock) await DistributedLockService.release(lock)`. -/
def DistributedLock.release (lock : Option DistributedLock) : Service Unit := do
  match lock with
  | some lock =>
      let _ ← DistributedLockService.release lock
  | none => pure ()

end LuminaRail
