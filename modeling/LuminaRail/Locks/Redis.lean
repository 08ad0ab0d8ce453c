import LuminaRail.Concurrency.Footprint
import LuminaRail.Concurrency.Lease
import LuminaRail.Concurrency.Pool
import LuminaRail.Model.Config
import LuminaRail.Model.Errors

/-! Redis with expiry, and the locks that `DistributedLockService` keeps in it. A command is one
action; whether its reply arrives is up to the environment, and a command whose reply is lost may
have been executed or not.
-/

namespace LuminaRail.Timed

open Concurrency

/-- A value, and the time from which on it is not there any more. -/
structure Entry where
  value : Token
  deadline : Nat
deriving DecidableEq

/-- A lock object; whether it is still owned is kept beside it. -/
structure DistributedLock where
  key : String
  ownerToken : Token
  ttlMs : Nat
deriving DecidableEq

/-- What Redis has done to the locks, and what has been sent under one, and when. -/
inductive Event
  | acquired (key : String) (ownerToken : Token) (ttlMs time : Nat)
  | renewed (lock : DistributedLock) (time : Nat)
  | released (lock : DistributedLock) (time : Nat)
  | sent (lock : DistributedLock) (time : Nat)
deriving DecidableEq

/-- The entries of Redis, its clock, how many tokens have been generated, the tokens whose locks know
that they are lost, and the events so far, the newest first.
-/
structure World where
  entries : String → Option Entry
  clock : Nat
  generated : Nat
  lost : Token → Bool
  trace : List Event

def World.start : World := ⟨fun _ => none, 0, 0, fun _ => false, []⟩

/-- GET. -/
def World.get (world : World) (key : String) : Option Token :=
  ((world.entries key).filter fun entry => world.clock < entry.deadline).map Entry.value

/-- SET key token PX ttl NX. -/
def World.setNx (world : World) (key : String) (ownerToken : Token) (ttlMs : Nat) : Bool × World :=
  match world.get key with
  | some _ => (false, world)
  | none =>
      (true,
        { world with
          entries := Function.update world.entries key (some ⟨ownerToken, world.clock + ttlMs⟩)
          trace := .acquired key ownerToken ttlMs world.clock :: world.trace })

/-- `luaRenewScript`. -/
def World.renew (world : World) (lock : DistributedLock) : Bool × World :=
  if world.get lock.key = some lock.ownerToken then
    (true,
      { world with
        entries := Function.update world.entries lock.key
          (some ⟨lock.ownerToken, world.clock + lock.ttlMs⟩)
        trace := .renewed lock world.clock :: world.trace })
  else
    (false, world)

/-- `luaReleaseScript`. -/
def World.release (world : World) (lock : DistributedLock) : Bool × World :=
  if world.get lock.key = some lock.ownerToken then
    (true,
      { world with
        entries := Function.update world.entries lock.key none
        trace := .released lock world.clock :: world.trace })
  else
    (false, world)

/-- Whether the reply of a command arrives, and if not, whether the command has been executed; how
often a loop is run through.
-/
structure Input where
  throws : Bool := false
  executed : Bool := false
  text : String := ""
  number : Nat := 0

abbrev Service (α : Type) := ExceptT AppError (Program World Input) α

def act {α : Type} (action : Tid → World → α × World) : Service α :=
  ExceptT.mk (Program.action fun t world _ =>
    let answer := action t world
    some (.ok answer.1, answer.2))

/-- A command to Redis. -/
def command {α : Type} (run : World → α × World) : Service α :=
  ExceptT.mk (Program.action fun _ world input =>
    let answer := run world
    if input.throws then
      some (.error ⟨input.text, 500, ""⟩, if input.executed then answer.2 else world)
    else
      some (.ok answer.1, answer.2))

structure LockOptions where
  ttlMs : Option Nat := none

namespace DistributedLock

def isOwned (lock : DistributedLock) : Service Bool :=
  act fun _ world => (!world.lost lock.ownerToken, world)

def markLost (lock : DistributedLock) : Service Unit :=
  act fun _ world => ((), { world with lost := Function.update world.lost lock.ownerToken true })

end DistributedLock

namespace DistributedLockService

/-- No token is generated twice. -/
def generateOwnerToken : Service Token :=
  act fun t world => (⟨t, world.generated⟩, { world with generated := world.generated + 1 })

/-- `options.ttlMs || config.redis?.lockTtlMs || 15000`. -/
def timeToLive (lockTtlMs : Option Nat) (options : LockOptions) : Nat :=
  ((options.ttlMs.filter (· ≠ 0)).or (lockTtlMs.filter (· ≠ 0))).getD 15000

def acquire (config : Config) (lockTtlMs : Option Nat) (key : String) (options : LockOptions := {})
    : Service (Option DistributedLock) := do
  let ttlMs := timeToLive lockTtlMs options
  let ownerToken ← generateOwnerToken
  tryCatch (do
    let result ← command fun world => world.setNx key ownerToken ttlMs
    if result then pure (some ⟨key, ownerToken, ttlMs⟩) else pure none) fun error =>
      if config.requiresLocks then
        throw ⟨s!"Distributed lock required but unavailable for key {key}: {error.message}", 500,
          "INTERNAL_SERVER_ERROR"⟩
      else
        pure none

def renew (lock : DistributedLock) : Service Bool := do
  let owned ← lock.isOwned
  if owned then
    tryCatch (do
      let isRenewed ← command fun world => world.renew lock
      if isRenewed = false then lock.markLost else pure ()
      pure isRenewed) fun _ => do
        lock.markLost
        pure false
  else
    pure false

def release (lock : Option DistributedLock) : Service Bool := do
  match lock with
  | none => pure false
  | some lock =>
      let owned ← lock.isOwned
      if owned then
        tryCatch (do
          let released ← command fun world => world.release lock
          lock.markLost
          pure released) fun _ => do
            lock.markLost
            pure false
      else
        pure false

end DistributedLockService

/-- One round of the timer that `startHeartbeat` sets. -/
def DistributedLock.heartbeat (lock : DistributedLock) : Service Unit := do
  let owned ← lock.isOwned
  if owned then
    let renewed ← DistributedLockService.renew lock
    if renewed = false then lock.markLost else pure ()
  else
    pure ()

/-- What a client may do, any number of times and with any lock object. -/
inductive Call
  | acquire (key : String) (options : LockOptions)
  | renew (lock : DistributedLock)
  | heartbeat (lock : DistributedLock)
  | release (lock : Option DistributedLock)

def Call.service (config : Config) (lockTtlMs : Option Nat) : Call → Service Unit
  | .acquire key options => do
      let _ ← DistributedLockService.acquire config lockTtlMs key options
  | .renew lock => do
      let _ ← DistributedLockService.renew lock
  | .heartbeat lock => lock.heartbeat
  | .release lock => do
      let _ ← DistributedLockService.release lock

/-- The clients' programs. -/
def clients (config : Config) (lockTtlMs : Option Nat) (calls : Tid → Option Call) (t : Tid)
    : Program World Input Unit :=
  match calls t with
  | none => .done ()
  | some call => (call.service config lockTtlMs).run.bind fun _ => .done ()

/-- Time passes, and entries that have run out are removed. -/
inductive Chance
  | tick (milliseconds : Nat)
  | expire (key : String)

def machine : Machine World Chance where
  env _ world
    | .tick milliseconds => some { world with clock := world.clock + milliseconds }
    | .expire key =>
        if world.get key = none then
          some { world with entries := Function.update world.entries key none }
        else
          none
  crash _ world := world

end LuminaRail.Timed
