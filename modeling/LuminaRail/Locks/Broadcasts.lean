import LuminaRail.Locks.MutualExclusion

/-! Sending a settlement under its lock. The flow looks at a flag of its own before it sends, which
its heartbeat clears when a renewal has failed; Redis goes by its clock.
-/

namespace LuminaRail.Timed

open Concurrency

-----------------------------------------------------------------------------------------
-- The flow
-----------------------------------------------------------------------------------------

/-- What is done besides the locks takes its time, and may fail. -/
def work : Service Unit := command fun world => ((), world)

/-- `sendTransaction`, under the lock of the settlement. -/
def sendTransaction (lock : DistributedLock) : Service Unit :=
  act fun _ world => ((), { world with trace := .sent lock world.clock :: world.trace })

/-- How often a lock is asked for again until three seconds are over. -/
def attempts : Service Nat :=
  ExceptT.mk (Program.action fun _ world input => some (.ok input.number, world))

namespace DistributedLockService

def poll (config : Config) (lockTtlMs : Option Nat) (key : String) (options : LockOptions)
    : Nat → Service (Option DistributedLock)
  | 0 => pure none
  | attempt + 1 => do
      match ← acquire config lockTtlMs key options with
      | some lock => pure (some lock)
      | none => poll config lockTtlMs key options attempt

def acquireOrPoll (config : Config) (lockTtlMs : Option Nat) (key : String) (options : LockOptions)
    : Service (Option DistributedLock) := do
  match ← acquire config lockTtlMs key options with
  | some lock => pure (some lock)
  | none => poll config lockTtlMs key options (← attempts)

/-- `try { body } finally { release(lock) }`. -/
def finallyRelease (body : Service Unit) (lock : DistributedLock) : Service Unit := do
  let result ← tryCatch (Except.ok <$> body) fun error => pure (.error error)
  let _ ← release (some lock)
  match result with
  | .ok _ => pure ()
  | .error error => throw error

end DistributedLockService

def DistributedLock.throwIfLost (lock : DistributedLock) (error : AppError) : Service Unit := do
  let owned ← lock.isOwned
  if owned then pure () else throw error

/-- The transaction is built and signed, then the flag of the settlement's lock is looked at, then it
is sent.
-/
def executeUnderLock (parentLock : DistributedLock) : Service Unit := do
  work
  work
  parentLock.throwIfLost (.sorobanSubmission
    "Parent settlement lock was lost after KMS signing; aborting Soroban RPC submission.")
  sendTransaction parentLock
  work

def buildAndSubmitSettlementTransaction (config : Config) (lockTtlMs : Option Nat)
    (publicKey : String) (parentLock : DistributedLock) : Service Unit := do
  work
  let sequenceLockKey := s!"lock:stellar:sequence:{publicKey}"
  match ← DistributedLockService.acquireOrPoll config lockTtlMs sequenceLockKey
      { ttlMs := some 20000 } with
  | none =>
      if config.requiresLocks then
        throw (.sorobanSubmission
          s!"Failed to acquire required Stellar sequence lock for key {sequenceLockKey}")
      else
        executeUnderLock parentLock
  | some seqLock =>
      DistributedLockService.finallyRelease (do
        seqLock.throwIfLost
          (.sorobanSubmission "Stellar sequence lock lost before building transaction.")
        executeUnderLock parentLock) seqLock

/-- `executeSettlementFlow` of a settlement that has not been sent. -/
def executeSettlementFlow (config : Config) (lockTtlMs : Option Nat) (publicKey settlementId : String)
    (lock : DistributedLock) : Service Unit := do
  work
  lock.throwIfLost
    ⟨s!"Distributed lock lost for settlement {settlementId} before submission.", 500, ""⟩
  buildAndSubmitSettlementTransaction config lockTtlMs publicKey lock
  work

/-- `processSingleOrder`. -/
def processSettlement (config : Config) (lockTtlMs : Option Nat) (publicKey settlementId : String)
    : Service Unit := do
  work
  match ← DistributedLockService.acquireOrPoll config lockTtlMs s!"lock:settlement:{settlementId}"
      { ttlMs := some 20000 } with
  | none =>
      if config.requiresLocks then
        throw ⟨s!"Could not acquire distributed settlement lock for {settlementId}", 500, ""⟩
      else
        work
  | some lock =>
      DistributedLockService.finallyRelease (do
        work
        executeSettlementFlow config lockTtlMs publicKey settlementId lock) lock

/-- A worker settles something with the account of a signer, or it does anything else with locks, as
the heartbeat of a lock does.
-/
inductive Party
  | settle (publicKey settlementId : String)
  | lock (call : Call)

def Party.service (config : Config) (lockTtlMs : Option Nat) : Party → Service Unit
  | .settle publicKey settlementId => processSettlement config lockTtlMs publicKey settlementId
  | .lock call => call.service config lockTtlMs

/-- The parties' programs. -/
def workers (config : Config) (lockTtlMs : Option Nat) (parties : Tid → Option Party) (t : Tid)
    : Program World Input Unit :=
  match parties t with
  | none => .done ()
  | some party => (party.service config lockTtlMs).run.bind fun _ => .done ()

-----------------------------------------------------------------------------------------
-- What Redis holds
-----------------------------------------------------------------------------------------

variable {before after world : World} {key ownerToken' : String} {ownerToken : Token} {ttlMs : Nat}
  {lock : DistributedLock} {config : Config} {lockTtlMs : Option Nat} {t : Tid}

/-- An entry says the end of the lease of its token. -/
def Granted (world : World) : Prop :=
  ∀ key entry,
    world.entries key = some entry → leaseEnd key entry.value world.trace = some entry.deadline

/-- The lease of the lock is in force: less than its time to live has passed since Redis has last
carried out its acquisition or a renewal of it, and it has not been released.
-/
def InForce (lock : DistributedLock) (world : World) : Prop :=
  ∃ bound, leaseEnd lock.key lock.ownerToken world.trace = some bound ∧ world.clock < bound

/-- Redis holds the token of a lock exactly as long as its lease is in force. -/
theorem get_iff_inForce (stored : Stored world) (granted : Granted world)
    : world.get lock.key = some lock.ownerToken ↔ InForce lock world := by
  constructor
  · intro held
    obtain ⟨entry, found, own⟩ := Option.map_eq_some_iff.mp held
    obtain ⟨there, current⟩ := Option.filter_eq_some_iff.mp found
    exact ⟨entry.deadline, own ▸ granted lock.key entry there, by simpa using current⟩
  · intro lease
    obtain ⟨bound, lease, current⟩ := lease
    rcases stored lock.key lock.ownerToken bound lease with there | past
    · simp [World.get, there, Option.filter, current]
    · exact absurd past (Nat.not_le.mpr current)

/-- A new entry records a grant of its own, by cases on the key. -/
theorem Granted.setNx (granted : Granted world) (absent : world.get key = none)
    (ownerToken : Token) (ttlMs : Nat)
    : Granted (world.setNx key ownerToken ttlMs).2 := by
  intro other entry found
  simp only [World.setNx, absent, leaseEnd] at found ⊢
  by_cases same : other = key
  · subst same
    simp only [Function.update_self, Option.some.injEq] at found
    subst found
    simp
  · rw [if_neg fun both => same both.1.symm]
    rw [Function.update_of_ne same] at found
    exact granted other entry found

/-- A renewal records that the entry lives on. -/
theorem Granted.renew (granted : Granted world) (held : world.get lock.key = some lock.ownerToken)
    : Granted (world.renew lock).2 := by
  intro other entry found
  simp only [World.renew, held, if_true, leaseEnd] at found ⊢
  by_cases same : other = lock.key
  · subst same
    simp only [Function.update_self, Option.some.injEq] at found
    subst found
    simp
  · rw [if_neg fun both => same both.1.symm]
    rw [Function.update_of_ne same] at found
    exact granted other entry found

/-- A release removes an entry that was granted. -/
theorem Granted.release (granted : Granted world)
    (held : world.get lock.key = some lock.ownerToken)
    : Granted (world.release lock).2 := by
  intro other entry found
  simp only [World.release, held, if_true, leaseEnd] at found ⊢
  by_cases same : other = lock.key
  · subst same
    simp at found
  · rw [if_neg fun both => same both.1.symm]
    rw [Function.update_of_ne same] at found
    exact granted other entry found

/-- Expiry only removes entries, and the clock only goes on. -/
theorem Granted.chance {chance : Chance} {live : Tid → Bool} (granted : Granted before)
    (happened : machine.env live before chance = some after)
    : Granted after := by
  cases chance with
  | tick milliseconds =>
      obtain rfl := Option.some.inj happened
      exact granted
  | expire key =>
      simp only [machine] at happened
      split at happened
      · obtain rfl := Option.some.inj happened
        intro other entry found
        by_cases same : other = key
        · subst same
          simp at found
        · exact granted other entry (by simpa [same] using found)
      · simp at happened

/-- What is done to the locks in one step. -/
inductive Moves (before : World) : World → Prop
  | quiet {after : World} (quiet : Quiet before after) : Moves before after
  | acquires (key : String) (ownerToken : Token) (ttlMs : Nat) (absent : before.get key = none)
    : Moves before (before.setNx key ownerToken ttlMs).2
  | renews (lock : DistributedLock) (held : before.get lock.key = some lock.ownerToken)
    : Moves before (before.renew lock).2
  | releases (lock : DistributedLock) (held : before.get lock.key = some lock.ownerToken)
    : Moves before (before.release lock).2

/-- Both invariants, by the kinds of moves. -/
theorem Moves.kept (moves : Moves before after) (stored : Stored before) (granted : Granted before)
    : Stored after ∧ Granted after := by
  cases moves with
  | quiet quiet =>
      obtain ⟨entries, clock, trace⟩ := quiet
      exact ⟨Quiet.stored ⟨entries, clock, trace⟩ stored,
        by simpa only [Granted, entries, trace] using granted⟩
  | acquires key ownerToken ttlMs absent =>
      exact ⟨stored.setNx absent _ _, granted.setNx absent _ _⟩
  | renews lock held => exact ⟨stored.renew held, granted.renew held⟩
  | releases lock held => exact ⟨stored.release held, granted.release held⟩

/-- A move of the store broadcasts nothing. -/
theorem Moves.unsent {time : Nat} (moves : Moves before after)
    : after.trace ≠ .sent lock time :: before.trace := by
  intro sends
  cases moves with
  | quiet quiet => simpa using quiet.2.2.symm.trans sends
  | acquires key ownerToken ttlMs absent => simp [World.setNx, absent] at sends
  | renews lock held => simp [World.renew, held] at sends
  | releases lock held => simp [World.release, held] at sends

/-- The leases of the locks that a thread has acquired stay. -/
def Keeps (t : Tid) (before after : World) : Prop :=
  ∀ key ownerToken, ownerToken.owner = t → (leaseEnd key ownerToken before.trace).isSome
    → (leaseEnd key ownerToken after.trace).isSome

/-- A quiet step keeps what is recorded of the locks. -/
theorem Quiet.keeps (quiet : Quiet before after) : Keeps t before after := by
  intro key ownerToken _ leased
  rwa [quiet.2.2]

/-- A step that ends no lease. -/
def Steady (before after : World) : Prop := Moves before after ∧ ∀ t, Keeps t before after

/-- A quiet step is steady. -/
theorem steady_quiet (before after : World) (quiet : Quiet before after) : Steady before after :=
  ⟨.quiet quiet, fun _ => quiet.keeps⟩

/-- An attempt to take a lock is steady, whether the key is free or not. -/
theorem steady_setNx (world : World) (key : String) (ownerToken : Token) (ttlMs : Nat)
    : Steady world (world.setNx key ownerToken ttlMs).2 := by
  cases found : world.get key with
  | none =>
      refine ⟨.acquires key ownerToken ttlMs found, fun t other token _ leased => ?_⟩
      simp only [World.setNx, found, leaseEnd]
      split
      · rfl
      · exact leased
  | some other => exact steady_quiet _ _ (by simp [World.setNx, found, Quiet.refl])

/-- A renewal is steady, whether the lock is still held or not. -/
theorem steady_renew (world : World) (lock : DistributedLock)
    : Steady world (world.renew lock).2 := by
  by_cases held : world.get lock.key = some lock.ownerToken
  · refine ⟨.renews lock held, fun t other token _ leased => ?_⟩
    simp only [World.renew, held, if_true, leaseEnd]
    split
    · rfl
    · exact leased
  · exact steady_quiet _ _ (by simp [World.renew, held, Quiet.refl])

/-- A release ends the lease of its token only. -/
theorem moves_release (world : World) (lock : DistributedLock)
    : Moves world (world.release lock).2
      ∧ ∀ t, t ≠ lock.ownerToken.owner → Keeps t world (world.release lock).2 := by
  by_cases held : world.get lock.key = some lock.ownerToken
  · refine ⟨.releases lock held, fun t other key token own leased => ?_⟩
    simp only [World.release, held, if_true, leaseEnd]
    rw [if_neg]
    · exact leased
    · intro same
      exact other (by rw [← own, same.2])
  · have quiet : Quiet world (world.release lock).2 := by simp [World.release, held, Quiet.refl]
    exact ⟨.quiet quiet, fun _ _ => quiet.keeps⟩

-----------------------------------------------------------------------------------------
-- The parties
-----------------------------------------------------------------------------------------

/-- The thread settles something. -/
def Settles (parties : Tid → Option Party) (t : Tid) : Prop :=
  ∃ publicKey settlementId, parties t = some (.settle publicKey settlementId)

/-- A worker has its lock objects to itself and to its heartbeats: nobody else releases them. -/
def LocksPrivate (parties : Tid → Option Party) : Prop :=
  ∀ t lock, parties t = some (.lock (.release (some lock)))
    → ¬Settles parties lock.ownerToken.owner

/-- The thread has acquired the lock and not released it. -/
def Leased (t : Tid) (lock : DistributedLock) (world : World) : Prop :=
  lock.ownerToken.owner = t ∧ (leaseEnd lock.key lock.ownerToken world.trace).isSome

/-- The parties keep Redis in line with what has happened. Nobody ends the lease of a worker but the
worker itself, and nothing is sent without a lease.
-/
def exchange (parties : Tid → Option Party) : Protocol World where
  inv world := Stored world ∧ Granted world
  rely t before after := Settles parties t → Keeps t before after
  guar t before after :=
    (Moves before after ∧ ∀ other, other ≠ t → Settles parties other → Keeps other before after)
    ∨ ∃ lock, Leased t lock before
        ∧ after = { before with trace := .sent lock before.clock :: before.trace }
  allowed _ _ _ := True
  rely_refl _ _ _ _ _ _ leased := leased
  rely_trans first second settles key token own leased :=
    second settles key token own (first settles key token own leased)
  guar_rely other _ _ guaranteed settles := by
    rcases guaranteed with ⟨_, keeps⟩ | ⟨lock, _, rfl⟩
    · exact keeps _ (Ne.symm other) settles
    · exact fun _ _ _ leased => leased

variable {parties : Tid → Option Party}

/-- The environment records nothing, by cases on what happens. -/
theorem trace_of_chance {live : Tid → Bool} {chance : Chance}
    (happened : machine.env live before chance = some after)
    : after.trace = before.trace := by
  cases chance with
  | tick milliseconds =>
      obtain rfl := Option.some.inj happened
      rfl
  | expire removed =>
      simp only [machine] at happened
      split at happened
      · obtain rfl := Option.some.inj happened
        rfl
      · simp at happened

/-- The machine takes no step that the protocol does not know. -/
theorem fits_exchange : machine.Fits (exchange parties) where
  env live before chance after held happened := by
    refine ⟨⟨held.1.chance happened, held.2.chance happened⟩, fun t _ _ key token _ leased => ?_⟩
    rwa [trace_of_chance happened]
  crash _ _ held := ⟨held, fun _ _ _ _ _ _ leased => leased⟩

/-- A steady step is allowed to every party. -/
theorem Steady.guaranteed (steady : Steady before after) (held : (exchange parties).inv before)
    : (exchange parties).inv after ∧ (exchange parties).guar t before after :=
  ⟨steady.1.kept held.1 held.2, Or.inl ⟨steady.1, fun other _ _ => steady.2 other⟩⟩

-----------------------------------------------------------------------------------------
-- The flow
-----------------------------------------------------------------------------------------

/-- The flow has these locks. -/
def Has (t : Tid) (locks : List DistributedLock) (world : World) : Prop :=
  ∀ lock ∈ locks, Leased t lock world

section

variable (settles : Settles parties t) {locks : List DistributedLock}
include settles

/-- The locks that a party has are its own. -/
theorem stable_has : (exchange parties).Stable t (Has t locks) :=
  fun _ _ _ _ relied has lock member =>
    ⟨(has lock member).1, relied settles _ _ (has lock member).1 (has lock member).2⟩

/-- A program of steady steps keeps the locks of its party. -/
theorem spec_steady {α : Type} {program : Service α} {Q : α → Prop}
    (within : Within Steady t program Q)
    : (exchange parties).Spec t (Has t locks) program (fun value world => Q value ∧ Has t locks world)
        fun _ world => Has t locks world :=
  Protocol.Spec.of_within within
    (fun _ _ held has steady _ => by
      obtain ⟨kept, guaranteed⟩ := steady.guaranteed held
      exact ⟨kept, guaranteed, fun lock member =>
        ⟨(has lock member).1, steady.2 t _ _ (has lock member).1 (has lock member).2⟩⟩)
    (stable_has settles)

/-- SET under a new token of the thread: if it succeeds the thread has the lock. -/
theorem spec_setNx (key : String) {ownerToken : Token} (own : ownerToken.owner = t) (ttlMs : Nat)
    : (exchange parties).Spec t (Has t locks)
        (command fun world => world.setNx key ownerToken ttlMs)
        (fun result world =>
          Has t (if result then ⟨key, ownerToken, ttlMs⟩ :: locks else locks) world)
        fun _ world => Has t locks world := by
  refine Protocol.Spec.action (stable_has settles) fun world input result after held has acted _ => ?_
  have kept {after : World} (steady : Steady world after)
      : (exchange parties).inv after ∧ (exchange parties).guar t world after ∧ Has t locks after := by
    obtain ⟨holds, guaranteed⟩ := steady.guaranteed held
    exact ⟨holds, guaranteed, fun lock member =>
      ⟨(has lock member).1, steady.2 t _ _ (has lock member).1 (has lock member).2⟩⟩
  have set := kept (steady_setNx world key ownerToken ttlMs)
  simp only at acted
  split at acted
  · obtain ⟨rfl, rfl⟩ := Prod.mk.inj (Option.some.inj acted)
    split
    · exact set
    · exact kept (steady_quiet world world (Quiet.refl world))
  · obtain ⟨rfl, rfl⟩ := Prod.mk.inj (Option.some.inj acted)
    refine ⟨set.1, set.2.1, ?_⟩
    change Has t (if (world.setNx key ownerToken ttlMs).1 then _ else _) _
    split
    · rename_i succeeded
      intro lock member
      rcases List.mem_cons.mp member with rfl | member
      · refine ⟨own, ?_⟩
        cases found : world.get key with
        | none => simp [World.setNx, found, leaseEnd]
        | some other => simp [World.setNx, found] at succeeded
      · exact set.2.2 lock member
    · exact set.2.2

/-- An attempt gives the party a lock, or leaves it as it was. -/
theorem spec_acquire {key : String} {options : LockOptions}
    : (exchange parties).Spec t (Has t locks)
        (DistributedLockService.acquire config lockTtlMs key options)
        (fun lock world => Has t (lock.toList ++ locks) world) fun _ world => Has t locks world := by
  have generated : Within Steady t DistributedLockService.generateOwnerToken
      fun ownerToken => ownerToken.owner = t := by
    refine Within.action fun world input result after acted => ?_
    obtain ⟨rfl, rfl⟩ := Prod.mk.inj (Option.some.inj acted)
    exact ⟨steady_quiet _ _ ⟨rfl, rfl, rfl⟩, rfl⟩
  refine Protocol.Spec.bind (spec_steady settles generated) fun ownerToken => ?_
  refine Protocol.Spec.assume fun own => ?_
  refine Protocol.Spec.tryCatch (Protocol.Spec.bind (spec_setNx settles key own _) fun result => ?_)
    fun error => ?_
  · cases result with
    | true => exact Protocol.Spec.pure _ fun _ _ has => has
    | false => exact Protocol.Spec.pure _ fun _ _ has => has
  · split
    · exact Protocol.Spec.throw _ fun _ _ has => has
    · exact Protocol.Spec.pure _ fun _ _ has => has

/-- Polling gives the party a lock or none, by induction on the attempts. -/
theorem spec_poll {key : String} {options : LockOptions} (attempts : Nat)
    : (exchange parties).Spec t (Has t locks)
        (DistributedLockService.poll config lockTtlMs key options attempts)
        (fun lock world => Has t (lock.toList ++ locks) world) fun _ world => Has t locks world := by
  induction attempts with
  | zero => exact Protocol.Spec.pure _ fun _ _ has => has
  | succ attempt ih =>
      refine Protocol.Spec.bind (spec_acquire settles) fun lock => ?_
      cases lock with
      | some lock => exact Protocol.Spec.pure _ fun _ _ has => has
      | none => exact ih

/-- A lock is taken at once, or polled for. -/
theorem spec_acquireOrPoll {key : String} {options : LockOptions}
    : (exchange parties).Spec t (Has t locks)
        (DistributedLockService.acquireOrPoll config lockTtlMs key options)
        (fun lock world => Has t (lock.toList ++ locks) world) fun _ world => Has t locks world := by
  refine Protocol.Spec.bind (spec_acquire settles) fun lock => ?_
  cases lock with
  | some lock => exact Protocol.Spec.pure _ fun _ _ has => has
  | none =>
      have counted : Within Steady t attempts fun _ => True := by
        refine Within.action fun world input result after acted => ?_
        obtain ⟨rfl, rfl⟩ := Prod.mk.inj (Option.some.inj acted)
        exact ⟨steady_quiet _ _ (Quiet.refl world), trivial⟩
      exact Protocol.Spec.bind (spec_steady settles counted) fun attempts =>
        Protocol.Spec.assume fun _ => spec_poll settles attempts

/-- Work keeps the locks of its party. -/
theorem spec_work
    : (exchange parties).Spec t (Has t locks) work (fun _ world => Has t locks world)
        fun _ world => Has t locks world :=
  (spec_steady settles (within_command steady_quiet fun world =>
    steady_quiet _ _ (Quiet.refl world))).conseq (fun _ _ has => has) (fun _ _ _ has => has.2)
    fun _ _ _ has => has

/-- A check of a lock keeps the locks, and throws if it is lost. -/
theorem spec_throwIfLost {error : AppError}
    : (exchange parties).Spec t (Has t locks) (lock.throwIfLost error)
        (fun _ world => Has t locks world) fun _ world => Has t locks world := by
  refine Protocol.Spec.bind (spec_steady settles (within_isOwned steady_quiet lock)) fun owned =>
    Protocol.Spec.assume fun _ => ?_
  split
  · exact Protocol.Spec.pure _ fun _ _ has => has
  · exact Protocol.Spec.throw _ fun _ _ has => has

/-- The flow sends under a lock that it has. -/
theorem spec_sendTransaction (mine : lock ∈ locks)
    : (exchange parties).Spec t (Has t locks) (sendTransaction lock)
        (fun _ world => Has t locks world) fun _ world => Has t locks world := by
  refine Protocol.Spec.action (stable_has settles) fun world input result after held has acted _ => ?_
  obtain ⟨rfl, rfl⟩ := Prod.mk.inj (Option.some.inj acted)
  exact ⟨held, Or.inr ⟨lock, has lock mine, rfl⟩, has⟩

/-- A broadcast follows a check of a lock that its party has. -/
theorem spec_executeUnderLock (mine : lock ∈ locks)
    : (exchange parties).Spec t (Has t locks) (executeUnderLock lock)
        (fun _ world => Has t locks world) fun _ world => Has t locks world :=
  Protocol.Spec.bind (spec_work settles) fun _ => Protocol.Spec.bind (spec_work settles) fun _ =>
    Protocol.Spec.bind (spec_throwIfLost settles) fun _ =>
      Protocol.Spec.bind (spec_sendTransaction settles mine) fun _ => spec_work settles

omit settles in
/-- The flow gives up its lock in the end. -/
theorem spec_finallyRelease {body : Service Unit} {P : World → Prop}
    (own : lock.ownerToken.owner = t)
    (spec : (exchange parties).Spec t P body (fun _ _ => True) fun _ _ => True)
    : (exchange parties).Spec t P (DistributedLockService.finallyRelease body lock)
        (fun _ _ => True) fun _ _ => True := by
  have releases : Within
      (fun before after => Moves before after ∧ ∀ other, other ≠ t → Keeps other before after) t
      (DistributedLockService.release (some lock)) fun _ => True := by
    refine within_release (fun before after quiet => ⟨.quiet quiet, fun _ _ => quiet.keeps⟩)
      fun world => ?_
    have released := moves_release world lock
    rw [own] at released
    exact released
  have respects : (exchange parties).Respects t
      (fun before after => Moves before after ∧ ∀ other, other ≠ t → Keeps other before after)
      fun _ => True :=
    fun _ _ held _ moves _ => ⟨moves.1.kept held.1 held.2,
      Or.inl ⟨moves.1, fun other different _ => moves.2 other different⟩, trivial⟩
  have release : (exchange parties).Spec t (fun _ => True)
      (DistributedLockService.release (some lock)) (fun _ _ => True) fun _ _ => True :=
    (Protocol.Spec.of_within releases respects (Protocol.Stable.const True)).forget
  refine Protocol.Spec.bind (Q := fun _ _ => True)
    (Protocol.Spec.tryCatch (Protocol.Spec.map spec) fun error =>
      Protocol.Spec.pure _ fun _ _ _ => trivial)
    fun result => Protocol.Spec.bind release fun _ => ?_
  split
  · exact Protocol.Spec.pure _ fun _ _ _ => trivial
  · exact Protocol.Spec.throw _ fun _ _ _ => trivial

/-- Work keeps the locks, for a caller that does not look at what was thrown. -/
theorem working
    : (exchange parties).Spec t (Has t locks) work (fun _ world => Has t locks world)
        fun _ _ => True :=
  (spec_work settles).conseq (fun _ _ has => has) (fun _ _ _ has => has) fun _ _ _ _ => trivial

/-- A lock is asked for, for a caller that does not look at what was thrown. -/
theorem asking {key : String} {options : LockOptions}
    : (exchange parties).Spec t (Has t locks)
        (DistributedLockService.acquireOrPoll config lockTtlMs key options)
        (fun lock world => Has t (lock.toList ++ locks) world) fun _ _ => True :=
  (spec_acquireOrPoll settles).conseq (fun _ _ has => has) (fun _ _ _ has => has)
    fun _ _ _ _ => trivial

/-- A submission broadcasts under the settlement lock of its party. -/
theorem spec_buildAndSubmit {publicKey : String} (mine : lock ∈ locks)
    : (exchange parties).Spec t (Has t locks)
        (buildAndSubmitSettlementTransaction config lockTtlMs publicKey lock) (fun _ _ => True)
        fun _ _ => True := by
  refine Protocol.Spec.bind (working settles) fun _ => ?_
  refine Protocol.Spec.bind (asking settles) fun seqLock => ?_
  cases seqLock with
  | none =>
      dsimp only
      split
      · exact Protocol.Spec.throw _ fun _ _ _ => trivial
      · exact (spec_executeUnderLock settles mine).forget
  | some seqLock =>
      refine Protocol.Spec.of_safe fun world held has => ?_
      refine (spec_finallyRelease (has seqLock List.mem_cons_self).1 ?_).safe held has
      exact (Protocol.Spec.bind (spec_throwIfLost settles) fun _ =>
        spec_executeUnderLock settles (List.mem_cons_of_mem _ mine)).forget

/-- A worker never sends without a lease of the settlement's lock. -/
theorem spec_processSettlement {publicKey settlementId : String}
    : (exchange parties).Spec t (fun _ => True)
        (processSettlement config lockTtlMs publicKey settlementId) (fun _ _ => True)
        fun _ _ => True := by
  have begins : (exchange parties).Spec t (fun _ => True) work (fun _ world => Has t [] world)
      fun _ _ => True :=
    (working settles).pre fun _ _ _ lock member => absurd member List.not_mem_nil
  refine Protocol.Spec.bind begins fun _ => Protocol.Spec.bind (asking settles) fun lock => ?_
  cases lock with
  | none =>
      dsimp only
      split
      · exact Protocol.Spec.throw _ fun _ _ _ => trivial
      · exact (spec_work settles).forget
  | some lock =>
      refine Protocol.Spec.of_safe fun world held has => ?_
      refine (spec_finallyRelease (has lock List.mem_cons_self).1 ?_).safe held has
      refine Protocol.Spec.bind (working settles) fun _ => Protocol.Spec.bind (working settles)
        fun _ => Protocol.Spec.bind (Protocol.Spec.conseq (spec_throwIfLost settles)
          (fun _ _ has => has) (fun _ _ _ has => has) fun _ _ _ _ => trivial) fun _ => ?_
      exact Protocol.Spec.bind (spec_buildAndSubmit settles List.mem_cons_self) fun _ => begins.forget

end

/-- Every party broadcasts only under a lock of its own, by cases on the party. -/
theorem Party.spec (isPrivate : LocksPrivate parties) {party : Party} (given : parties t = some party)
    : (exchange parties).Spec t (fun _ => True) (party.service config lockTtlMs) (fun _ _ => True)
        fun _ _ => True := by
  cases party with
  | settle publicKey settlementId => exact spec_processSettlement ⟨publicKey, settlementId, given⟩
  | lock call =>
      have within : Within (fun before after => Moves before after
          ∧ ∀ other, other ≠ t → Settles parties other → Keeps other before after) t
          (call.service config lockTtlMs) fun _ => True := by
        have steady {before after : World} (steady : Steady before after) : Moves before after
            ∧ ∀ other, other ≠ t → Settles parties other → Keeps other before after :=
          ⟨steady.1, fun other _ _ => steady.2 other⟩
        have quiet (before after : World) (quiet : Quiet before after) :=
          steady (steady_quiet before after quiet)
        cases call with
        | acquire key options =>
            exact Within.bind (within_acquire quiet fun world ownerToken =>
              steady (steady_setNx world key ownerToken _)) fun _ _ => Within.pure trivial
        | renew lock =>
            exact Within.bind (within_renew quiet fun world => steady (steady_renew world lock))
              fun _ _ => Within.pure trivial
        | heartbeat lock =>
            exact within_heartbeat quiet fun world => steady (steady_renew world lock)
        | release lock =>
            cases lock with
            | none =>
                exact Within.bind (Q := fun _ => True) (Within.pure trivial) fun _ _ =>
                  Within.pure trivial
            | some lock =>
                refine Within.bind (within_release quiet fun world => ?_) fun _ _ =>
                  Within.pure trivial
                refine ⟨(moves_release world lock).1, fun other _ settles => ?_⟩
                refine (moves_release world lock).2 other fun same => ?_
                exact isPrivate t lock given (same ▸ settles)
      have respects : (exchange parties).Respects t _ fun _ => True :=
        fun _ _ held _ moves _ => ⟨moves.1.kept held.1 held.2, Or.inl moves, trivial⟩
      exact (Protocol.Spec.of_within within respects (Protocol.Stable.const True)).forget

variable {pool last : Pool World Input}

/-- Every step of every run is verified, by the rule for runs. -/
theorem verified_workers (isPrivate : LocksPrivate parties)
    (run : AnyRun machine ⟨World.start, workers config lockTtlMs parties⟩ pool)
    : pool.Verified (exchange parties) := by
  refine Run.verified fits_exchange run ⟨⟨nofun, nofun⟩, fun t _ => ?_⟩
  unfold workers
  dsimp only
  split
  · exact Protocol.Safe.done trivial
  · rename_i party given
    exact Protocol.Safe.bind ((Party.spec isPrivate given).safe ⟨nofun, nofun⟩ trivial)
      (fun _ _ _ _ => Protocol.Safe.done trivial) ⟨nofun, nofun⟩

/-- Whatever the delays between the steps of the workers and of their heartbeats: the lock under
which a settlement is sent has a lease, and Redis holds its token exactly if the lease has not
ended. By the invariant that a broadcast only happens under a lease, which every run keeps.
-/
theorem broadcast_locked_iff {move : Move Input Chance} {lock : DistributedLock}
    (isPrivate : LocksPrivate parties)
    (run : AnyRun machine ⟨World.start, workers config lockTtlMs parties⟩ pool)
    (moved : pool.move machine move = some last)
    (sends : last.state.trace = .sent lock pool.state.clock :: pool.state.trace)
    : ∃ bound, leaseEnd lock.key lock.ownerToken pool.state.trace = some bound
        ∧ (pool.state.get lock.key = some lock.ownerToken ↔ pool.state.clock < bound) := by
  have verified := verified_workers isPrivate run
  have unchanged (same : last.state.trace = pool.state.trace) : False := by
    simpa using same.symm.trans sends
  have leased : (leaseEnd lock.key lock.ownerToken pool.state.trace).isSome := by
    cases move with
    | run t input =>
        rcases (verified.run moved trivial).1 with ⟨moves, _⟩ | ⟨other, leased, sent⟩
        · exact absurd sends moves.unsent
        · have same : other = lock := by simpa [sent] using sends
          exact same ▸ leased.2
    | crash t =>
        obtain ⟨_, same, _⟩ := Pool.move_crash moved
        exact (unchanged (congrArg World.trace same)).elim
    | env chance =>
        obtain ⟨happened, _⟩ := Pool.move_env moved
        exact (unchanged (trace_of_chance happened)).elim
  obtain ⟨bound, lease⟩ := Option.isSome_iff_exists.mp leased
  refine ⟨bound, lease, (get_iff_inForce verified.inv.1 verified.inv.2).trans ?_⟩
  exact ⟨fun inForce => by
      obtain ⟨other, same, current⟩ := inForce
      rwa [Option.some.inj (lease.symm.trans same)],
    fun current => ⟨bound, lease, current⟩⟩

/-- Two workers settle the same. -/
def settlingTwice (t : Tid) : Option Party :=
  if t < 2 then some (.settle "GSIGNER" "1") else none

/-- Witness: the two workers of the run have settlement locks of their own. -/
theorem locksPrivate_settlingTwice : LocksPrivate settlingTwice := by
  intro t lock given
  unfold settlingTwice at given
  split at given <;> simp at given

/-- The lock that a worker takes first. -/
def settlementLock (owner : Tid) (serial : Nat) : DistributedLock :=
  ⟨"lock:settlement:1", ⟨owner, serial⟩, 20000⟩

/-- A worker on its way to where it has looked at its flag and sends next. -/
def untilSent (t : Tid) : List (Move Input Chance) := List.replicate 13 (.run t {})

/-- A worker that is not delayed sends in time. -/
theorem broadcast_in_time
    : ∃ pool last,
        AnyRun machine ⟨World.start, workers {} (some 15000) settlingTwice⟩ pool
        ∧ pool.move machine (.run 0 {}) = some last
        ∧ last.state.trace = .sent (settlementLock 0 0) pool.state.clock :: pool.state.trace
        ∧ ∃ bound,
          leaseEnd "lock:settlement:1" ⟨0, 0⟩ pool.state.trace = some bound
          ∧ (pool.state.get "lock:settlement:1" = some ⟨0, 0⟩ ↔ pool.state.clock < bound) := by
  have went : ((Pool.schedule machine ⟨World.start, workers {} (some 15000) settlingTwice⟩
      (untilSent 0)).bind fun pool =>
        (pool.move machine (.run 0 {})).map fun last =>
          (last.state.trace, pool.state.trace, pool.state.clock))
      = some ([.sent (settlementLock 0 0) 0,
            .acquired "lock:stellar:sequence:GSIGNER" ⟨0, 1⟩ 20000 0,
            .acquired "lock:settlement:1" ⟨0, 0⟩ 20000 0],
          [.acquired "lock:stellar:sequence:GSIGNER" ⟨0, 1⟩ 20000 0,
            .acquired "lock:settlement:1" ⟨0, 0⟩ 20000 0], 0) := by
    decide +kernel
  obtain ⟨pool, scheduled, moved⟩ := Option.bind_eq_some_iff.mp went
  obtain ⟨last, moved, seen⟩ := Option.map_eq_some_iff.mp moved
  obtain ⟨after, before⟩ := Prod.mk.inj seen
  obtain ⟨before, clock⟩ := Prod.mk.inj before
  have run := AnyRun.of_schedule scheduled
  have sends : last.state.trace
      = .sent (settlementLock 0 0) pool.state.clock :: pool.state.trace := by
    rw [after, before, clock]
  exact ⟨pool, last, run, moved, sends,
    broadcast_locked_iff locksPrivate_settlingTwice run moved sends⟩

/-- The second worker has sent, twenty seconds after the first one has got the same locks. -/
def bothLeases : List Event :=
  [.sent (settlementLock 1 2) 20000,
    .acquired "lock:stellar:sequence:GSIGNER" ⟨1, 3⟩ 20000 20000,
    .acquired "lock:settlement:1" ⟨1, 2⟩ 20000 20000,
    .acquired "lock:stellar:sequence:GSIGNER" ⟨0, 1⟩ 20000 0,
    .acquired "lock:settlement:1" ⟨0, 0⟩ 20000 0]

/-- A worker that is delayed after it has looked at its flag sends although another has taken over the
lock and has sent as well. Neither knows of it.
-/
theorem both_broadcast
    : ∃ pool last,
        AnyRun machine ⟨World.start, workers {} (some 15000) settlingTwice⟩ pool
        ∧ pool.move machine (.run 0 {}) = some last
        ∧ last.state.trace = .sent (settlementLock 0 0) 20000 :: pool.state.trace
        ∧ .sent (settlementLock 1 2) 20000 ∈ pool.state.trace
        ∧ pool.state.get "lock:settlement:1" = some ⟨1, 2⟩
        ∧ pool.state.lost ⟨0, 0⟩ = false ∧ pool.state.lost ⟨1, 2⟩ = false := by
  have went : ((Pool.schedule machine ⟨World.start, workers {} (some 15000) settlingTwice⟩
      (untilSent 0 ++ .env (.tick 20000) :: untilSent 1 ++ [.run 1 {}])).bind fun pool =>
        (pool.move machine (.run 0 {})).map fun last =>
          (last.state.trace, pool.state.trace, pool.state.get "lock:settlement:1",
            pool.state.lost ⟨0, 0⟩, pool.state.lost ⟨1, 2⟩))
      = some (.sent (settlementLock 0 0) 20000 :: bothLeases, bothLeases, some ⟨1, 2⟩, false, false)
      := by
    decide +kernel
  obtain ⟨pool, scheduled, moved⟩ := Option.bind_eq_some_iff.mp went
  obtain ⟨last, moved, seen⟩ := Option.map_eq_some_iff.mp moved
  simp only [Prod.mk.injEq] at seen
  obtain ⟨after, before, holder, first, second⟩ := seen
  refine ⟨pool, last, AnyRun.of_schedule scheduled, moved, by rw [after, before], ?_, holder, first,
    second⟩
  rw [before]
  exact List.mem_cons_self

end LuminaRail.Timed
