import LuminaRail.Locks.Redis

/-! At any time at most one client holds a lock. What Redis has done to a key, and when, says until
when the key is taken, and the entries of Redis agree with that as long as they have not run out.
-/

namespace LuminaRail.Timed

open Concurrency

variable {before after world : World} {key : String} {ownerToken : Token} {ttlMs : Nat}
  {lock : DistributedLock} {config : Config} {lockTtlMs : Option Nat} {call : Call} {t : Tid}

/-- Until when the token keeps the key: from its acquisition, or the last renewal, for the time to
live, unless it has been released.
-/
def leaseEnd (key : String) (ownerToken : Token) : List Event → Option Nat
  | [] => none
  | .acquired other token ttlMs time :: earlier =>
      if other = key ∧ token = ownerToken then some (time + ttlMs)
      else leaseEnd key ownerToken earlier
  | .renewed lock time :: earlier =>
      if lock.key = key ∧ lock.ownerToken = ownerToken then some (time + lock.ttlMs)
      else leaseEnd key ownerToken earlier
  | .released lock _ :: earlier =>
      if lock.key = key ∧ lock.ownerToken = ownerToken then none
      else leaseEnd key ownerToken earlier
  | .sent _ _ :: earlier => leaseEnd key ownerToken earlier

/-- A lease that has not run out is what is stored under its key. -/
def Stored (world : World) : Prop :=
  ∀ key ownerToken bound, leaseEnd key ownerToken world.trace = some bound
    → world.entries key = some ⟨ownerToken, bound⟩ ∨ bound ≤ world.clock

/-- A key of which nothing is found is free. -/
theorem Stored.free (stored : Stored world) (absent : world.get key = none) {bound : Nat}
    (lease : leaseEnd key ownerToken world.trace = some bound)
    : bound ≤ world.clock := by
  rcases stored key ownerToken bound lease with there | past
  · simpa [World.get, there] using absent
  · exact past

/-- A key under which a token is found belongs to nobody else. -/
theorem Stored.held (stored : Stored world) (found : world.get key = some ownerToken) {other : Token}
    {bound : Nat} (lease : leaseEnd key other world.trace = some bound)
    (different : other ≠ ownerToken)
    : bound ≤ world.clock := by
  rcases stored key other bound lease with there | past
  · have found : (Option.filter (fun entry => decide (world.clock < entry.deadline))
        (some (⟨other, bound⟩ : Entry))).map Entry.value = some ownerToken := by
      rw [← there]
      exact found
    by_cases current : world.clock < bound
    · simp [Option.filter, current, different] at found
    · exact Nat.not_lt.mp current
  · exact past

-----------------------------------------------------------------------------------------
-- What a call does to Redis
-----------------------------------------------------------------------------------------

/-- Redis is left alone. -/
def Quiet (before after : World) : Prop :=
  after.entries = before.entries ∧ after.clock = before.clock ∧ after.trace = before.trace

/-- What a call does to Redis in one step. -/
def Call.Moves (lockTtlMs : Option Nat) : Call → World → World → Prop
  | .acquire key options, before, after => Quiet before after
      ∨ ∃ ownerToken, before.get key = none
        ∧ after = (before.setNx key ownerToken
          (DistributedLockService.timeToLive lockTtlMs options)).2
  | .renew lock, before, after | .heartbeat lock, before, after => Quiet before after
      ∨ before.get lock.key = some lock.ownerToken ∧ after = (before.renew lock).2
  | .release (some lock), before, after => Quiet before after
      ∨ before.get lock.key = some lock.ownerToken ∧ after = (before.release lock).2
  | .release none, before, after => Quiet before after

theorem Quiet.refl (world : World) : Quiet world world := ⟨rfl, rfl, rfl⟩

theorem Quiet.stored (quiet : Quiet before after) (stored : Stored before) : Stored after := by
  obtain ⟨entries, clock, trace⟩ := quiet
  simpa only [Stored, entries, clock, trace] using stored

theorem Stored.setNx (stored : Stored world) (absent : world.get key = none) (ownerToken : Token)
    (ttlMs : Nat)
    : Stored (world.setNx key ownerToken ttlMs).2 := by
  intro other token bound lease
  simp only [World.setNx, absent, leaseEnd] at lease ⊢
  split at lease
  · rename_i same
    obtain ⟨rfl, rfl⟩ := same
    exact Or.inl (by simp [Option.some.inj lease])
  · by_cases same : other = key
    · subst same
      exact Or.inr (stored.free absent lease)
    · simpa [same] using stored other token bound lease

theorem Stored.renew (stored : Stored world) (found : world.get lock.key = some lock.ownerToken)
    : Stored (world.renew lock).2 := by
  intro other token bound lease
  simp only [World.renew, found, if_true, leaseEnd] at lease ⊢
  split at lease
  · rename_i same
    obtain ⟨rfl, rfl⟩ := same
    exact Or.inl (by simp [Option.some.inj lease])
  · rename_i different
    by_cases same : other = lock.key
    · subst same
      exact Or.inr (stored.held found lease fun equal => different ⟨rfl, equal.symm⟩)
    · simpa [same] using stored other token bound lease

theorem Stored.release (stored : Stored world) (found : world.get lock.key = some lock.ownerToken)
    : Stored (world.release lock).2 := by
  intro other token bound lease
  simp only [World.release, found, if_true, leaseEnd] at lease ⊢
  split at lease
  · simp at lease
  · rename_i different
    by_cases same : other = lock.key
    · subst same
      exact Or.inr (stored.held found lease fun equal => different ⟨rfl, equal.symm⟩)
    · simpa [same] using stored other token bound lease

theorem Call.Moves.stored (moves : call.Moves lockTtlMs before after) (stored : Stored before)
    : Stored after := by
  cases call with
  | acquire key options =>
      rcases moves with quiet | ⟨ownerToken, absent, rfl⟩
      · exact quiet.stored stored
      · exact stored.setNx absent _ _
  | renew lock | heartbeat lock =>
      rcases moves with quiet | ⟨found, rfl⟩
      · exact quiet.stored stored
      · exact stored.renew found
  | release lock =>
      cases lock with
      | none => exact Quiet.stored moves stored
      | some lock =>
          rcases moves with quiet | ⟨found, rfl⟩
          · exact quiet.stored stored
          · exact stored.release found

/-- A step of Redis by itself. -/
theorem Stored.chance {chance : Chance} {live : Tid → Bool} (stored : Stored before)
    (happened : machine.env live before chance = some after)
    : Stored after := by
  cases chance with
  | tick milliseconds =>
      obtain rfl := Option.some.inj happened
      intro key ownerToken bound lease
      exact (stored key ownerToken bound lease).imp id fun past =>
        past.trans (Nat.le_add_right _ _)
  | expire key =>
      simp only [machine] at happened
      split at happened
      · rename_i absent
        obtain rfl := Option.some.inj happened
        intro other ownerToken bound lease
        by_cases same : other = key
        · subst same
          exact Or.inr (stored.free absent lease)
        · simpa [same] using stored other ownerToken bound lease
      · simp at happened

-----------------------------------------------------------------------------------------
-- The calls
-----------------------------------------------------------------------------------------

section

variable {φ : World → World → Prop} (quiet : ∀ before after, Quiet before after → φ before after)
include quiet

theorem within_act {α : Type} {action : Tid → World → α × World}
    (local' : ∀ t world, Quiet world (action t world).2)
    : Within φ t (act action) := by
  refine Within.action fun world input result after acted => ?_
  obtain ⟨rfl, rfl⟩ := Prod.mk.inj (Option.some.inj acted)
  exact ⟨quiet _ _ (local' t world), trivial⟩

/-- A command is executed, or it is not. -/
theorem within_command {α : Type} {run : World → α × World} (runs : ∀ world, φ world (run world).2)
    : Within φ t (command run) := by
  refine Within.action fun world input result after acted => ?_
  simp only at acted
  split at acted
  · obtain ⟨rfl, rfl⟩ := Prod.mk.inj (Option.some.inj acted)
    split
    · exact ⟨runs world, trivial⟩
    · exact ⟨quiet _ _ (Quiet.refl world), trivial⟩
  · obtain ⟨rfl, rfl⟩ := Prod.mk.inj (Option.some.inj acted)
    exact ⟨runs world, trivial⟩

theorem within_isOwned (lock : DistributedLock) : Within φ t lock.isOwned :=
  within_act quiet fun _ _ => ⟨rfl, rfl, rfl⟩

theorem within_markLost (lock : DistributedLock) : Within φ t lock.markLost :=
  within_act quiet fun _ _ => ⟨rfl, rfl, rfl⟩

theorem within_acquire {options : LockOptions}
    (sets : ∀ world ownerToken, φ world (world.setNx key ownerToken
      (DistributedLockService.timeToLive lockTtlMs options)).2)
    : Within φ t (DistributedLockService.acquire config lockTtlMs key options) := by
  refine Within.bind (within_act quiet fun _ _ => ⟨rfl, rfl, rfl⟩) fun ownerToken _ => ?_
  refine Within.tryCatch (Within.bind (within_command quiet fun world => sets world ownerToken)
    fun result _ => ?_) fun error => ?_
  · split
    · exact Within.pure trivial
    · exact Within.pure trivial
  · split
    · exact Within.throw _
    · exact Within.pure trivial

theorem within_renew (renews : ∀ world, φ world (world.renew lock).2)
    : Within φ t (DistributedLockService.renew lock) := by
  have lost := within_markLost (t := t) quiet lock
  refine Within.bind (within_isOwned quiet lock) fun owned _ => ?_
  split
  · refine Within.tryCatch (Within.bind (within_command quiet renews) fun isRenewed _ => ?_) fun _ =>
      Within.bind lost fun _ _ => Within.pure trivial
    split
    · exact Within.bind lost fun _ _ => Within.pure trivial
    · exact Within.pure trivial
  · exact Within.pure trivial

theorem within_heartbeat (renews : ∀ world, φ world (world.renew lock).2)
    : Within φ t lock.heartbeat := by
  refine Within.bind (within_isOwned quiet lock) fun owned _ => ?_
  split
  · refine Within.bind (within_renew quiet renews) fun renewed _ => ?_
    split
    · exact within_markLost quiet lock
    · exact Within.pure trivial
  · exact Within.pure trivial

theorem within_release (releases : ∀ world, φ world (world.release lock).2)
    : Within φ t (DistributedLockService.release (some lock)) := by
  have lost := within_markLost (t := t) quiet lock
  refine Within.bind (within_isOwned quiet lock) fun owned _ => ?_
  split
  · refine Within.tryCatch (Within.bind (within_command quiet releases) fun released _ => ?_) fun _ =>
      Within.bind lost fun _ _ => Within.pure trivial
    exact Within.bind lost fun _ _ => Within.pure trivial
  · exact Within.pure trivial

end

/-- Every call does what it may do. -/
theorem Call.within (call : Call)
    : Within (call.Moves lockTtlMs) t (call.service config lockTtlMs) := by
  cases call with
  | acquire key options =>
      refine Within.bind (within_acquire (fun _ _ => Or.inl) fun world ownerToken => ?_)
        fun _ _ => Within.pure trivial
      cases found : world.get key with
      | none => exact Or.inr ⟨ownerToken, rfl, rfl⟩
      | some other => exact Or.inl (by simp [World.setNx, found, Quiet.refl])
  | renew lock =>
      refine Within.bind (within_renew (fun _ _ => Or.inl) fun world => ?_)
        fun _ _ => Within.pure trivial
      by_cases found : world.get lock.key = some lock.ownerToken
      · exact Or.inr ⟨found, rfl⟩
      · exact Or.inl (by simp [World.renew, found, Quiet.refl])
  | heartbeat lock =>
      refine within_heartbeat (fun _ _ => Or.inl) fun world => ?_
      by_cases found : world.get lock.key = some lock.ownerToken
      · exact Or.inr ⟨found, rfl⟩
      · exact Or.inl (by simp [World.renew, found, Quiet.refl])
  | release lock =>
      cases lock with
      | none =>
          exact Within.bind (Q := fun _ => True) (Within.pure trivial) fun _ _ => Within.pure trivial
      | some lock =>
          refine Within.bind (within_release (fun _ _ => Or.inl) fun world => ?_)
            fun _ _ => Within.pure trivial
          by_cases found : world.get lock.key = some lock.ownerToken
          · exact Or.inr ⟨found, rfl⟩
          · exact Or.inl (by simp [World.release, found, Quiet.refl])

/-- The clients agree on what is stored, and each does what its call may do. -/
def protocol (lockTtlMs : Option Nat) (calls : Tid → Option Call) : Protocol World where
  inv := Stored
  rely _ _ _ := True
  guar t before after := ∃ call, calls t = some call ∧ call.Moves lockTtlMs before after
  allowed _ _ _ := True
  rely_refl _ _ := trivial
  rely_trans _ _ := trivial
  guar_rely _ _ _ _ := trivial

variable {calls : Tid → Option Call} {pool last : Pool World Input}

theorem fits_machine : machine.Fits (protocol lockTtlMs calls) where
  env _ _ _ _ stored happened := ⟨stored.chance happened, fun _ _ => trivial⟩
  crash _ _ stored := ⟨stored, fun _ _ => trivial⟩

/-- Every state that the clients reach agrees with what has happened. -/
theorem verified_clients
    (run : AnyRun machine ⟨World.start, clients config lockTtlMs calls⟩ pool)
    : pool.Verified (protocol lockTtlMs calls) := by
  refine Run.verified fits_machine run ⟨nofun, fun t _ => ?_⟩
  unfold clients
  dsimp only
  split
  · exact Protocol.Safe.done trivial
  · rename_i call given
    have within : Within (call.Moves lockTtlMs) t (call.service config lockTtlMs) := call.within
    have spec := Protocol.Spec.of_within (Γ := protocol lockTtlMs calls) (P := fun _ => True) within
      (fun before after stored _ moves _ => ⟨moves.stored stored, ⟨call, given, moves⟩, trivial⟩)
      (Protocol.Stable.const True)
    exact Protocol.Safe.bind (spec.safe nofun trivial) (fun _ _ _ _ => Protocol.Safe.done trivial)
      nofun

/-- The call works on behalf of the lock. -/
def Call.isFor (lock : DistributedLock) : Call → Prop
  | .renew other | .heartbeat other | .release (some other) => other = lock
  | _ => False

/-- What may happen to an entry that is still in force: it is renewed or deleted by a script, for a
client whose token is stored.
-/
def ByHolder (calls : Tid → Option Call) (move : Move Input Chance) (key : String)
    (before after : World) : Prop :=
  ∃ t input lock, move = .run t input ∧ (∃ call, calls t = some call ∧ call.isFor lock)
    ∧ lock.key = key ∧ before.get key = some lock.ownerToken
    ∧ (after.trace = .renewed lock before.clock :: before.trace
        ∧ after.entries key = some ⟨lock.ownerToken, before.clock + lock.ttlMs⟩
      ∨ after.trace = .released lock before.clock :: before.trace ∧ after.entries key = none)

/-- A call changes a key only where nothing is found under it, or on behalf of its holder. -/
theorem Call.Moves.byHolder {input : Input} (moves : call.Moves lockTtlMs before after)
    (given : calls t = some call) (found : (before.get key).isSome)
    (changed : after.entries key ≠ before.entries key)
    : ByHolder calls (.run t input) key before after := by
  have unchanged (quiet : Quiet before after) : False := changed (congrFun quiet.1 key)
  have renewed {lock : DistributedLock} (own : call.isFor lock)
      (held : before.get lock.key = some lock.ownerToken) (same : after = (before.renew lock).2)
      : ByHolder calls (.run t input) key before after := by
    subst same
    simp only [World.renew, held, if_true] at changed
    by_cases same : lock.key = key
    · subst same
      exact ⟨t, input, lock, rfl, ⟨call, given, own⟩, rfl, held, Or.inl (by simp [World.renew, held])⟩
    · simp [Ne.symm same] at changed
  cases call with
  | acquire other options =>
      rcases moves with quiet | ⟨ownerToken, absent, rfl⟩
      · exact (unchanged quiet).elim
      · simp only [World.setNx, absent] at changed
        by_cases same : key = other
        · simp [same, absent] at found
        · simp [same] at changed
  | renew lock | heartbeat lock =>
      rcases moves with quiet | ⟨held, same⟩
      · exact (unchanged quiet).elim
      · exact renewed rfl held same
  | release lock =>
      cases lock with
      | none => exact (unchanged moves).elim
      | some lock =>
          rcases moves with quiet | ⟨held, rfl⟩
          · exact (unchanged quiet).elim
          · simp only [World.release, held, if_true] at changed
            by_cases same : lock.key = key
            · subst same
              exact ⟨t, input, lock, rfl, ⟨_, given, rfl⟩, rfl, held,
                Or.inr (by simp [World.release, held])⟩
            · simp [Ne.symm same] at changed

/-- A key is acquired only when nothing is found under it. -/
theorem Call.Moves.acquired {time : Nat} (moves : call.Moves lockTtlMs before after)
    (happened : after.trace = .acquired key ownerToken ttlMs time :: before.trace)
    : before.get key = none ∧ time = before.clock := by
  have unchanged (quiet : Quiet before after) : False := by
    simpa using quiet.2.2.symm.trans happened
  cases call with
  | acquire other options =>
      rcases moves with quiet | ⟨token, absent, rfl⟩
      · exact (unchanged quiet).elim
      · simp only [World.setNx, absent, List.cons.injEq, Event.acquired.injEq, and_true] at happened
        exact ⟨happened.1 ▸ absent, happened.2.2.2.symm⟩
  | renew lock | heartbeat lock =>
      rcases moves with quiet | ⟨held, rfl⟩
      · exact (unchanged quiet).elim
      · simp [World.renew, held] at happened
  | release lock =>
      cases lock with
      | none => exact (unchanged moves).elim
      | some lock =>
          rcases moves with quiet | ⟨held, rfl⟩
          · exact (unchanged quiet).elim
          · simp [World.release, held] at happened

/-- However acquisitions, renewals, heartbeats, releases and expiry interleave: an entry in
force is only renewed or deleted by a script for a client whose token it holds, and no
acquisition of a key succeeds before the end of a lease of the key, which its holder has neither
released nor renewed since. By the invariant that every entry in force belongs to a lease, which
every script keeps.
-/
theorem lease_exclusive {move : Move Input Chance}
    (run : AnyRun machine ⟨World.start, clients config lockTtlMs calls⟩ pool)
    (moved : pool.move machine move = some last)
    : (∀ key, (pool.state.get key).isSome → last.state.entries key ≠ pool.state.entries key
        → ByHolder calls move key pool.state last.state)
      ∧ ∀ key ownerToken ttlMs time,
        last.state.trace = .acquired key ownerToken ttlMs time :: pool.state.trace
        → ∀ other bound, leaseEnd key other pool.state.trace = some bound → bound ≤ time := by
  have verified := verified_clients run
  cases move with
  | run t input =>
      obtain ⟨⟨call, given, moves⟩, _⟩ := verified.run moved trivial
      refine ⟨fun key found changed => moves.byHolder given found changed,
        fun key ownerToken ttlMs time happened other bound lease => ?_⟩
      obtain ⟨absent, rfl⟩ := moves.acquired happened
      exact verified.inv.free absent lease
  | crash t =>
      obtain ⟨_, same, _⟩ := Pool.move_crash moved
      have same : last.state = pool.state := same
      simp [same]
  | env chance =>
      obtain ⟨happened, _⟩ := Pool.move_env moved
      cases chance with
      | tick milliseconds =>
          have same := Option.some.inj happened
          simp [← same]
      | expire removed =>
          simp only [machine] at happened
          split at happened
          · rename_i absent
            have same := Option.some.inj happened
            refine ⟨fun key found changed => ?_, by simp [← same]⟩
            by_cases equal : key = removed
            · simp [equal, absent] at found
            · simp [← same, equal] at changed
          · simp at happened

/-- Two clients ask for the same lock. -/
def askingTwice (t : Tid) : Option Call :=
  if t < 2 then some (.acquire "lock:refund:1" { ttlMs := some 20000 }) else none

/-- The second client gets the lock when the first one's time is past. -/
theorem lease_exclusive_expired
    : ∃ pool last,
        AnyRun machine ⟨World.start, clients {} (some 15000) askingTwice⟩ pool
        ∧ pool.move machine (.run 1 {}) = some last
        ∧ last.state.trace
          = .acquired "lock:refund:1" ⟨1, 1⟩ 20000 20000 :: pool.state.trace
        ∧ leaseEnd "lock:refund:1" ⟨0, 0⟩ pool.state.trace = some 20000
        ∧ 20000 ≤ 20000 := by
  have went : ((Pool.schedule machine ⟨World.start, clients {} (some 15000) askingTwice⟩
      [.run 0 {}, .run 0 {}, .env (.tick 20000), .run 1 {}]).bind fun pool =>
        (pool.move machine (.run 1 {})).map fun last => (pool.state.trace, last.state.trace))
      = some ([.acquired "lock:refund:1" ⟨0, 0⟩ 20000 0],
          [.acquired "lock:refund:1" ⟨1, 1⟩ 20000 20000,
            .acquired "lock:refund:1" ⟨0, 0⟩ 20000 0]) := by
    decide +kernel
  obtain ⟨pool, scheduled, moved⟩ := Option.bind_eq_some_iff.mp went
  obtain ⟨last, moved, seen⟩ := Option.map_eq_some_iff.mp moved
  obtain ⟨before, after⟩ := Prod.mk.inj seen
  have run := AnyRun.of_schedule scheduled
  have happened : last.state.trace
      = .acquired "lock:refund:1" ⟨1, 1⟩ 20000 20000 :: pool.state.trace := by
    rw [after, before]
  have lease : leaseEnd "lock:refund:1" ⟨0, 0⟩ pool.state.trace = some 20000 := by
    rw [before]
    rfl
  exact ⟨pool, last, run, moved, happened, lease,
    (lease_exclusive run moved).2 _ _ _ _ happened _ _ lease⟩

end LuminaRail.Timed
