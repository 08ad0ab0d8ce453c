import LuminaRail.Liquidity.Interleavings

/-! The pool is never oversold: whatever interleaves, every committed pool row is balanced and
is the effect of the committing operation on the row committed just before it.
-/

namespace LuminaRail

open Concurrency Database LiquidityService

/-- The available balance is what is not reserved, and no more is reserved than there is. -/
structure LiquidityPool.Balanced (pool : LiquidityPool) : Prop where
  available : pool.availableBalance = pool.totalBalance - pool.reservedBalance
  reserved_nonneg : 0 ≤ pool.reservedBalance
  reserved_le : pool.reservedBalance ≤ pool.totalBalance

variable {pool : LiquidityPool} {amount : Int}

theorem reserved_balanced (balanced : pool.Balanced) (positive : 0 < amount)
    (available : amount ≤ pool.totalBalance - pool.reservedBalance)
    : (reserved pool amount).Balanced := by
  obtain ⟨_, nonneg, _⟩ := balanced
  constructor <;> simp only [reserved] <;> omega

/-- Also where a clamp changes a balance, the reserved one stays below the total. -/
theorem consumed_balanced (balanced : pool.Balanced) : (consumed pool amount).Balanced := by
  obtain ⟨_, nonneg, le⟩ := balanced
  constructor <;> simp only [consumed] <;> grind

theorem released_balanced (balanced : pool.Balanced) (nonneg : 0 ≤ amount)
    : (released pool amount).Balanced := by
  obtain ⟨_, _, le⟩ := balanced
  constructor <;> simp only [released] <;> split <;> omega

theorem adjusted_balanced {type : TreasuryTransactionType} (balanced : pool.Balanced)
    (enough : pool.reservedBalance ≤ adjustedTotal pool type amount)
    : (adjusted pool type amount).Balanced :=
  ⟨rfl, balanced.reserved_nonneg, enough⟩

/-- The amount reserved for an order. -/
def amountAt (store : AList Row) (orderId : Id) : Int :=
  (store.lookup (.liquidityReservation orderId)).elim 0 LiquidityReservation.amount

/-- The pool that an operation works on. -/
def LiquidityOperation.poolId? (store : AList Row) : LiquidityOperation → Option Id
  | .reserveForOrder params => some params.poolId
  | .confirmReservation _ => none
  | .consumeReservation orderId _ _ =>
      (store.lookup (.liquidityReservation orderId)).map LiquidityReservation.poolId
  | .releaseReservation orderId _ =>
      (store.lookup (.liquidityReservation orderId)).map LiquidityReservation.poolId
  | .recordTreasuryTransaction poolId _ _ _ _ => some poolId

/-- What an operation does to the row of its pool. -/
def LiquidityOperation.effect (store : AList Row) (pool : LiquidityPool)
    : LiquidityOperation → LiquidityPool
  | .reserveForOrder params => reserved pool params.amount
  | .confirmReservation _ => pool
  | .consumeReservation orderId _ _ => consumed pool (amountAt store orderId)
  | .releaseReservation orderId _ => released pool (amountAt store orderId)
  | .recordTreasuryTransaction _ type amount _ _ => adjusted pool type amount

/-- The replacements that an operation commits over a store. -/
def LiquidityOperation.Replaces (operation : LiquidityOperation) (store : AList Row)
    : Server.Replaces Row
  | .liquidityPool poolId, old, new => operation.poolId? store = some poolId
      ∧ ∃ pool, old = some pool ∧ new = operation.effect store pool
        ∧ (pool.Balanced → new.Balanced)
  | .liquidityReservation _, old, new =>
      (∀ reservation, old = some reservation
        → new.poolId = reservation.poolId ∧ new.amount = reservation.amount)
      ∧ (old = none → 0 ≤ new.amount)
  | _, _, _ => True

/-- The pools are balanced and the reserved amounts are not negative. -/
structure Solvent (store : AList Row) : Prop where
  pools : ∀ {poolId pool}, store.lookup (.liquidityPool poolId) = some pool → pool.Balanced
  reservations : ∀ {orderId reservation},
    store.lookup (.liquidityReservation orderId) = some reservation → 0 ≤ reservation.amount

theorem Solvent.evolves {operation : LiquidityOperation} {store after : AList Row}
    (solvent : Solvent store) (evolves : Server.Evolves (operation.Replaces store) store after)
    : Solvent after := by
  refine ⟨fun found => ?_, fun {orderId reservation} found => ?_⟩
  · rcases evolves.rows found with same | ⟨_, pool, old, _, balanced⟩
    · exact solvent.pools same
    · exact balanced (solvent.pools old)
  · rcases evolves.rows found with same | ⟨same, new⟩
    · exact solvent.reservations same
    · cases old : store.lookup (.liquidityReservation orderId) with
      | none => exact new old
      | some reservation =>
          rw [(same reservation old).2]
          exact solvent.reservations old

section

variable {operation : LiquidityOperation} {store : AList Row} {poolId orderId : Id}
  {new : LiquidityPool} {row next : LiquidityReservation}

/-- A pool row that is the effect of the operation on the row before it. -/
theorem LiquidityOperation.replaces_pool (own : operation.poolId? store = some poolId)
    (found : store.lookup (.liquidityPool poolId) = some pool)
    (same : new = operation.effect store pool) (balanced : pool.Balanced → new.Balanced)
    : operation.Replaces store (.liquidityPool poolId) (store.lookup (.liquidityPool poolId))
        new :=
  ⟨own, pool, found, same, balanced⟩

/-- A reservation of which only the status has changed. -/
theorem LiquidityOperation.replaces_reservation
    (found : store.lookup (.liquidityReservation orderId) = some row)
    (poolId : next.poolId = row.poolId) (amount : next.amount = row.amount)
    : operation.Replaces store (.liquidityReservation orderId)
        (store.lookup (.liquidityReservation orderId)) next := by
  refine ⟨fun reservation same => ?_, fun absent => ?_⟩
  · obtain rfl := Option.some.inj (found.symm.trans same)
    exact ⟨poolId, amount⟩
  · simp [found] at absent

theorem LiquidityOperation.replaces_absent
    (absent : store.lookup (.liquidityReservation orderId) = none) (nonneg : 0 ≤ next.amount)
    : operation.Replaces store (.liquidityReservation orderId)
        (store.lookup (.liquidityReservation orderId)) next :=
  ⟨fun _ found => (Option.some_ne_none _ (found.symm.trans absent)).elim, fun _ => nonneg⟩

theorem amountAt_of_found (found : store.lookup (.liquidityReservation orderId) = some row)
    : amountAt store orderId = row.amount := by
  rw [amountAt, found, Option.elim_some]

theorem poolId_of_found (found : store.lookup (.liquidityReservation orderId) = some row)
    : (store.lookup (.liquidityReservation orderId)).map LiquidityReservation.poolId
      = some row.poolId := by
  rw [found, Option.map_some]

end

/-- What is ready to be committed replaces the rows of the committed store. -/
theorem Ready.replaces {x : TxId}
    {operation : LiquidityOperation} {writes : List (Sigma Row)} {server : Server Row}
    (ready : Ready SameTerms x operation writes server)
    (solvent : Solvent server.committed)
    : ∀ write ∈ writes, operation.Replaces server.committed write.1
        (server.committed.lookup write.1) write.2 := by
  cases ready with
  | idle => exact List.forall_mem_nil _
  | reserve expiresAt positive available pool_held new =>
      refine List.forall_mem_cons.mpr ⟨?_, List.forall_mem_singleton.mpr ?_⟩
      · exact LiquidityOperation.replaces_absent new.2 (Int.le_of_lt positive)
      · exact LiquidityOperation.replaces_pool rfl pool_held.2 rfl fun balanced =>
          reserved_balanced balanced positive available
  | confirm was_reserved still reservation_held =>
      refine List.forall_mem_singleton.mpr ?_
      exact LiquidityOperation.replaces_reservation reservation_held.2 rfl rfl
  | consume was_active still pool_held reservation_held new payout_of =>
      refine List.forall_mem_cons.mpr ⟨trivial, List.forall_mem_cons.mpr
        ⟨?_, List.forall_mem_singleton.mpr ?_⟩⟩
      · exact LiquidityOperation.replaces_reservation reservation_held.2 rfl rfl
      · refine LiquidityOperation.replaces_pool
          (still.1 ▸ poolId_of_found reservation_held.2) pool_held.2 ?_ consumed_balanced
        rw [LiquidityOperation.effect, amountAt_of_found reservation_held.2, still.2]
  | release was_active still pool_held reservation_held =>
      refine List.forall_mem_cons.mpr ⟨?_, List.forall_mem_singleton.mpr ?_⟩
      · exact LiquidityOperation.replaces_reservation reservation_held.2 rfl rfl
      · refine LiquidityOperation.replaces_pool
          (still.1 ▸ poolId_of_found reservation_held.2) pool_held.2 ?_ fun balanced =>
          released_balanced balanced (still.2 ▸ solvent.reservations reservation_held.2)
        rw [LiquidityOperation.effect, amountAt_of_found reservation_held.2, still.2]
  | record positive enough pool_held new entry_of =>
      refine List.forall_mem_cons.mpr ⟨trivial, List.forall_mem_singleton.mpr ?_⟩
      exact LiquidityOperation.replaces_pool rfl pool_held.2 rfl fun balanced =>
        adjusted_balanced balanced enough

/-- The commits keep the pools balanced. -/
theorem solvent_preserved (operations : Tid → LiquidityOperation)
    : Preserves operations Solvent fun _ _ _ => True := by
  intro t x world writes _ solvent ready _ _
  exact Solvent.evolves solvent (Server.Evolves.overlay (ready.replaces solvent))

/-- In every interleaving of any number of liquidity transactions, all committed pool rows stay
balanced, and one that changes is the effect of the transaction that commits it on the row
committed just before. By the invariant that the pools are solvent, and by what a commit may
replace.
-/
theorem pool_never_oversold {operations : Tid → LiquidityOperation} {world : World}
    {rows : AList Row} {pool : Pool World Input} (start : world.db = Server.start rows)
    (solvent : Solvent rows)
    (run : AnyRun (machine anyExpiry) ⟨world, fun t => (operations t).run.thread⟩ pool)
    : (∀ poolId row, pool.state.db.committed.lookup (.liquidityPool poolId) = some row
        → row.Balanced)
      ∧ ∀ move last, pool.move (machine anyExpiry) move = some last → ∀ poolId row,
        last.state.db.committed.lookup (.liquidityPool poolId) = some row
        → pool.state.db.committed.lookup (.liquidityPool poolId) = some row
          ∨ ∃ t input old, move = .run t input
            ∧ pool.state.db.committed.lookup (.liquidityPool poolId) = some old
            ∧ (operations t).poolId? pool.state.db.committed = some poolId
            ∧ row = (operations t).effect pool.state.db.committed old := by
  have verified := liquidity_verified (solvent_preserved operations) start solvent run
  refine ⟨fun poolId row found => verified.inv.pools found, ?_⟩
  intro move last moved poolId row found
  rcases liquidity_move verified moved fun _ _ _ => trivial with
    same | ⟨t, input, x, writes, ran, _, opened, ready, same⟩
  · rw [same] at found
    exact Or.inl found
  · rw [same, commit_overlay opened] at found
    have evolves := Server.Evolves.overlay (ready.replaces verified.inv)
    rcases evolves.rows found with unchanged | ⟨own, old, before, effect, _⟩
    · exact Or.inl unchanged
    · exact Or.inr ⟨t, input, old, ran, before, own, effect⟩

theorem onePool_solvent {totalBalance : Int} (nonneg : 0 ≤ totalBalance)
    : Solvent (onePool totalBalance) := by
  refine ⟨fun {poolId pool} found => ?_, fun {orderId reservation} found => ?_⟩
  · obtain ⟨rfl, rfl⟩ := by simpa using onePool_cases found
    exact ⟨(Int.sub_zero _).symm, Int.le_refl 0, nonneg⟩
  · simpa using onePool_cases found

/-- Two orders that reserve all of a pool and one of which is then consumed. -/
def twoOrders : Tid → LiquidityOperation
  | 0 => .reserveForOrder { poolId := "pool", orderId := "first", amount := 40000000 }
  | 1 => .reserveForOrder { poolId := "pool", orderId := "second", amount := 60000000 }
  | 2 => .consumeReservation "first" none none
  | _ => .reserveForOrder { poolId := "pool", orderId := "late", amount := 1 }

/-- The first two overlap: the second waits for the lock of the first. -/
theorem pool_never_oversold_twoOrders
    : ∃ pool, AnyRun (machine anyExpiry)
        ⟨World.start (onePool 100000000), fun t => (twoOrders t).run.thread⟩ pool
      ∧ pool.state.db.committed.lookup (.liquidityPool "pool") = some ⟨60000000, 60000000, 0⟩
      ∧ ∀ poolId row, pool.state.db.committed.lookup (.liquidityPool poolId) = some row
        → row.Balanced := by
  have went : (Pool.schedule (machine anyExpiry)
      ⟨World.start (onePool 100000000), fun t => (twoOrders t).run.thread⟩
      ([.run 0 {}, .run 1 {}] ++ List.replicate 6 (.run 0 {}) ++ List.replicate 6 (.run 1 {})
        ++ List.replicate 10 (.run 2 {}))).map
      (fun pool => pool.state.db.committed.lookup (.liquidityPool "pool"))
      = some (some ⟨60000000, 60000000, 0⟩) := by
    decide +kernel
  obtain ⟨pool, run, found⟩ := AnyRun.of_schedule_map went
  exact ⟨pool, run, found, (pool_never_oversold rfl (onePool_solvent (by decide)) run).1⟩

end LuminaRail
