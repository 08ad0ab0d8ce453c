import LuminaRail.Liquidity.Accounts
import LuminaRail.Liquidity.Balance

/-! The exact ledger of serial histories: operations that run one whole transaction at a time,
each to its end, whether that is a value or an error.
-/

namespace LuminaRail

open Concurrency Database LiquidityService

/-- What an operation has committed by its end: all it had ready, or nothing if it throws. -/
def LiquidityOperation.Outcome (operation : LiquidityOperation) (before : AList Row)
    (result : Except AppError Unit) (after : AList Row) : Prop :=
  match result with
  | .ok _ => ∃ x writes server, server.committed = before
      ∧ Ready Eq x operation writes server ∧ after = overlay writes before
  | .error _ => after = before

/-- A history of operations and their results, the newest first. Anything that happens by
itself may happen between two of them.
-/
inductive History (start : World)
    : List (LiquidityOperation × Except AppError Unit) → World → Prop
  | start : History start [] start
  | chance {entries : List (LiquidityOperation × Except AppError Unit)} {world : World}
    (before : History start entries world) (chance : Chance)
    : History start entries (chance.apply world)
  | operation {entries : List (LiquidityOperation × Except AppError Unit)}
    {world after : World} {result : Except AppError Unit} (before : History start entries world)
    (operation : LiquidityOperation) (t : Tid)
    (ran : Program.Alone t operation.run.run world result after)
    : History start (⟨operation, result⟩ :: entries) after

theorem alone_transactional (t : Tid) : Transactional (Protocol.alone t) t where
  isolated relied := relied rfl ▸ Server.Isolated.refl t _
  unseen _ _ := ⟨trivial, fun other => absurd rfl other⟩

/-- Alone, a reservation is still what it was when it was read. -/
theorem alone_rely (t : Tid) : LiquidityRely Eq (Protocol.alone t) t where
  transactional := alone_transactional t
  seen_refl _ := rfl
  reservation _ _ := fun _ _ _ _ relied known => relied rfl ▸ known
  pool_absent _ := fun _ _ _ _ relied absent => relied rfl ▸ absent

/-- An operation that runs alone commits all it had ready, or throws and commits nothing. -/
theorem LiquidityOperation.alone_outcome {operation : LiquidityOperation} {t : Tid}
    {world after : World} {result : Except AppError Unit}
    (ran : Program.Alone t operation.run.run world result after)
    : operation.Outcome world.db.committed result after.db.committed := by
  have spec := operation.spec_run (K := fun store => store = world.db.committed)
    (Q := fun w => operation.Outcome world.db.committed (.ok ()) w.db.committed) (alone_rely t)
    (fun _ _ _ _ relied known => relied rfl ▸ known)
    fun x w writes _ _ ready same opened _ => ⟨trivial, fun other => absurd rfl other, x, writes,
      w.db, same, ready, by rw [commit_overlay opened, same]⟩
  have ends := spec.of_alone rfl ran
  cases result with
  | ok value => exact ends
  | error error => exact ends

/-- Reading and updating at once is a special case of reading and updating the same terms. -/
theorem Ready.sameTerms {x : TxId} {operation : LiquidityOperation}
    {writes : List (Sigma Row)} {server : Server Row}
    (ready : Ready Eq x operation writes server)
    : Ready SameTerms x operation writes server := by
  cases ready with
  | idle may => exact .idle may
  | reserve expiresAt positive available pool_held new =>
      exact .reserve expiresAt positive available pool_held new
  | confirm was_reserved still reservation_held =>
      subst still
      exact .confirm was_reserved ⟨rfl, rfl⟩ reservation_held
  | consume was_active still pool_held reservation_held new payout_of =>
      subst still
      exact .consume was_active ⟨rfl, rfl⟩ pool_held reservation_held new payout_of
  | release was_active still pool_held reservation_held =>
      subst still
      exact .release was_active ⟨rfl, rfl⟩ pool_held reservation_held
  | record positive enough pool_held new entry_of =>
      exact .record positive enough pool_held new entry_of

/-- What is read and updated at once is active when it is replaced. -/
theorem Ready.replacesActive {x : TxId} {operation : LiquidityOperation}
    {writes : List (Sigma Row)} {server : Server Row}
    (ready : Ready Eq x operation writes server)
    : ReplacesActive writes server.committed := by
  intro orderId next row written found
  cases ready with
  | idle may => simp at written
  | reserve expiresAt positive available pool_held new =>
      obtain ⟨rfl, _⟩ := by simpa using written
      simp [new.2] at found
  | confirm was_reserved still reservation_held =>
      obtain ⟨rfl, _⟩ := by simpa using written
      obtain rfl := Option.some.inj (reservation_held.2.symm.trans found)
      exact Or.inl (still ▸ was_reserved)
  | consume was_active still pool_held reservation_held new payout_of =>
      obtain ⟨rfl, _⟩ := by simpa using written
      obtain rfl := Option.some.inj (reservation_held.2.symm.trans found)
      exact still ▸ was_active
  | release was_active still pool_held reservation_held =>
      obtain ⟨rfl, _⟩ := by simpa using written
      obtain rfl := Option.some.inj (reservation_held.2.symm.trans found)
      exact still ▸ was_active
  | record positive enough pool_held new entry_of => simp at written

-----------------------------------------------------------------------------------------
-- The treasury's book
-----------------------------------------------------------------------------------------

/-- What a treasury transaction adds to the total balance of its pool. -/
def TreasuryTransaction.flow (entry : TreasuryTransaction) : Int :=
  match entry.type with
  | .SETTLEMENT_PAYOUT => -entry.amount
  | .REPLENISHMENT | .MANUAL_ADJUSTMENT | .FEE_COLLECTION => entry.amount

/-- What a row adds to the total balance of a pool. -/
def recordedFlow (poolId : Id) : Sigma Row → Int
  | ⟨.treasuryTransaction _, (entry : TreasuryTransaction)⟩ =>
      if entry.poolId = poolId then entry.flow else 0
  | _ => 0

/-- One for each SETTLEMENT_PAYOUT of this amount from a pool. -/
def payouts (poolId : Id) (amount : Int) : Sigma Row → Int
  | ⟨.treasuryTransaction _, (entry : TreasuryTransaction)⟩ =>
      if entry.poolId = poolId ∧ entry.type = .SETTLEMENT_PAYOUT ∧ entry.amount = amount then 1
      else 0
  | _ => 0

/-- One for each CONSUMED reservation of this amount of a pool. -/
def consumptions (poolId : Id) (amount : Int) : Sigma Row → Int
  | ⟨.liquidityReservation _, (reservation : LiquidityReservation)⟩ =>
      if reservation.poolId = poolId ∧ reservation.status = .CONSUMED
        ∧ reservation.amount = amount then 1 else 0
  | _ => 0

/-- One for a call that records a SETTLEMENT_PAYOUT of this amount from a pool. -/
def LiquidityOperation.recordsPayout (poolId : Id) (amount : Int) : LiquidityOperation → Int
  | .recordTreasuryTransaction id type value _ _ =>
      if id = poolId ∧ type = .SETTLEMENT_PAYOUT ∧ value = amount then 1 else 0
  | _ => 0

/-- How many calls of a history have recorded a SETTLEMENT_PAYOUT of this amount from a pool. -/
def recordedPayouts (poolId : Id) (amount : Int)
    (entries : List (LiquidityOperation × Except AppError Unit)) : Int :=
  (entries.map fun entry =>
    match entry.2 with
    | .ok _ => entry.1.recordsPayout poolId amount
    | .error _ => 0).sum

variable {x : TxId} {operation : LiquidityOperation} {writes : List (Sigma Row)}
  {server : Server Row}

theorem LiquidityReservation.Active.not_consumed {reservation : LiquidityReservation}
    (active : reservation.Active)
    : reservation.status ≠ .CONSUMED := by
  rcases active with status | status <;> simp [status]

theorem adjustedTotal_flow {pool : LiquidityPool} {entry : TreasuryTransaction}
    : adjustedTotal pool entry.type entry.amount = pool.totalBalance + entry.flow := by
  simp only [adjustedTotal, TreasuryTransaction.flow]
  cases entry.type <;> simp [Int.sub_eq_add_neg]

/-- A commit changes the total balance of a pool by what it records in the treasury's book. -/
theorem Ready.follows_total (ready : Ready Eq x operation writes server)
    (solvent : Solvent server.committed) (accounted : Accounted server.committed)
    : Follows LiquidityPool.totalBalance recordedFlow server.committed
        (overlay writes server.committed) := by
  have pool_flow : ∀ {poolId id : Id} {pool : LiquidityPool},
      gain (recordedFlow poolId) server.committed ⟨.liquidityPool id, pool⟩ = 0 :=
    gain_of_weightless fun _ => rfl
  have reservation_flow : ∀ {poolId orderId : Id} {reservation : LiquidityReservation},
      gain (recordedFlow poolId) server.committed ⟨.liquidityReservation orderId, reservation⟩
        = 0 :=
    gain_of_weightless fun _ => rfl
  cases ready with
  | idle => exact fun poolId new found => ⟨new, found, by simp⟩
  | @reserve params pool _ expiresAt positive available pool_held new =>
      refine Follows.overlay (by simp) params.poolId 0 (fun poolId => ?_)
        (fun poolId row member => ?_) (Or.inl rfl)
      · simp [pool_flow, reservation_flow]
      · obtain ⟨rfl, rfl⟩ : poolId = params.poolId ∧ row = reserved pool params.amount := by
          simpa using member
        exact ⟨rfl, pool, pool_held.2, (Int.add_zero _).symm⟩
  | confirm was_reserved still reservation_held =>
      refine Follows.overlay (by simp) "" 0 (fun poolId => ?_) (fun poolId row member => ?_)
        (Or.inl rfl)
      · simp [reservation_flow]
      · simp at member
  | @consume orderId id externalRef stellarTxHash read row pool payout _ was_active still
      pool_held reservation_held new payout_of =>
      subst still
      have le := accounted.amount_le reservation_held.2 was_active pool_held.2
      have bounded := (solvent.pools pool_held.2).reserved_le
      refine Follows.overlay (by simp) read.poolId (-read.amount) (fun poolId => ?_)
        (fun poolId new member => ?_) (Or.inr (by simp))
      · obtain ⟨of_pool, type, amount⟩ := payout_of
        simp [pool_flow, reservation_flow, gain_of_absent new.2, recordedFlow, of_pool,
          TreasuryTransaction.flow, type, amount]
      · obtain ⟨rfl, rfl⟩ : poolId = read.poolId ∧ new = consumed pool read.amount := by
          simpa using member
        refine ⟨rfl, pool, pool_held.2, ?_⟩
        simp only [consumed]
        omega
  | @release orderId status read row pool _ was_active still pool_held reservation_held =>
      refine Follows.overlay (by simp) read.poolId 0 (fun poolId => ?_)
        (fun poolId new member => ?_) (Or.inl rfl)
      · simp [pool_flow, reservation_flow]
      · obtain ⟨rfl, rfl⟩ : poolId = read.poolId ∧ new = released pool read.amount := by
          simpa using member
        exact ⟨rfl, pool, pool_held.2, (Int.add_zero _).symm⟩
  | @record id entryId type amount externalRef stellarTxHash pool entry _ positive enough
      pool_held new entry_of =>
      obtain ⟨rfl, rfl, rfl⟩ := entry_of
      refine Follows.overlay (by simp) entry.poolId entry.flow (fun poolId => ?_)
        (fun poolId row member => ?_) (Or.inr (by simp))
      · simp [pool_flow, gain_of_absent new.2, recordedFlow]
      · obtain ⟨rfl, rfl⟩ : poolId = entry.poolId
            ∧ row = adjusted pool entry.type entry.amount := by
          simpa using member
        exact ⟨rfl, pool, pool_held.2, adjustedTotal_flow⟩

/-- A commit adds as many payouts as it consumes reservations or records payouts. -/
theorem Ready.one_payout_each (ready : Ready Eq x operation writes server)
    (releases : operation.Releases) (poolId : Id) (amount : Int)
    : total (payouts poolId amount) (overlay writes server.committed)
        - total (payouts poolId amount) server.committed
      = total (consumptions poolId amount) (overlay writes server.committed)
        - total (consumptions poolId amount) server.committed
        + operation.recordsPayout poolId amount := by
  have nodup : writes.NodupKeys := by cases ready <;> simp
  rw [total_overlay _ _ nodup, total_overlay _ _ nodup, add_sub_cancel_left, add_sub_cancel_left]
  have pool_payouts : ∀ {id : Id} {pool : LiquidityPool},
      gain (payouts poolId amount) server.committed ⟨.liquidityPool id, pool⟩ = 0 :=
    gain_of_weightless fun _ => rfl
  have reservation_payouts : ∀ {orderId : Id} {reservation : LiquidityReservation},
      gain (payouts poolId amount) server.committed ⟨.liquidityReservation orderId, reservation⟩
        = 0 :=
    gain_of_weightless fun _ => rfl
  have pool_consumptions : ∀ {id : Id} {pool : LiquidityPool},
      gain (consumptions poolId amount) server.committed ⟨.liquidityPool id, pool⟩ = 0 :=
    gain_of_weightless fun _ => rfl
  have entry_consumptions : ∀ {id : Id} {entry : TreasuryTransaction},
      gain (consumptions poolId amount) server.committed ⟨.treasuryTransaction id, entry⟩ = 0 :=
    gain_of_weightless fun _ => rfl
  cases ready with
  | idle may =>
      cases operation with
      | reserveForOrder => exact may.elim
      | recordTreasuryTransaction => exact may.elim
      | _ => rfl
  | reserve expiresAt positive available pool_held new =>
      simp [pool_payouts, reservation_payouts, pool_consumptions, gain_of_absent new.2,
        consumptions, LiquidityOperation.recordsPayout]
  | confirm was_reserved still reservation_held =>
      subst still
      simp [reservation_payouts, gain_of_found reservation_held.2, consumptions, was_reserved,
        LiquidityOperation.recordsPayout]
  | consume was_active still pool_held reservation_held new payout_of =>
      subst still
      obtain ⟨of_pool, type, of_amount⟩ := payout_of
      have not_consumed := was_active.not_consumed
      simp [pool_payouts, reservation_payouts, pool_consumptions, entry_consumptions,
        gain_of_absent new.2, gain_of_found reservation_held.2, payouts, consumptions, of_pool,
        type, of_amount, not_consumed, LiquidityOperation.recordsPayout]
  | release was_active still pool_held reservation_held =>
      subst still
      have not_consumed := was_active.not_consumed
      rcases releases with rfl | rfl <;>
        simp [pool_payouts, reservation_payouts, pool_consumptions,
          gain_of_found reservation_held.2, consumptions, not_consumed,
          LiquidityOperation.recordsPayout]
  | record positive enough pool_held new entry_of =>
      obtain ⟨rfl, rfl, rfl⟩ := entry_of
      simp [pool_payouts, pool_consumptions, entry_consumptions, gain_of_absent new.2, payouts,
        LiquidityOperation.recordsPayout]

-----------------------------------------------------------------------------------------
-- Histories
-----------------------------------------------------------------------------------------

/-- What an operation does to the row of its pool when no balance is clamped to zero. -/
def LiquidityOperation.exactEffect (store : AList Row) (pool : LiquidityPool)
    : LiquidityOperation → LiquidityPool
  | .consumeReservation orderId _ _ =>
      { totalBalance := pool.totalBalance - amountAt store orderId
        reservedBalance := pool.reservedBalance - amountAt store orderId
        availableBalance := pool.totalBalance - amountAt store orderId
          - (pool.reservedBalance - amountAt store orderId) }
  | .releaseReservation orderId _ =>
      { totalBalance := pool.totalBalance
        reservedBalance := pool.reservedBalance - amountAt store orderId
        availableBalance := pool.totalBalance
          - (pool.reservedBalance - amountAt store orderId) }
  | operation => operation.effect store pool

/-- The clamps of an operation that runs alone change nothing. -/
theorem Ready.effect_exact (ready : Ready Eq x operation writes server)
    (solvent : Solvent server.committed) (accounted : Accounted server.committed)
    (written : writes ≠ []) {poolId : Id} {pool : LiquidityPool}
    (own : operation.poolId? server.committed = some poolId)
    (found : server.committed.lookup (.liquidityPool poolId) = some pool)
    : operation.effect server.committed pool
      = operation.exactEffect server.committed pool := by
  cases ready with
  | idle => exact absurd rfl written
  | consume was_active still pool_held reservation_held new payout_of =>
      subst still
      rw [LiquidityOperation.poolId?, poolId_of_found reservation_held.2] at own
      obtain rfl := Option.some.inj own
      have le := accounted.amount_le reservation_held.2 was_active found
      have bounded := (solvent.pools found).reserved_le
      rw [LiquidityOperation.effect, LiquidityOperation.exactEffect,
        amountAt_of_found reservation_held.2, consumed]
      simp only [if_neg (Int.not_lt.mpr (Int.sub_nonneg_of_le le)),
        if_neg (Int.not_lt.mpr (Int.sub_nonneg_of_le (Int.le_trans le bounded)))]
  | release was_active still pool_held reservation_held =>
      subst still
      rw [LiquidityOperation.poolId?, poolId_of_found reservation_held.2] at own
      obtain rfl := Option.some.inj own
      have le := accounted.amount_le reservation_held.2 was_active found
      rw [LiquidityOperation.effect, LiquidityOperation.exactEffect,
        amountAt_of_found reservation_held.2, released]
      simp only [if_neg (Int.not_lt.mpr (Int.sub_nonneg_of_le le))]
  | _ => rfl

/-- Pools that nothing has been reserved of yet. -/
structure Fresh (store : AList Row) : Prop where
  pools : ∀ {poolId pool}, store.lookup (.liquidityPool poolId) = some pool
    → pool.reservedBalance = 0 ∧ pool.availableBalance = pool.totalBalance
      ∧ 0 ≤ pool.totalBalance
  reservations : ∀ {orderId}, store.lookup (.liquidityReservation orderId) = none

/-- The books agree with the rows that a history has left. -/
structure Ledger (start : AList Row) (entries : List (LiquidityOperation × Except AppError Unit))
    (store : AList Row) : Prop where
  solvent : Solvent store
  accounted : Accounted store
  totals : Follows LiquidityPool.totalBalance recordedFlow start store
  payouts : ∀ poolId amount, total (payouts poolId amount) store
      - total (payouts poolId amount) start
    = total (consumptions poolId amount) store + recordedPayouts poolId amount entries

theorem Follows.trans {balance : LiquidityPool → Int} {weight : Id → Sigma Row → Int}
    {first second third : AList Row} (early : Follows balance weight first second)
    (late : Follows balance weight second third)
    : Follows balance weight first third := by
  intro poolId new found
  obtain ⟨middle, between, changed⟩ := late poolId new found
  obtain ⟨old, before, changed'⟩ := early poolId middle between
  exact ⟨old, before, by omega⟩

/-- A weight that only reservations have is zero where there are none. -/
theorem Fresh.total_eq_zero {start : AList Row} (fresh : Fresh start) {weight : Sigma Row → Int}
    (weightless : ∀ key row, (∀ orderId, key ≠ .liquidityReservation orderId)
      → weight ⟨key, row⟩ = 0)
    : total weight start = 0 := by
  refine List.sum_eq_zero fun value member => ?_
  obtain ⟨⟨key, row⟩, present, rfl⟩ := List.mem_map.mp member
  refine weightless key row fun orderId same => ?_
  subst same
  have found := AList.mem_lookup_iff.mpr present
  rw [fresh.reservations] at found
  simp at found

theorem Ledger.start {start : AList Row} (fresh : Fresh start) : Ledger start [] start where
  solvent := by
    refine ⟨fun found => ?_, fun found => ?_⟩
    · obtain ⟨reserved, available, nonneg⟩ := fresh.pools found
      exact ⟨by omega, by omega, by omega⟩
    · simp [fresh.reservations] at found
  accounted := by
    refine ⟨fun {poolId pool} found => ?_, fun found => ?_⟩
    · rw [(fresh.pools found).1, reservedSum, fresh.total_eq_zero]
      intro key row other
      cases key with
      | liquidityReservation orderId => exact absurd rfl (other orderId)
      | _ => rfl
    · simp [fresh.reservations] at found
  totals poolId pool found := ⟨pool, found, by omega⟩
  payouts poolId amount := by
    rw [Int.sub_self, fresh.total_eq_zero]
    · rfl
    intro key row other
    cases key with
    | liquidityReservation orderId => exact absurd rfl (other orderId)
    | _ => rfl

/-- One more operation keeps the books. -/
theorem Ledger.step {start before after : AList Row}
    {entries : List (LiquidityOperation × Except AppError Unit)}
    {operation : LiquidityOperation} {result : Except AppError Unit}
    (ledger : Ledger start entries before) (releases : operation.Releases)
    (outcome : operation.Outcome before result after)
    : Ledger start (⟨operation, result⟩ :: entries) after := by
  cases result with
  | error error =>
      obtain rfl := outcome
      refine ⟨ledger.solvent, ledger.accounted, ledger.totals, fun poolId amount => ?_⟩
      have recorded := ledger.payouts poolId amount
      simp only [recordedPayouts, List.map_cons, List.sum_cons] at recorded ⊢
      omega
  | ok value =>
      obtain ⟨x, writes, server, rfl, ready, rfl⟩ := outcome
      have solvent := Server.Evolves.overlay (ready.sameTerms.replaces ledger.solvent)
      refine ⟨ledger.solvent.evolves solvent, ?_, ?_, fun poolId amount => ?_⟩
      · exact ready.sameTerms.accounted releases ready.replacesActive ledger.accounted
      · exact ledger.totals.trans (ready.follows_total ledger.solvent ledger.accounted)
      · have recorded := ledger.payouts poolId amount
        have one := ready.one_payout_each releases poolId amount
        simp only [recordedPayouts, List.map_cons, List.sum_cons] at recorded ⊢
        omega

/-- The books agree after every history, by induction on it. -/
theorem History.ledger {start world : World}
    {entries : List (LiquidityOperation × Except AppError Unit)}
    (history : History start entries world) (fresh : Fresh start.db.committed)
    (releases : ∀ entry ∈ entries, entry.1.Releases)
    : Ledger start.db.committed entries world.db.committed := by
  induction history with
  | start => exact Ledger.start fresh
  | chance before chance ih =>
      rw [Chance.apply_committed]
      exact ih releases
  | operation before operation t ran ih =>
      have kept := ih fun entry member => releases entry (List.mem_cons_of_mem _ member)
      exact kept.step (releases _ List.mem_cons_self) (LiquidityOperation.alone_outcome ran)

/-- After every serial history of operations: each pool has reserved the sum of its RESERVED and
CONFIRMED reservations; its total is the initial one plus what the treasury has recorded, with
one payout for each CONSUMED reservation; the next operation is not clamped, and leaves
everything as it is if it throws. By induction over the history, for the ledger of the pools.
-/
theorem serial_ledger {start world : World}
    {entries : List (LiquidityOperation × Except AppError Unit)}
    (fresh : Fresh start.db.committed) (releases : ∀ entry ∈ entries, entry.1.Releases)
    (history : History start entries world)
    : (∀ poolId pool, world.db.committed.lookup (.liquidityPool poolId) = some pool
        → pool.reservedBalance = reservedSum poolId world.db.committed)
      ∧ (∀ poolId pool, world.db.committed.lookup (.liquidityPool poolId) = some pool
        → ∃ first, start.db.committed.lookup (.liquidityPool poolId) = some first
          ∧ pool.totalBalance - first.totalBalance
            = total (recordedFlow poolId) world.db.committed
              - total (recordedFlow poolId) start.db.committed)
      ∧ (∀ poolId amount, total (payouts poolId amount) world.db.committed
          - total (payouts poolId amount) start.db.committed
        = total (consumptions poolId amount) world.db.committed
          + recordedPayouts poolId amount entries)
      ∧ ∀ (operation : LiquidityOperation) t result after,
        Program.Alone t operation.run.run world result after
        → (∀ poolId new, after.db.committed.lookup (.liquidityPool poolId) = some new
            → world.db.committed.lookup (.liquidityPool poolId) = some new
              ∨ ∃ old, world.db.committed.lookup (.liquidityPool poolId) = some old
                ∧ new = operation.exactEffect world.db.committed old)
          ∧ ∀ error, result = .error error → after.db.committed = world.db.committed := by
  have ledger := history.ledger fresh releases
  refine ⟨fun poolId pool found => ledger.accounted.reserved found, ledger.totals,
    ledger.payouts, fun operation t result after ran => ?_⟩
  have outcome := LiquidityOperation.alone_outcome ran
  cases result with
  | error error =>
      refine ⟨fun poolId new found => Or.inl ?_, fun _ _ => outcome⟩
      rw [← found, outcome]
  | ok value =>
      obtain ⟨x, writes, server, same, ready, same'⟩ := outcome
      rw [← same] at ledger
      refine ⟨fun poolId new found => ?_, fun error other => by simp at other⟩
      rw [same', ← same] at found
      rw [← same]
      by_cases written : writes = []
      · rw [written] at found
        exact Or.inl found
      · have evolves := Server.Evolves.overlay (ready.sameTerms.replaces ledger.solvent)
        rcases evolves.rows found with unchanged | ⟨own, old, before, effect, _⟩
        · exact Or.inl unchanged
        · have exact' := ready.effect_exact ledger.solvent ledger.accounted written own before
          exact Or.inr ⟨old, before, effect.trans exact'⟩

/-- Run operations one after the other, the last one given first, each on its inputs. -/
def replay (start : World) : List (LiquidityOperation × List Input)
    → Option (List (LiquidityOperation × Except AppError Unit) × World)
  | [] => some ([], start)
  | call :: earlier =>
      (replay start earlier).bind fun before =>
        (call.1.run.run.evalAlone 0 before.2 call.2).map fun after =>
          (⟨call.1, after.1⟩ :: before.1, after.2)

/-- What can be replayed is a history, by induction on the calls. -/
theorem History.of_replay {start world : World} {calls : List (LiquidityOperation × List Input)}
    {entries : List (LiquidityOperation × Except AppError Unit)}
    (replayed : replay start calls = some (entries, world))
    : History start entries world := by
  induction calls generalizing entries world with
  | nil =>
      obtain ⟨rfl, rfl⟩ := Prod.mk.inj (Option.some.inj replayed)
      exact .start
  | cons call earlier ih =>
      obtain ⟨before, went, later⟩ := Option.bind_eq_some_iff.mp replayed
      obtain ⟨after, ran, same⟩ := Option.map_eq_some_iff.mp later
      obtain ⟨rfl, rfl⟩ := Prod.mk.inj same
      exact .operation (ih went) call.1 0 (Program.alone_of_evalAlone ran)

theorem onePool_fresh {totalBalance : Int} (nonneg : 0 ≤ totalBalance)
    : Fresh (onePool totalBalance) := by
  refine ⟨fun found => ?_, fun {orderId} => ?_⟩
  · obtain ⟨rfl, rfl⟩ := by simpa using onePool_cases found
    exact ⟨rfl, rfl, nonneg⟩
  · by_contra present
    obtain ⟨row, found⟩ := Option.ne_none_iff_exists'.mp present
    simpa using onePool_cases found

/-- A pool is replenished, an order reserves, is confirmed and consumed, and the second
consumption finds nothing to do.
-/
def consumedOrder : List (LiquidityOperation × List Input) :=
  [(.consumeReservation "order" none none, List.replicate 3 {}),
    (.consumeReservation "order" none none, List.replicate 10 { text := "payout" }),
    (.confirmReservation "order", List.replicate 4 {}),
    (.reserveForOrder { poolId := "pool", orderId := "order", amount := 40000000 },
      List.replicate 7 {}),
    (.recordTreasuryTransaction "pool" .REPLENISHMENT 50000000 none none,
      List.replicate 8 { text := "deposit" })]

theorem serial_ledger_consumedOrder
    : ∃ entries world, History (World.start (onePool 100000000)) entries world
        ∧ world.db.committed.lookup (.liquidityPool "pool") = some ⟨110000000, 0, 110000000⟩
        ∧ total (payouts "pool" 40000000) world.db.committed
            - total (payouts "pool" 40000000) (onePool 100000000)
          = total (consumptions "pool" 40000000) world.db.committed
            + recordedPayouts "pool" 40000000 entries := by
  have went : (replay (World.start (onePool 100000000)) consumedOrder).map
      (fun last => (last.2.db.committed.lookup (.liquidityPool "pool"),
        last.1.all fun entry => decide entry.1.Releases))
      = some (some ⟨110000000, 0, 110000000⟩, true) := by
    decide +kernel
  obtain ⟨⟨entries, world⟩, replayed, found⟩ := Option.map_eq_some_iff.mp went
  obtain ⟨found, releases⟩ := Prod.mk.inj found
  have history := History.of_replay replayed
  refine ⟨entries, world, history, found, ?_⟩
  refine (serial_ledger (onePool_fresh (by decide)) (fun entry member => ?_) history).2.2.1 _ _
  exact of_decide_eq_true (List.all_eq_true.mp releases entry member)

end LuminaRail
