import LuminaRail.Liquidity.Interleavings
import Mathlib.Algebra.Order.Group.Int

/-! The accounts of the pools: what their reservations hold back, what the treasury has
recorded, and how one commit of a liquidity transaction changes both.
-/

namespace LuminaRail

open Concurrency Database LiquidityService

/-- What a row holds back of a pool. -/
def heldBack (poolId : Id) : Sigma Row → Int
  | ⟨.liquidityReservation _, (reservation : LiquidityReservation)⟩ =>
      if reservation.poolId = poolId ∧ reservation.Active then reservation.amount else 0
  | _ => 0

/-- The sum of the amounts of the RESERVED and CONFIRMED reservations of a pool. -/
def reservedSum (poolId : Id) (store : AList Row) : Int := total (heldBack poolId) store

/-- Each pool has reserved what its reservations hold back; all amounts are positive. -/
structure Accounted (store : AList Row) : Prop where
  reserved : ∀ {poolId pool}, store.lookup (.liquidityPool poolId) = some pool
    → pool.reservedBalance = reservedSum poolId store
  positive : ∀ {orderId reservation},
    store.lookup (.liquidityReservation orderId) = some reservation → 0 < reservation.amount

/-- The releases go to one of the two released statuses. -/
def LiquidityOperation.Releases : LiquidityOperation → Prop
  | .releaseReservation _ status => status = .EXPIRED_RELEASED ∨ status = .CANCELLED_RELEASED
  | _ => True

instance : DecidablePred LiquidityOperation.Releases
  | .releaseReservation _ status =>
      inferInstanceAs (Decidable (status = .EXPIRED_RELEASED ∨ status = .CANCELLED_RELEASED))
  | .reserveForOrder _ | .confirmReservation _ | .consumeReservation _ _ _
  | .recordTreasuryTransaction _ _ _ _ _ => .isTrue trivial

/-- The writes replace no reservation but active ones. -/
def ReplacesActive (writes : List (Sigma Row)) (store : AList Row) : Prop :=
  ∀ orderId new row, ⟨.liquidityReservation orderId, new⟩ ∈ writes
    → store.lookup (.liquidityReservation orderId) = some row → row.Active

/-- A balance of the pools changes as the total of a weight does. -/
def Follows (balance : LiquidityPool → Int) (weight : Id → Sigma Row → Int)
    (before after : AList Row) : Prop :=
  ∀ poolId new, after.lookup (.liquidityPool poolId) = some new
    → ∃ old, before.lookup (.liquidityPool poolId) = some old
      ∧ balance new - balance old
        = total (weight poolId) after - total (weight poolId) before

/-- One pool and its weight change alike, and no other does. -/
theorem Follows.overlay {balance : LiquidityPool → Int} {weight : Id → Sigma Row → Int}
    {writes : List (Sigma Row)} {store : AList Row} (nodup : writes.NodupKeys)
    (id : Id) (delta : Int)
    (gains : ∀ poolId, (writes.map (gain (weight poolId) store)).sum
      = if id = poolId then delta else 0)
    (pools : ∀ poolId new, ⟨.liquidityPool poolId, new⟩ ∈ writes
      → poolId = id ∧ ∃ old, store.lookup (.liquidityPool id) = some old
        ∧ balance new = balance old + delta)
    (written : delta = 0 ∨ (writes.dlookup (.liquidityPool id)).isSome)
    : Follows balance weight store (overlay writes store) := by
  intro poolId new found
  have gained : total (weight poolId) (Database.overlay writes store)
      - total (weight poolId) store = if id = poolId then delta else 0 := by
    rw [total_overlay _ _ nodup, gains, add_sub_cancel_left]
  rw [gained]
  cases pool_written : writes.dlookup (.liquidityPool poolId) with
  | some row =>
      rw [lookup_overlay_of_written store pool_written] at found
      obtain rfl := Option.some.inj found
      obtain ⟨rfl, old, before, same⟩ := pools poolId row (List.of_mem_dlookup pool_written)
      refine ⟨old, before, ?_⟩
      rw [same, add_sub_cancel_left, if_pos rfl]
  | none =>
      rw [lookup_overlay_of_unwritten store pool_written] at found
      refine ⟨new, found, ?_⟩
      rw [Int.sub_self]
      split
      · rename_i same
        subst same
        rcases written with zero | present
        · exact zero.symm
        · simp [pool_written] at present
      · rfl

section

variable {store : AList Row} {orderId : Id} {row : LiquidityReservation}

/-- Only reservations hold anything back. -/
theorem gain_heldBack_pool {poolId id : Id} {pool : LiquidityPool}
    : gain (heldBack poolId) store ⟨.liquidityPool id, pool⟩ = 0 :=
  gain_of_weightless fun _ => rfl

theorem gain_heldBack_treasury {poolId id : Id} {entry : TreasuryTransaction}
    : gain (heldBack poolId) store ⟨.treasuryTransaction id, entry⟩ = 0 :=
  gain_of_weightless fun _ => rfl

/-- An active reservation holds back no more than its pool has reserved. -/
theorem Accounted.amount_le {pool : LiquidityPool} (accounted : Accounted store)
    (found : store.lookup (.liquidityReservation orderId) = some row) (active : row.Active)
    (pool_found : store.lookup (.liquidityPool row.poolId) = some pool)
    : row.amount ≤ pool.reservedBalance := by
  have nonneg : ∀ key row', store.lookup key = some row'
      → 0 ≤ heldBack row.poolId ⟨key, row'⟩ := by
    intro key row' present
    cases key with
    | liquidityReservation _ =>
        simp only [heldBack]
        split
        · exact Int.le_of_lt (accounted.positive present)
        · exact Int.le_refl 0
    | _ => exact Int.le_refl 0
  have held := weightAt_le_total nonneg (.liquidityReservation orderId)
  have weighs : weightAt (heldBack row.poolId) store (.liquidityReservation orderId)
      = row.amount := by
    rw [weightAt, found, Option.elim_some]
    exact if_pos ⟨rfl, active⟩
  rw [weighs] at held
  rw [accounted.reserved pool_found]
  exact held

variable {status : LiquidityReservationStatus}
  (found : store.lookup (.liquidityReservation orderId) = some row) (active : row.Active)
include found active

/-- A reservation that stays active holds back what it did. -/
theorem gain_heldBack_stay
    (stays : ({ row with status := status } : LiquidityReservation).Active) (poolId : Id)
    : gain (heldBack poolId) store ⟨.liquidityReservation orderId, { row with status := status }⟩
      = 0 := by
  rw [gain_of_found found]
  simp only [heldBack, active, stays, and_true, Int.sub_self]

/-- A reservation that is no longer active gives back its amount. -/
theorem gain_heldBack_end
    (ends : ¬({ row with status := status } : LiquidityReservation).Active) (poolId : Id)
    : gain (heldBack poolId) store ⟨.liquidityReservation orderId, { row with status := status }⟩
      = if row.poolId = poolId then -row.amount else 0 := by
  rw [gain_of_found found]
  simp only [heldBack, if_neg fun given => ends (And.right given), active, and_true]
  split <;> omega

end

variable {x : TxId} {operation : LiquidityOperation} {writes : List (Sigma Row)}
  {server : Server Row}

/-- A commit over active reservations changes what is reserved and held back alike. -/
theorem Ready.follows_reserved (ready : Ready SameTerms x operation writes server)
    (releases : operation.Releases) (active : ReplacesActive writes server.committed)
    (accounted : Accounted server.committed)
    : Follows LiquidityPool.reservedBalance heldBack server.committed
        (overlay writes server.committed) := by
  cases ready with
  | idle => exact fun poolId new found => ⟨new, found, by simp⟩
  | @reserve params pool _ expiresAt positive available pool_held new =>
      refine Follows.overlay (by simp) params.poolId params.amount (fun poolId => ?_)
        (fun poolId row member => ?_) (Or.inr (by simp))
      · simp [gain_of_absent new.2, gain_heldBack_pool, heldBack, LiquidityReservation.Active]
      · obtain ⟨rfl, rfl⟩ : poolId = params.poolId ∧ row = reserved pool params.amount := by
          simpa using member
        exact ⟨rfl, pool, pool_held.2, rfl⟩
  | @confirm id read row _ was_reserved still reservation_held =>
      have row_active := active _ _ row List.mem_cons_self reservation_held.2
      refine Follows.overlay (by simp) row.poolId 0 (fun poolId => ?_)
        (fun poolId row member => ?_) (Or.inl rfl)
      · rw [List.map_singleton, List.sum_singleton,
          gain_heldBack_stay reservation_held.2 row_active (Or.inr rfl), ite_self]
      · simp at member
  | @consume orderId id externalRef stellarTxHash read row pool payout _ was_active still
      pool_held reservation_held new payout_of =>
      have row_active : row.Active :=
        active orderId _ row (List.mem_cons_of_mem _ List.mem_cons_self) reservation_held.2
      rw [← still.1] at pool_held ⊢
      rw [← still.2]
      have le := accounted.amount_le reservation_held.2 row_active pool_held.2
      refine Follows.overlay (by simp) row.poolId (-row.amount) (fun poolId => ?_)
        (fun poolId new member => ?_) (Or.inr (by simp))
      · rw [List.map_cons, List.sum_cons, List.map_cons, List.sum_cons, List.map_singleton,
          List.sum_singleton, gain_heldBack_treasury, gain_heldBack_pool,
          gain_heldBack_end reservation_held.2 row_active (by simp [LiquidityReservation.Active])]
        omega
      · obtain ⟨rfl, rfl⟩ : poolId = row.poolId ∧ new = consumed pool row.amount := by
          simpa using member
        refine ⟨rfl, pool, pool_held.2, ?_⟩
        simp only [consumed]
        omega
  | @release orderId status read row pool _ was_active still pool_held reservation_held =>
      have row_active : row.Active :=
        active orderId _ row List.mem_cons_self reservation_held.2
      rw [← still.1] at pool_held ⊢
      rw [← still.2]
      have le := accounted.amount_le reservation_held.2 row_active pool_held.2
      have ends : ¬({ row with status := status } : LiquidityReservation).Active := by
        rcases releases with rfl | rfl <;> simp [LiquidityReservation.Active]
      refine Follows.overlay (by simp) row.poolId (-row.amount) (fun poolId => ?_)
        (fun poolId new member => ?_) (Or.inr (by simp))
      · rw [List.map_cons, List.sum_cons, List.map_singleton, List.sum_singleton,
          gain_heldBack_pool, gain_heldBack_end reservation_held.2 row_active ends]
        omega
      · obtain ⟨rfl, rfl⟩ : poolId = row.poolId ∧ new = released pool row.amount := by
          simpa using member
        refine ⟨rfl, pool, pool_held.2, ?_⟩
        simp only [released]
        omega
  | @record poolId id type amount externalRef stellarTxHash pool entry _ positive enough
      pool_held new entry_of =>
      refine Follows.overlay (by simp) poolId 0 (fun poolId => ?_)
        (fun poolId new member => ?_) (Or.inl rfl)
      · simp [gain_heldBack_treasury, gain_heldBack_pool]
      · obtain ⟨rfl, rfl⟩ : _ ∧ new = adjusted pool type amount := by
          simpa using member
        exact ⟨rfl, pool, pool_held.2, (Int.add_zero _).symm⟩

/-- The reservations that are written have the amounts of those that they replace. -/
theorem Ready.positive {seen : ReservationRelation}
    (ready : Ready seen x operation writes server) (accounted : Accounted server.committed)
    {orderId : Id} {new : LiquidityReservation}
    (written : ⟨.liquidityReservation orderId, new⟩ ∈ writes)
    : 0 < new.amount := by
  cases ready with
  | idle => simp at written
  | reserve expiresAt positive _ _ _ =>
      obtain ⟨_, rfl⟩ := by simpa using written
      exact positive
  | @confirm id read row _ _ _ reservation_held =>
      have positive := accounted.positive reservation_held.2
      obtain ⟨_, rfl⟩ : orderId = id ∧ new = { row with status := .CONFIRMED } := by
        simpa using written
      exact positive
  | @consume id _ _ _ read row _ _ _ _ _ _ reservation_held =>
      have positive := accounted.positive reservation_held.2
      obtain ⟨_, rfl⟩ : orderId = id ∧ new = { row with status := .CONSUMED } := by
        simpa using written
      exact positive
  | @release id status read row _ _ _ _ _ reservation_held =>
      have positive := accounted.positive reservation_held.2
      obtain ⟨_, rfl⟩ : orderId = id ∧ new = { row with status := status } := by
        simpa using written
      exact positive
  | record => simp at written

/-- A commit over active reservations keeps the accounts. -/
theorem Ready.accounted (ready : Ready SameTerms x operation writes server)
    (releases : operation.Releases) (active : ReplacesActive writes server.committed)
    (accounted : Accounted server.committed)
    : Accounted (overlay writes server.committed) := by
  refine ⟨fun {poolId pool} found => ?_, fun {orderId reservation} found => ?_⟩
  · obtain ⟨old, before, alike⟩ :=
      ready.follows_reserved releases active accounted poolId pool found
    have reserved := accounted.reserved before
    rw [reservedSum] at reserved ⊢
    omega
  · rcases lookup_overlay_cases found with written | before
    · exact ready.positive accounted written
    · exact accounted.positive before

theorem onePool_accounted (totalBalance : Int) : Accounted (onePool totalBalance) := by
  refine ⟨fun {poolId pool} found => ?_, fun {orderId reservation} found => ?_⟩
  · obtain ⟨rfl, rfl⟩ := by simpa using onePool_cases found
    rfl
  · simpa using onePool_cases found

end LuminaRail
