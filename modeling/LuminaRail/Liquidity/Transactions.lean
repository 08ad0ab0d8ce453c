import LuminaRail.Model.System
import LuminaRail.Services.Liquidity

/-! What the transactions of the liquidity service have written when they commit.
The balances come from the pool row under its lock. The reservation was read before the lock
was taken, so it may have changed since: how far is a parameter of the results.
-/

namespace LuminaRail

open Concurrency Database Service

/-- The transactions of the liquidity service. -/
inductive LiquidityOperation
  | reserveForOrder (params : ReserveLiquidityParams)
  | confirmReservation (orderId : Id)
  | consumeReservation (orderId : Id) (externalRef stellarTxHash : Option String)
  | releaseReservation (orderId : Id) (targetStatus : LiquidityReservationStatus)
  | recordTreasuryTransaction (poolId : Id) (type : TreasuryTransactionType)
    (amount : Int) (externalRef stellarTxHash : Option String)

namespace LiquidityOperation

open LiquidityService

/-- A call of the operation by somebody who ignores its answer. -/
def run : LiquidityOperation → Service Unit
  | .reserveForOrder params => do
      let _ ← transaction fun tx => reserveForOrderInTx tx params
  | .confirmReservation orderId => do
      let _ ← LiquidityService.confirmReservation orderId
  | .consumeReservation orderId externalRef stellarTxHash => do
      let _ ← LiquidityService.consumeReservation orderId externalRef stellarTxHash
  | .releaseReservation orderId targetStatus => do
      let _ ← LiquidityService.releaseReservation orderId targetStatus
  | .recordTreasuryTransaction poolId type amount externalRef stellarTxHash => do
      let _ ← LiquidityService.recordTreasuryTransaction poolId type amount externalRef
        stellarTxHash

/-- Only calls about an existing reservation may find nothing to do. -/
def MayIdle : LiquidityOperation → Prop
  | .reserveForOrder _ => False
  | .recordTreasuryTransaction _ _ _ _ _ => False
  | _ => True

end LiquidityOperation

/-- The pool after reserving an amount. -/
def LiquidityService.reserved (pool : LiquidityPool) (amount : Int) : LiquidityPool :=
  { pool with
    reservedBalance := pool.reservedBalance + amount
    availableBalance := pool.totalBalance - (pool.reservedBalance + amount) }

/-- The pool after recording a treasury transaction. -/
def LiquidityService.adjusted (pool : LiquidityPool) (type : TreasuryTransactionType)
    (amount : Int) : LiquidityPool :=
  { pool with
    totalBalance := adjustedTotal pool type amount
    availableBalance := adjustedTotal pool type amount - pool.reservedBalance }

/-- A reservation that holds back liquidity of its pool. -/
def LiquidityReservation.Active (reservation : LiquidityReservation) : Prop :=
  reservation.status = .RESERVED ∨ reservation.status = .CONFIRMED

instance (reservation : LiquidityReservation) : Decidable reservation.Active :=
  inferInstanceAs (Decidable (_ ∨ _))

-----------------------------------------------------------------------------------------
-- Writes that are ready to be committed
-----------------------------------------------------------------------------------------

/-- A relation between two versions of a reservation. -/
abbrev ReservationRelation := LiquidityReservation → LiquidityReservation → Prop

open LiquidityService Server in
/-- The writes of an operation at its commit, newest first, and the rows that they replace. A
reservation that was read as `read` is `row` when it is updated.
-/
inductive Ready (seen : ReservationRelation) (x : TxId)
    : LiquidityOperation → List (Sigma Row) → Server Row → Prop
  | idle {operation : LiquidityOperation} {server : Server Row} (may : operation.MayIdle)
    : Ready seen x operation [] server
  | reserve {params : ReserveLiquidityParams} {pool : LiquidityPool} {server : Server Row}
    (expiresAt : Nat) (positive : 0 < params.amount)
    (available : params.amount ≤ pool.totalBalance - pool.reservedBalance)
    (pool_held : HeldAs x (.liquidityPool params.poolId) (some pool) server)
    (new : HeldAs x (.liquidityReservation params.orderId) none server)
    : Ready seen x (.reserveForOrder params)
        [⟨.liquidityReservation params.orderId,
          ⟨params.poolId, params.amount, .RESERVED, expiresAt⟩⟩,
        ⟨.liquidityPool params.poolId, reserved pool params.amount⟩] server
  | confirm {orderId : Id} {read row : LiquidityReservation} {server : Server Row}
    (was_reserved : read.status = .RESERVED) (still : seen read row)
    (reservation_held : HeldAs x (.liquidityReservation orderId) (some row) server)
    : Ready seen x (.confirmReservation orderId)
        [⟨.liquidityReservation orderId, { row with status := .CONFIRMED }⟩] server
  | consume {orderId id : Id} {externalRef stellarTxHash : Option String}
    {read row : LiquidityReservation} {pool : LiquidityPool} {payout : TreasuryTransaction}
    {server : Server Row} (was_active : read.Active) (still : seen read row)
    (pool_held : HeldAs x (.liquidityPool read.poolId) (some pool) server)
    (reservation_held : HeldAs x (.liquidityReservation orderId) (some row) server)
    (new : HeldAs x (.treasuryTransaction id) none server)
    (payout_of : payout.poolId = read.poolId ∧ payout.type = .SETTLEMENT_PAYOUT
      ∧ payout.amount = read.amount)
    : Ready seen x (.consumeReservation orderId externalRef stellarTxHash)
        [⟨.treasuryTransaction id, payout⟩,
        ⟨.liquidityReservation orderId, { row with status := .CONSUMED }⟩,
        ⟨.liquidityPool read.poolId, consumed pool read.amount⟩] server
  | release {orderId : Id} {targetStatus : LiquidityReservationStatus}
    {read row : LiquidityReservation} {pool : LiquidityPool} {server : Server Row}
    (was_active : read.Active) (still : seen read row)
    (pool_held : HeldAs x (.liquidityPool read.poolId) (some pool) server)
    (reservation_held : HeldAs x (.liquidityReservation orderId) (some row) server)
    : Ready seen x (.releaseReservation orderId targetStatus)
        [⟨.liquidityReservation orderId, { row with status := targetStatus }⟩,
        ⟨.liquidityPool read.poolId, released pool read.amount⟩] server
  | record {poolId id : Id} {type : TreasuryTransactionType} {amount : Int}
    {externalRef stellarTxHash : Option String} {pool : LiquidityPool}
    {entry : TreasuryTransaction} {server : Server Row} (positive : 0 < amount)
    (enough : pool.reservedBalance ≤ adjustedTotal pool type amount)
    (pool_held : HeldAs x (.liquidityPool poolId) (some pool) server)
    (new : HeldAs x (.treasuryTransaction id) none server)
    (entry_of : entry.poolId = poolId ∧ entry.type = type ∧ entry.amount = amount)
    : Ready seen x
        (.recordTreasuryTransaction poolId type amount externalRef stellarTxHash)
        [⟨.treasuryTransaction id, entry⟩,
        ⟨.liquidityPool poolId, adjusted pool type amount⟩] server

variable {seen : ReservationRelation} {x : TxId} {Γ : Protocol World} {t : Tid}
  {K : AList Row → Prop}

/-- What is ready stays ready while the others act. -/
theorem Ready.local (operation : LiquidityOperation)
    : Server.Local x (Ready seen x operation) := by
  intro writes before after locks rows ready
  have keep : ∀ {key : Key} {row : Option (Row key)}, Server.HeldAs x key row before
      → Server.HeldAs x key row after :=
    fun held => Server.Local.heldAs _ writes before after locks rows held
  cases ready with
  | idle may => exact .idle may
  | reserve expiresAt positive available pool_held new =>
      exact .reserve expiresAt positive available (keep pool_held) (keep new)
  | confirm was_reserved still reservation_held =>
      exact .confirm was_reserved still (keep reservation_held)
  | consume was_active still pool_held reservation_held new payout_of =>
      exact .consume was_active still (keep pool_held) (keep reservation_held) (keep new)
        payout_of
  | release was_active still pool_held reservation_held =>
      exact .release was_active still (keep pool_held) (keep reservation_held)
  | record positive enough pool_held new entry_of =>
      exact .record positive enough (keep pool_held) (keep new) entry_of

-----------------------------------------------------------------------------------------
-- The transactions reach these writes
-----------------------------------------------------------------------------------------

/-- The reservation of an order, as it may have become since it was read. -/
def Known (seen : ReservationRelation) (orderId : Id) (read : LiquidityReservation)
    (store : AList Row) : Prop :=
  ∃ row, store.lookup (.liquidityReservation orderId) = some row ∧ seen read row

/-- What a liquidity transaction of `t` relies on: reservations change within `seen` and no
pool is created.
-/
structure LiquidityRely (seen : ReservationRelation) (Γ : Protocol World) (t : Tid)
    : Prop where
  transactional : Transactional Γ t
  seen_refl : ∀ reservation, seen reservation reservation
  reservation : ∀ orderId read, Steady Γ t (Known seen orderId read)
  pool_absent : ∀ poolId, Steady Γ t fun store => store.lookup (.liquidityPool poolId) = none

namespace LiquidityService

/-- No writes yet. -/
abbrev Clean (writes : List (Sigma Row)) (_ : Server Row) : Prop := writes = []

/-- No writes yet, and the lock of a pool row whose committed version is known. -/
abbrev Locked (x : TxId) (poolId : Id) (pool : LiquidityPool) (writes : List (Sigma Row))
    (server : Server Row) : Prop :=
  writes = [] ∧ Server.HeldAs x (.liquidityPool poolId) (some pool) server

section

variable (rely : LiquidityRely seen Γ t) (own : x.owner = t) (steady : Steady Γ t K)
include rely own steady

/-- A transaction that has locked its pool row reads the committed version. -/
theorem spec_lockedPool {poolId : Id} {F : AList Row → Prop}
    (weaker : ∀ store, K store → F store)
    : Γ.Spec t
        (fun world =>
          At x (fun writes db => Clean writes db ∧ db.holder (.liquidityPool poolId) = some x) K
            world
          ∨ At x Clean
            (fun store => K store ∧ store.lookup (.liquidityPool poolId) = none) world)
        (findUnique (some x) (.liquidityPool poolId))
        (fun found world => F world.db.committed
          ∧ ∀ pool ∈ found, At x (Locked x poolId pool) K world)
        fun _ world => F world.db.committed := by
  have held_local : Server.Local x fun writes (db : Server Row) =>
      Clean writes db ∧ db.holder (.liquidityPool poolId) = some x :=
    (Server.Local.const _).and fun _ _ _ locks _ held => (locks _).mpr held
  refine Protocol.Spec.or ?_ ?_
  · refine (at_findUnique rely.transactional own held_local steady weaker).conseq
      (fun _ _ given => given)
      (fun found world _ given => ⟨weaker _ given.1.2, fun pool member => ?_⟩)
      fun _ _ _ given => given
    obtain ⟨⟨during, known⟩, writes, ⟨rfl, _⟩, found_row⟩ := given
    refine ⟨fun ws opened => ?_, known⟩
    obtain ⟨rfl, held⟩ := during ws opened
    exact ⟨rfl, held, by simpa [← found_row] using member⟩
  · refine (at_findUnique rely.transactional own (Server.Local.const _)
      (steady.and (rely.pool_absent poolId)) fun store given => weaker store given.1).conseq
      (fun _ _ given => given)
      (fun found world _ given => ⟨weaker _ given.1.2.1, fun pool member => ?_⟩)
      fun _ _ _ given => given
    obtain ⟨⟨_, _, absent⟩, writes, rfl, found_row⟩ := given
    simp [← found_row, absent] at member

/-- Lock a pool row and read its committed version. -/
theorem spec_lockPool {poolId : Id} {α : Type} {rest : Option LiquidityPool → Service α}
    {Q : α → World → Prop} {F : AList Row → Prop} (weaker : ∀ store, K store → F store)
    (missing : Γ.Spec t (fun world => F world.db.committed) (rest none) Q
      fun _ world => F world.db.committed)
    (continues : ∀ pool, Γ.Spec t (At x (Locked x poolId pool) K) (rest (some pool)) Q
      fun _ world => F world.db.committed)
    : Γ.Spec t (At x Clean K)
        (selectForUpdate x (.liquidityPool poolId) >>= fun _ =>
          findUnique (some x) (.liquidityPool poolId) >>= rest) Q
        fun _ world => F world.db.committed := by
  refine Protocol.Spec.bind (at_selectForUpdate rely.transactional own (Server.Local.const _)
    steady weaker (B := fun writes db =>
      Clean writes db ∧ db.holder (.liquidityPool poolId) = some x)
    fun writes _ _ clean _ _ _ held => ⟨clean, held⟩) fun _ => ?_
  refine Protocol.Spec.bind (spec_lockedPool rely own steady weaker) fun found => ?_
  cases found with
  | none => exact missing.pre fun _ _ given => given.1
  | some pool => exact (continues pool).pre fun _ _ given => given.2 pool rfl

/-- Lock a pool row that must exist and read its committed version. -/
theorem spec_lockPoolOrThrow {poolId : Id} {α : Type} {rest : LiquidityPool → Service α}
    {Q : α → World → Prop} {F : AList Row → Prop} (weaker : ∀ store, K store → F store)
    (continues : ∀ pool, Γ.Spec t (At x (Locked x poolId pool) K) (rest pool) Q
      fun _ world => F world.db.committed)
    : Γ.Spec t (At x Clean K)
        (selectForUpdate x (.liquidityPool poolId) >>= fun _ =>
          findUniqueOrThrow (some x) (.liquidityPool poolId) >>= rest) Q
        fun _ world => F world.db.committed := by
  rw [findUniqueOrThrow_bind]
  refine spec_lockPool rely own steady weaker ?_ continues
  exact Protocol.Spec.throw AppError.recordNotFound fun _ _ given => given

/-- An UPDATE of the status of a reservation, after some writes to other rows. -/
theorem spec_updateReservation {orderId : Id} {read : LiquidityReservation}
    {status : LiquidityReservationStatus} {before : List (Sigma Row)}
    {H : Server Row → Prop} {F : AList Row → Prop} (weaker : ∀ store, K store → F store)
    (private' : Server.Local x fun _ db => H db)
    (keep : ∀ {db after : Server Row}, (∀ k y, db.holder k = some y → after.holder k = some y)
      → after.committed = db.committed → H db → H after)
    (other : before.dlookup (.liquidityReservation orderId) = none)
    : Γ.Spec t
        (At x (fun writes db => writes = before ∧ H db)
          fun store => K store ∧ Known seen orderId read store)
        (update (some x) (.liquidityReservation orderId) fun row =>
          { row with status := status })
        (fun _ => At x
          (fun writes db => ∃ row, seen read row
            ∧ Server.HeldAs x (.liquidityReservation orderId) (some row) db ∧ H db
            ∧ writes
              = ⟨.liquidityReservation orderId, { row with status := status }⟩ :: before)
          fun store => K store ∧ Known seen orderId read store)
        fun _ world => F world.db.committed := by
  refine at_update rely.transactional own ((Server.Local.const _).and private')
    (steady.and (rely.reservation orderId read)) (fun store given => weaker store given.1)
    (B := fun _ writes db => ∃ row, seen read row
      ∧ Server.HeldAs x (.liquidityReservation orderId) (some row) db ∧ H db
      ∧ writes = ⟨.liquidityReservation orderId, { row with status := status }⟩ :: before) ?_
  intro world writes db row given known _ found _ _ locks committed held
  obtain ⟨rfl, holds⟩ := given
  obtain ⟨_, now, committed_now, still⟩ := known
  have committed_row : world.db.committed.lookup (.liquidityReservation orderId) = some row := by
    rwa [lookup_overlay_of_unwritten _ other] at found
  obtain rfl := Option.some.inj (committed_now.symm.trans committed_row)
  exact ⟨now, still, ⟨held, committed ▸ committed_row⟩, keep locks committed holds, rfl⟩

theorem spec_reserveForOrderInTx (params : ReserveLiquidityParams)
    : Γ.Spec t (At x Clean K) (reserveForOrderInTx x params)
        (fun _ => At x (Ready seen x (.reserveForOrder params)) K)
        fun _ world => K world.db.committed := by
  have throws : ∀ {A : List (Sigma Row) → Server Row → Prop} (world : World), Γ.inv world
      → At x A K world → K world.db.committed := fun _ _ given => given.2
  refine Protocol.Spec.bind (spec_throwIf throws) fun _ => ?_
  refine Protocol.Spec.assume fun positive => ?_
  refine spec_lockPool rely own steady (fun _ known => known)
    (Protocol.Spec.throw _ fun _ _ given => given) fun pool => ?_
  refine Protocol.Spec.bind (spec_throwIf throws) fun _ => ?_
  refine Protocol.Spec.assume fun enough => ?_
  refine Protocol.Spec.bind (spec_throwIf throws) fun _ => ?_
  refine Protocol.Spec.assume fun _ => ?_
  have locked_local : ∀ {before : List (Sigma Row)}, Server.Local x fun writes db =>
      writes = before ∧ Server.HeldAs x (.liquidityPool params.poolId) (some pool) db :=
    (Server.Local.const _).and (Server.Local.heldAs _)
  refine Protocol.Spec.bind (at_update rely.transactional own locked_local steady
    (fun _ known => known)
    (B := fun _ writes db =>
      writes = [⟨.liquidityPool params.poolId, reserved pool params.amount⟩]
        ∧ Server.HeldAs x (.liquidityPool params.poolId) (some pool) db) ?_) fun _ => ?_
  · intro world writes db row given _ _ found _ _ locks committed _
    obtain ⟨rfl, held⟩ := given
    obtain rfl : pool = row := Option.some.inj (held.2.symm.trans found)
    exact ⟨rfl, held.keep locks committed⟩
  refine Protocol.Spec.bind (at_now rely.transactional own locked_local steady) fun time => ?_
  refine at_create rely.transactional own locked_local steady (fun _ known => known) ?_
  intro world writes db given _ absent _ locks committed held_new
  obtain ⟨rfl, held⟩ := given
  have new := absent _ List.mem_cons_self
  simp only [lookup_overlay, Option.or_eq_none_iff] at new
  refine .reserve _ (by omega) (by omega) (held.keep locks committed)
    ⟨held_new _ List.mem_cons_self, committed ▸ new.2⟩

/-- A reservation that was found is known from then on. -/
theorem spec_findReservation (orderId : Id)
    : Γ.Spec t (At x Clean K) (findUnique (some x) (.liquidityReservation orderId))
        (fun found => At x Clean fun store =>
          K store ∧ ∀ read ∈ found, Known seen orderId read store)
        fun _ world => K world.db.committed := by
  refine (at_findUnique rely.transactional own (Server.Local.const _) steady
    fun _ known => known).conseq (fun _ _ given => given) (fun found world _ given => ?_)
    fun _ _ _ given => given
  obtain ⟨⟨during, known⟩, writes, rfl, rfl⟩ := given
  exact ⟨during, known, fun read member => ⟨read, member, rely.seen_refl read⟩⟩

theorem spec_confirmReservationInTx (orderId : Id)
    : Γ.Spec t (At x Clean K) (confirmReservationInTx x orderId)
        (fun _ => At x (Ready seen x (.confirmReservation orderId)) K)
        fun _ world => K world.db.committed := by
  have idle : ∀ {L : AList Row → Prop} (world : World),
      At x Clean (fun store => K store ∧ L store) world
        → At x (Ready seen x (.confirmReservation orderId)) K world :=
    fun world given => ⟨given.1.mono fun writes clean => clean ▸ .idle trivial, given.2.1⟩
  refine Protocol.Spec.bind (spec_findReservation rely own steady orderId) fun found => ?_
  cases found with
  | none => exact Protocol.Spec.pure _ fun world _ given => idle world given
  | some read =>
      dsimp only
      split
      · exact Protocol.Spec.pure _ fun world _ given => idle world given
      · split
        · exact Protocol.Spec.pure _ fun world _ given => idle world given
        · rename_i was_reserved
          have nothing_else : Server.Local x fun _ (_ : Server Row) => True :=
            Server.Local.const fun _ => True
          refine Protocol.Spec.map ((spec_updateReservation rely own steady
            (fun _ known => known) nothing_else (fun _ _ _ => trivial) rfl).conseq
            (fun world _ given => ⟨given.1.mono fun _ clean => ⟨clean, trivial⟩,
              given.2.1, given.2.2 read rfl⟩)
            (fun _ world _ given => ⟨given.1.mono ?_, given.2.1⟩) fun _ _ _ given => given)
          intro writes given
          obtain ⟨row, still, held, _, rfl⟩ := given
          exact .confirm (not_not.mp was_reserved) still held

theorem spec_consumeReservationInTx (orderId : Id) (externalRef stellarTxHash : Option String)
    : Γ.Spec t (At x Clean K) (consumeReservationInTx x orderId externalRef stellarTxHash)
        (fun _ => At x
          (Ready seen x (.consumeReservation orderId externalRef stellarTxHash)) K)
        fun _ world => K world.db.committed := by
  have idle : ∀ {L : AList Row → Prop} (world : World),
      At x Clean (fun store => K store ∧ L store) world
        → At x (Ready seen x
            (.consumeReservation orderId externalRef stellarTxHash)) K world :=
    fun world given => ⟨given.1.mono fun writes clean => clean ▸ .idle trivial, given.2.1⟩
  refine Protocol.Spec.bind (spec_findReservation rely own steady orderId) fun found => ?_
  cases found with
  | none => exact Protocol.Spec.pure _ fun world _ given => idle world given
  | some read =>
      dsimp only
      split
      · exact Protocol.Spec.pure _ fun world _ given => idle world given
      · split
        · exact Protocol.Spec.pure _ fun world _ given => idle world given
        · rename_i not_consumed not_released
          have was_active : read.Active := by
            cases status : read.status <;> simp_all [LiquidityReservation.Active]
          have steady_known := steady.and (rely.reservation orderId read)
          refine (spec_lockPoolOrThrow rely own steady_known (fun _ known => known.1)
            fun pool => ?_).pre fun world _ given => ⟨given.1, given.2.1, given.2.2 read rfl⟩
          have locked_local : Server.Local x fun _ (db : Server Row) =>
              Server.HeldAs x (.liquidityPool read.poolId) (some pool) db := Server.Local.heldAs _
          refine Protocol.Spec.bind (at_update rely.transactional own
            ((Server.Local.const _).and locked_local) steady_known (fun _ known => known.1)
            (B := fun _ writes db =>
              writes = [⟨.liquidityPool read.poolId, consumed pool read.amount⟩]
                ∧ Server.HeldAs x (.liquidityPool read.poolId) (some pool) db) ?_) fun _ => ?_
          · intro world writes db row given _ _ found _ _ locks committed _
            obtain ⟨rfl, held⟩ := given
            exact ⟨rfl, held.keep locks committed⟩
          refine Protocol.Spec.bind (spec_updateReservation rely own steady
            (fun _ known => known) locked_local
            (fun locks committed held => held.keep locks committed) rfl) fun _ => ?_
          have reservation_local := (Server.Local.exists fun row =>
            (Server.Local.const fun _ => seen read row).and
              ((@Server.Local.heldAs _ _ _ x (.liquidityReservation orderId)
                (some row)).and (locked_local.and (Server.Local.const fun writes =>
                  writes = [⟨.liquidityReservation orderId, { row with status := .CONSUMED }⟩,
                    ⟨.liquidityPool read.poolId, consumed pool read.amount⟩]))))
          refine Protocol.Spec.bind (at_randomText rely.transactional own reservation_local
            steady_known) fun id => ?_
          refine Protocol.Spec.bind (at_now rely.transactional own reservation_local
            steady_known) fun time => ?_
          refine Protocol.Spec.bind ((at_create rely.transactional own reservation_local
            steady_known (fun _ known => known.1)
            (B := Ready seen x
              (.consumeReservation orderId externalRef stellarTxHash)) ?_)) fun _ => ?_
          · intro world writes db given _ absent _ locks committed held_new
            obtain ⟨row, still, reservation_held, pool_held, rfl⟩ := given
            have new := absent _ List.mem_cons_self
            simp only [lookup_overlay, Option.or_eq_none_iff] at new
            exact .consume was_active still (pool_held.keep locks committed)
              (reservation_held.keep locks committed)
              ⟨held_new _ List.mem_cons_self, committed ▸ new.2⟩ ⟨rfl, rfl, rfl⟩
          · exact Protocol.Spec.pure _ fun world _ given => ⟨given.1, given.2.1⟩

theorem spec_releaseReservationInTx (orderId : Id) (targetStatus : LiquidityReservationStatus)
    : Γ.Spec t (At x Clean K) (releaseReservationInTx x orderId targetStatus)
        (fun _ => At x (Ready seen x (.releaseReservation orderId targetStatus)) K)
        fun _ world => K world.db.committed := by
  have idle : ∀ {L : AList Row → Prop} (world : World),
      At x Clean (fun store => K store ∧ L store) world
        → At x (Ready seen x (.releaseReservation orderId targetStatus)) K world :=
    fun world given => ⟨given.1.mono fun writes clean => clean ▸ .idle trivial, given.2.1⟩
  refine Protocol.Spec.bind (spec_findReservation rely own steady orderId) fun found => ?_
  cases found with
  | none => exact Protocol.Spec.pure _ fun world _ given => idle world given
  | some read =>
      dsimp only
      split
      · exact Protocol.Spec.pure _ fun world _ given => idle world given
      · rename_i not_released
        have was_active : read.Active := by
          cases status : read.status <;> simp_all [LiquidityReservation.Active]
        have steady_known := steady.and (rely.reservation orderId read)
        refine (spec_lockPoolOrThrow rely own steady_known (fun _ known => known.1)
          fun pool => ?_).pre fun world _ given => ⟨given.1, given.2.1, given.2.2 read rfl⟩
        have locked_local : Server.Local x fun _ (db : Server Row) =>
            Server.HeldAs x (.liquidityPool read.poolId) (some pool) db := Server.Local.heldAs _
        refine Protocol.Spec.bind (at_update rely.transactional own
          ((Server.Local.const _).and locked_local) steady_known (fun _ known => known.1)
          (B := fun _ writes db =>
            writes = [⟨.liquidityPool read.poolId, released pool read.amount⟩]
              ∧ Server.HeldAs x (.liquidityPool read.poolId) (some pool) db) ?_) fun _ => ?_
        · intro world writes db row given _ _ found _ _ locks committed _
          obtain ⟨rfl, held⟩ := given
          obtain rfl : pool = row := Option.some.inj (held.2.symm.trans found)
          exact ⟨rfl, held.keep locks committed⟩
        refine Protocol.Spec.map ((spec_updateReservation rely own steady
          (fun _ known => known) locked_local
          (fun locks committed held => held.keep locks committed) rfl).conseq
          (fun _ _ given => given) (fun _ world _ given => ⟨given.1.mono ?_, given.2.1⟩)
          fun _ _ _ given => given)
        intro writes given
        obtain ⟨row, still, reservation_held, pool_held, rfl⟩ := given
        exact .release was_active still pool_held reservation_held

theorem spec_recordTreasuryTransactionInTx {poolId : Id} {type : TreasuryTransactionType}
    {amount : Int} (positive : 0 < amount) (externalRef stellarTxHash : Option String)
    : Γ.Spec t (At x Clean K)
        (recordTreasuryTransactionInTx x poolId type amount externalRef stellarTxHash)
        (fun _ => At x (Ready seen x
          (.recordTreasuryTransaction poolId type amount externalRef stellarTxHash)) K)
        fun _ world => K world.db.committed := by
  have throws : ∀ {A : List (Sigma Row) → Server Row → Prop} (world : World), Γ.inv world
      → At x A K world → K world.db.committed := fun _ _ given => given.2
  refine spec_lockPoolOrThrow rely own steady (fun _ known => known) fun pool => ?_
  refine Protocol.Spec.bind (spec_throwIf throws) fun _ => ?_
  refine Protocol.Spec.assume fun _ => ?_
  refine Protocol.Spec.bind (spec_throwIf throws) fun _ => ?_
  refine Protocol.Spec.assume fun enough => ?_
  have locked_local : ∀ {before : List (Sigma Row)}, Server.Local x fun writes db =>
      writes = before ∧ Server.HeldAs x (.liquidityPool poolId) (some pool) db :=
    (Server.Local.const _).and (Server.Local.heldAs _)
  refine Protocol.Spec.bind (at_update rely.transactional own locked_local steady
    (fun _ known => known)
    (B := fun _ writes db => writes = [⟨.liquidityPool poolId, adjusted pool type amount⟩]
      ∧ Server.HeldAs x (.liquidityPool poolId) (some pool) db) ?_) fun _ => ?_
  · intro world writes db row given _ _ found _ _ locks committed _
    obtain ⟨rfl, held⟩ := given
    obtain rfl : pool = row := Option.some.inj (held.2.symm.trans found)
    exact ⟨rfl, held.keep locks committed⟩
  refine Protocol.Spec.bind (at_randomText rely.transactional own locked_local steady)
    fun id => ?_
  refine Protocol.Spec.bind (at_now rely.transactional own locked_local steady) fun time => ?_
  refine at_create rely.transactional own locked_local steady (fun _ known => known) ?_
  intro world writes db given _ absent _ locks committed held_new
  obtain ⟨rfl, held⟩ := given
  have new := absent _ List.mem_cons_self
  simp only [lookup_overlay, Option.or_eq_none_iff] at new
  exact .record positive (by omega) (held.keep locks committed)
    ⟨held_new _ List.mem_cons_self, committed ▸ new.2⟩ ⟨rfl, rfl, rfl⟩

end

end LiquidityService

open LiquidityService in
/-- An operation is verified once its writes may be committed whenever they are ready. -/
theorem LiquidityOperation.spec_run (rely : LiquidityRely seen Γ t)
    (steady : Steady Γ t K) (operation : LiquidityOperation) {Q : World → Prop}
    (commits : ∀ x world writes, x.owner = t → Γ.inv world
      → Ready seen x operation writes world.db → K world.db.committed
      → world.db.pending x = some writes
      → Γ.allowed t world { world with db := world.db.commit x }
      → Γ.inv { world with db := world.db.commit x }
        ∧ Γ.guar t world { world with db := world.db.commit x }
        ∧ Q { world with db := world.db.commit x })
    : Γ.Spec t (fun world => K world.db.committed) operation.run (fun _ => Q)
        fun _ world => K world.db.committed := by
  have transact : ∀ {α : Type} {body : TxId → Service α},
      (∀ x : TxId, x.owner = t → Γ.Spec t (At x Clean K) (body x)
        (fun _ => At x (Ready seen x operation) K) fun _ world => K world.db.committed)
      → Γ.Spec t (fun world => K world.db.committed) (transaction body) (fun _ => Q)
          fun _ world => K world.db.committed :=
    fun runs => at_transaction rely.transactional steady (fun _ known => known)
      (R := fun x _ => Ready seen x operation) runs
      (fun x _ => Ready.local operation) steady steady (fun _ known => known)
      fun x _ world writes => commits x world writes
  have ignore : ∀ {α : Type} {service : Service α},
      Γ.Spec t (fun world => K world.db.committed) service (fun _ => Q)
        (fun _ world => K world.db.committed)
      → Γ.Spec t (fun world => K world.db.committed) (do let _ ← service) (fun _ => Q)
          fun _ world => K world.db.committed :=
    fun spec => Protocol.Spec.bind spec fun _ => Protocol.Spec.pure _ fun _ _ given => given
  cases operation with
  | reserveForOrder params =>
      exact ignore (transact fun x own => spec_reserveForOrderInTx rely own steady params)
  | confirmReservation orderId =>
      exact ignore (transact fun x own => spec_confirmReservationInTx rely own steady orderId)
  | consumeReservation orderId externalRef stellarTxHash =>
      exact ignore (transact fun x own =>
        spec_consumeReservationInTx rely own steady orderId externalRef stellarTxHash)
  | releaseReservation orderId targetStatus =>
      exact ignore (transact fun x own =>
        spec_releaseReservationInTx rely own steady orderId targetStatus)
  | recordTreasuryTransaction poolId type amount externalRef stellarTxHash =>
      refine ignore (Protocol.Spec.bind (spec_throwIf fun _ _ given => given) fun _ => ?_)
      refine Protocol.Spec.assume fun positive => transact fun x own => ?_
      exact spec_recordTreasuryTransactionInTx rely own steady (by omega) externalRef
        stellarTxHash

end LuminaRail
