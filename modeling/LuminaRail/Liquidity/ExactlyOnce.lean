import LuminaRail.Liquidity.Accounts

/-! Exactly-once accounting of reservations under concurrency. A transaction reads the status
of a reservation before it waits for the pool row, and then overwrites it whatever it has become:
the accounts hold in the runs where no commit overwrites a reservation that has ended meanwhile.
-/

namespace LuminaRail

open Concurrency Database LiquidityService

/-- A commit overwrites only reservations that are still RESERVED or CONFIRMED. -/
def CommitsOverActive (t : Tid) (before after : World) : Prop :=
  ∀ x writes, x.owner = t → before.db.pending x = some writes
    → after = { before with db := before.db.commit x }
    → ReplacesActive writes before.db.committed

/-- The order whose reservation an operation consumes or releases. -/
def LiquidityOperation.spends : LiquidityOperation → Option Id
  | .consumeReservation orderId _ _ => some orderId
  | .releaseReservation orderId _ => some orderId
  | _ => none

/-- A move that takes the reservation of an order out of what a pool has reserved. -/
def Decrements (operations : Tid → LiquidityOperation) (orderId : Id)
    (move : Move Input Chance) (before after : World) : Prop :=
  ∃ t input poolId old new, move = .run t input ∧ (operations t).spends = some orderId
    ∧ before.db.committed.lookup (.liquidityPool poolId) = some old
    ∧ after.db.committed.lookup (.liquidityPool poolId) = some new
    ∧ new.reservedBalance < old.reservedBalance

/-- A move all of whose commits are over active reservations. -/
def Permitted (move : Move Input Chance) (before after : World) : Prop :=
  ∀ t input, move = .run t input → CommitsOverActive t before after

variable {operations : Tid → LiquidityOperation} {orderId : Id} {row : LiquidityReservation}
  {pool last : Pool World Input}

/-- A reservation that has ended is not replaced. -/
theorem ReplacesActive.keeps {writes : List (Sigma Row)} {store : AList Row}
    (active : ReplacesActive writes store)
    (found : store.lookup (.liquidityReservation orderId) = some row) (ended : ¬row.Active)
    : (overlay writes store).lookup (.liquidityReservation orderId) = some row := by
  rw [lookup_overlay_of_unwritten, found]
  by_contra written
  obtain ⟨new, written⟩ := Option.ne_none_iff_exists'.mp written
  exact ended (active orderId new row (List.of_mem_dlookup written) found)

/-- The commits over active reservations keep the accounts. -/
theorem accounted_preserved (releases : ∀ t, (operations t).Releases)
    : Preserves operations Accounted CommitsOverActive := by
  intro t x world writes own accounted ready opened permitted
  exact ready.accounted (releases t) (permitted x writes own opened rfl) accounted

/-- What a transaction spends is a reservation that ends with its commit. -/
theorem Ready.spends {x : TxId} {operation : LiquidityOperation} {writes : List (Sigma Row)}
    {server : Server Row} (ready : Ready SameTerms x operation writes server)
    (releases : operation.Releases) (spends : operation.spends = some orderId)
    (written : writes ≠ [])
    : ∃ row new, server.committed.lookup (.liquidityReservation orderId) = some row
        ∧ ⟨.liquidityReservation orderId, new⟩ ∈ writes
        ∧ (overlay writes server.committed).lookup (.liquidityReservation orderId) = some new
        ∧ ¬new.Active := by
  cases ready with
  | idle => exact absurd rfl written
  | consume _ _ _ reservation_held =>
      obtain rfl := Option.some.inj spends
      refine ⟨_, _, reservation_held.2, List.mem_cons_of_mem _ List.mem_cons_self, ?_, ?_⟩
      · simp
      · simp [LiquidityReservation.Active]
  | release _ _ _ reservation_held =>
      obtain rfl := Option.some.inj spends
      refine ⟨_, _, reservation_held.2, List.mem_cons_self, ?_, ?_⟩
      · simp
      · rcases releases with rfl | rfl <;> simp [LiquidityReservation.Active]
  | _ => simp [LiquidityOperation.spends] at spends

section

variable (verified : pool.Verified (liquidityProtocol operations Accounted CommitsOverActive))
include verified

/-- No permitted move replaces a reservation that has ended. -/
theorem ended_move {move : Move Input Chance}
    (moved : pool.move (machine anyExpiry) move = some last)
    (permitted : Permitted move pool.state last.state)
    (found : pool.state.db.committed.lookup (.liquidityReservation orderId) = some row)
    (ended : ¬row.Active)
    : last.state.db.committed.lookup (.liquidityReservation orderId) = some row := by
  rcases liquidity_move verified moved permitted with
    same | ⟨t, input, x, writes, ran, own, opened, _, same⟩
  · rw [same]
    exact found
  · have active := permitted t input ran x writes own opened same
    rw [same, commit_overlay opened]
    exact active.keeps found ended

/-- A decrement ends an active reservation. -/
theorem Decrements.ends {move : Move Input Chance} (releases : ∀ t, (operations t).Releases)
    (moved : pool.move (machine anyExpiry) move = some last)
    (permitted : Permitted move pool.state last.state)
    (decrements : Decrements operations orderId move pool.state last.state)
    : (∃ row, pool.state.db.committed.lookup (.liquidityReservation orderId) = some row
        ∧ row.Active)
      ∧ ∃ row, last.state.db.committed.lookup (.liquidityReservation orderId) = some row
        ∧ ¬row.Active := by
  obtain ⟨t, input, poolId, old, new, ran, spends, before, after, less⟩ := decrements
  have changed : last.state.db.committed ≠ pool.state.db.committed := by
    intro same
    rw [same, before] at after
    obtain rfl := Option.some.inj after
    exact Int.lt_irrefl _ less
  rcases liquidity_move verified moved permitted with
    same | ⟨t', input', x, writes, ran', own, opened, ready, same⟩
  · exact absurd same changed
  · obtain ⟨rfl, rfl⟩ := Move.run.inj (ran.symm.trans ran')
    have committed : last.state.db.committed = overlay writes pool.state.db.committed := by
      rw [same, commit_overlay opened]
    have written : writes ≠ [] := by
      intro nothing
      rw [committed, nothing] at changed
      exact changed rfl
    obtain ⟨row, next, found, member, ends, ended⟩ :=
      ready.spends (releases t) spends written
    refine ⟨⟨row, found, ?_⟩, next, committed ▸ ends, ended⟩
    exact permitted t input ran x writes own opened same orderId next row member found

/-- A reservation that has ended stays as it is, by induction on the run. -/
theorem ended_run (run : Run (machine anyExpiry) CommitsOverActive pool last)
    (found : pool.state.db.committed.lookup (.liquidityReservation orderId) = some row)
    (ended : ¬row.Active)
    : last.state.db.committed.lookup (.liquidityReservation orderId) = some row := by
  induction run with
  | refl => exact found
  | step before move moved permitted ih =>
      have middle := Run.verified liquidity_fits before verified
      exact ended_move middle moved permitted ih ended

end

/-- In every interleaving of liquidity transactions of which each commit is over active
reservations, every pool has reserved the sum of its RESERVED and CONFIRMED reservations, and
none of them is taken out of a pool twice. By the invariant that the pools account for the
reservations, and because a reservation that has ended stays so.
-/
theorem liquidity_exactly_once {world : World} {rows : AList Row}
    (releases : ∀ t, (operations t).Releases) (start : world.db = Server.start rows)
    (accounted : Accounted rows)
    (run : Run (machine anyExpiry) CommitsOverActive
      ⟨world, fun t => (operations t).run.thread⟩ pool)
    : (∀ poolId row, pool.state.db.committed.lookup (.liquidityPool poolId) = some row
        → row.reservedBalance = reservedSum poolId pool.state.db.committed)
      ∧ ∀ orderId first (next late final : Pool World Input) second,
        pool.move (machine anyExpiry) first = some next
        → Permitted first pool.state next.state
        → Run (machine anyExpiry) CommitsOverActive next late
        → late.move (machine anyExpiry) second = some final
        → Permitted second late.state final.state
        → Decrements operations orderId first pool.state next.state
        → ¬Decrements operations orderId second late.state final.state := by
  have verified := liquidity_verified (accounted_preserved releases) start accounted run
  refine ⟨fun poolId row found => verified.inv.reserved found, ?_⟩
  intro orderId first next late final second moved permitted between moved' permitted'
    decrements decrements'
  have next_verified := verified.move liquidity_fits moved permitted
  have late_verified := Run.verified liquidity_fits between next_verified
  obtain ⟨_, row, found, ended⟩ := decrements.ends verified releases moved permitted
  have still := ended_run next_verified between found ended
  obtain ⟨⟨row', found', active⟩, _⟩ :=
    decrements'.ends late_verified releases moved' permitted'
  obtain rfl := Option.some.inj (still.symm.trans found')
  exact ended active

/-- Two orders reserve, and two transactions release the reservation of the first. -/
def twoReleases : Tid → LiquidityOperation
  | 0 => .reserveForOrder { poolId := "pool", orderId := "first", amount := 200000000 }
  | 1 => .reserveForOrder { poolId := "pool", orderId := "second", amount := 300000000 }
  | 2 => .releaseReservation "first" .EXPIRED_RELEASED
  | _ => .releaseReservation "first" .CANCELLED_RELEASED

theorem twoReleases_releases (t : Tid) : (twoReleases t).Releases := by
  unfold twoReleases
  split
  · trivial
  · trivial
  · exact Or.inl rfl
  · exact Or.inr rfl

/-- Both releases read that the reservation is RESERVED before either has the pool row: the pool
is left with less than what the second order has reserved.
-/
theorem liquidity_released_twice
    : Accounted (onePool 1000000000) ∧ (∀ t, (twoReleases t).Releases)
      ∧ ∃ pool, AnyRun (machine anyExpiry)
          ⟨World.start (onePool 1000000000), fun t => (twoReleases t).run.thread⟩ pool
        ∧ pool.state.db.committed.lookup (.liquidityPool "pool")
          = some ⟨1000000000, 100000000, 900000000⟩
        ∧ reservedSum "pool" pool.state.db.committed = 300000000 := by
  have went : (Pool.schedule (machine anyExpiry)
      ⟨World.start (onePool 1000000000), fun t => (twoReleases t).run.thread⟩
      (List.replicate 7 (.run 0 {}) ++ List.replicate 7 (.run 1 {})
        ++ List.replicate 2 (.run 2 {}) ++ List.replicate 2 (.run 3 {})
        ++ List.replicate 5 (.run 2 {}) ++ List.replicate 5 (.run 3 {}))).map
      (fun pool => (pool.state.db.committed.lookup (.liquidityPool "pool"),
        reservedSum "pool" pool.state.db.committed))
      = some (some ⟨1000000000, 100000000, 900000000⟩, 300000000) := by
    decide +kernel
  obtain ⟨pool, run, found⟩ := AnyRun.of_schedule_map went
  obtain ⟨row, sum⟩ := Prod.mk.inj found
  exact ⟨onePool_accounted _, twoReleases_releases, pool, run, row, sum⟩

/-- Every reservation of the store is active, or `t` has written nothing yet. -/
def nothingEnded (t : Tid) (server : Server Row) : Bool :=
  (server.committed.entries.all fun entry =>
    match entry with
    | ⟨.liquidityReservation _, (reservation : LiquidityReservation)⟩ => reservation.Active
    | _ => true)
  || (List.range server.serial).all fun serial =>
    (server.pending ⟨t, serial⟩).all List.isEmpty

theorem commitsOverActive_of_nothingEnded {t : Tid} {before after : World}
    (check : nothingEnded t before.db = true)
    : CommitsOverActive t before after := by
  intro x writes own opened _ orderId new row written found
  rcases Bool.or_eq_true_iff.mp check with active | unwritten
  · have member := AList.mem_lookup_iff.mp found
    simpa using List.all_eq_true.mp active _ member
  · have serial : x.serial < before.db.serial := before.db.serial_new (by simp [opened])
    have empty := List.all_eq_true.mp unwritten x.serial (List.mem_range.mpr serial)
    rw [← own, opened] at empty
    rw [List.isEmpty_iff.mp empty] at written
    simp at written

/-- When the releases follow each other the second one finds nothing left to do. -/
theorem liquidity_exactly_once_twoReleases
    : ∃ pool, Run (machine anyExpiry) CommitsOverActive
        ⟨World.start (onePool 1000000000), fun t => (twoReleases t).run.thread⟩ pool
      ∧ pool.state.db.committed.lookup (.liquidityPool "pool")
        = some ⟨1000000000, 300000000, 700000000⟩
      ∧ 300000000 = reservedSum "pool" pool.state.db.committed := by
  have went : (Pool.checkedSchedule (machine anyExpiry) (fun t before _ => nothingEnded t before.db)
      ⟨World.start (onePool 1000000000), fun t => (twoReleases t).run.thread⟩
      (List.replicate 7 (.run 0 {}) ++ List.replicate 7 (.run 1 {})
        ++ List.replicate 7 (.run 2 {}) ++ List.replicate 3 (.run 3 {}))).map
      (fun pool => pool.state.db.committed.lookup (.liquidityPool "pool"))
      = some (some ⟨1000000000, 300000000, 700000000⟩) := by
    decide +kernel
  obtain ⟨pool, reached, found⟩ := Option.map_eq_some_iff.mp went
  have run : Run (machine anyExpiry) CommitsOverActive _ pool :=
    Run.of_checkedSchedule (fun _ _ _ => commitsOverActive_of_nothingEnded) reached
  refine ⟨pool, run, found, ?_⟩
  exact (liquidity_exactly_once twoReleases_releases rfl (onePool_accounted _) run).1 _ _ found

end LuminaRail
