import LuminaRail.Liquidity.Transactions

/-! Any number of liquidity transactions at once: what an invariant of the committed rows has to
satisfy to hold after every interleaving of them.
-/

namespace LuminaRail

open Concurrency Database

/-- The terms of a reservation, which every version of it shares. -/
def SameTerms : ReservationRelation :=
  fun read row => row.poolId = read.poolId ∧ row.amount = read.amount

/-- Pools are not created, and a reservation keeps its pool and its amount. -/
def KeepsTerms : Server.Replaces Row
  | .liquidityPool _, old, _ => old.isSome
  | .liquidityReservation _, old, new => ∀ reservation, old = some reservation
      → SameTerms reservation new
  | _, _, _ => True

/-- A step of `t` commits nothing, or a transaction of which the writes are ready. -/
def LiquidityOperation.Commits (operation : LiquidityOperation) (t : Tid)
    (before after : World) : Prop :=
  after.db.committed = before.db.committed
    ∨ ∃ x writes, x.owner = t ∧ before.db.pending x = some writes
      ∧ Ready SameTerms x operation writes before.db
      ∧ after = { before with db := before.db.commit x }

theorem KeepsTerms.transitive : KeepsTerms.Transitive := by
  intro key old row next first second
  cases key with
  | liquidityPool _ => exact first
  | liquidityReservation _ =>
      intro reservation found
      obtain ⟨pool, amount⟩ := first reservation found
      obtain ⟨pool', amount'⟩ := second row rfl
      exact ⟨pool'.trans pool, amount'.trans amount⟩
  | _ => trivial

section

variable {store : AList Row} {poolId orderId : Id} {pool new : LiquidityPool}
  {row next : LiquidityReservation}

theorem keepsTerms_pool (found : store.lookup (.liquidityPool poolId) = some pool)
    : KeepsTerms (.liquidityPool poolId) (store.lookup (.liquidityPool poolId)) new := by
  rw [found]
  rfl

theorem keepsTerms_reservation
    (found : store.lookup (.liquidityReservation orderId) = some row)
    (same : SameTerms row next)
    : KeepsTerms (.liquidityReservation orderId)
        (store.lookup (.liquidityReservation orderId)) next := by
  intro reservation old
  obtain rfl := Option.some.inj (found.symm.trans old)
  exact same

theorem keepsTerms_absent (absent : store.lookup (.liquidityReservation orderId) = none)
    : KeepsTerms (.liquidityReservation orderId)
        (store.lookup (.liquidityReservation orderId)) next :=
  fun _ found => (Option.some_ne_none _ (found.symm.trans absent)).elim

end

/-- What is ready to be committed keeps the terms of all reservations. -/
theorem Ready.keepsTerms {seen : ReservationRelation} {x : TxId}
    {operation : LiquidityOperation} {writes : List (Sigma Row)} {server : Server Row}
    (ready : Ready seen x operation writes server)
    : ∀ write ∈ writes,
        KeepsTerms write.1 (server.committed.lookup write.1) write.2 := by
  cases ready with
  | idle => exact List.forall_mem_nil _
  | reserve _ _ _ pool_held new =>
      refine List.forall_mem_cons.mpr ⟨?_, List.forall_mem_singleton.mpr ?_⟩
      · exact keepsTerms_absent new.2
      · exact keepsTerms_pool pool_held.2
  | confirm _ _ reservation_held =>
      refine List.forall_mem_singleton.mpr ?_
      exact keepsTerms_reservation reservation_held.2 ⟨rfl, rfl⟩
  | consume _ _ pool_held reservation_held =>
      refine List.forall_mem_cons.mpr ⟨trivial, List.forall_mem_cons.mpr
        ⟨?_, List.forall_mem_singleton.mpr ?_⟩⟩
      · exact keepsTerms_reservation reservation_held.2 ⟨rfl, rfl⟩
      · exact keepsTerms_pool pool_held.2
  | release _ _ pool_held reservation_held =>
      refine List.forall_mem_cons.mpr ⟨?_, List.forall_mem_singleton.mpr ?_⟩
      · exact keepsTerms_reservation reservation_held.2 ⟨rfl, rfl⟩
      · exact keepsTerms_pool pool_held.2
  | record _ _ pool_held =>
      refine List.forall_mem_cons.mpr ⟨trivial, List.forall_mem_singleton.mpr ?_⟩
      exact keepsTerms_pool pool_held.2

theorem commit_overlay {server : Server Row} {x : TxId} {writes : List (Sigma Row)}
    (opened : server.pending x = some writes)
    : (server.commit x).committed = overlay writes server.committed := by
  rw [Server.commit_committed, opened, Option.getD_some]

theorem LiquidityOperation.Commits.evolves {operation : LiquidityOperation} {t : Tid}
    {before after : World} (commits : operation.Commits t before after)
    : Server.Evolves KeepsTerms before.db.committed after.db.committed := by
  rcases commits with same | ⟨x, writes, _, opened, ready, rfl⟩
  · exact Server.Evolves.of_eq same
  · rw [commit_overlay opened]
    exact Server.Evolves.overlay ready.keepsTerms

/-- The operations agree on an invariant of the committed rows; each commits its own writes and
relies on the terms of reservations.
-/
def liquidityProtocol (operations : Tid → LiquidityOperation) (I : AList Row → Prop)
    (allowed : Tid → World → World → Prop) : Protocol World where
  inv world := I world.db.committed
  rely t before after := Server.Isolated t before.db after.db
    ∧ Server.Evolves KeepsTerms before.db.committed after.db.committed
  guar t before after := (∀ u, u ≠ t → Server.Isolated u before.db after.db)
    ∧ (operations t).Commits t before after
  allowed := allowed
  rely_refl t world := ⟨Server.Isolated.refl t world.db, Server.Evolves.refl _ _⟩
  rely_trans first second :=
    ⟨first.1.trans second.1, first.2.trans KeepsTerms.transitive second.2⟩
  guar_rely other _ _ guaranteed := ⟨guaranteed.1 _ (Ne.symm other), guaranteed.2.evolves⟩

/-- Every allowed commit keeps the invariant. -/
def Preserves (operations : Tid → LiquidityOperation) (I : AList Row → Prop)
    (allowed : Tid → World → World → Prop) : Prop :=
  ∀ t x world writes, x.owner = t → I world.db.committed
    → Ready SameTerms x (operations t) writes world.db → world.db.pending x = some writes
    → allowed t world { world with db := world.db.commit x }
    → I (overlay writes world.db.committed)

variable {operations : Tid → LiquidityOperation} {I : AList Row → Prop}
  {allowed : Tid → World → World → Prop} {world : World} {rows : AList Row}
  {pool last : Pool World Input}

theorem liquidity_transactional (t : Tid)
    : Transactional (liquidityProtocol operations I allowed) t where
  isolated relied := relied.1
  unseen inv unseen := by
    refine ⟨?_, unseen.isolated, Or.inl unseen.committed⟩
    simpa only [liquidityProtocol, unseen.committed] using inv

/-- Reservations keep their terms and no pool is created. -/
theorem liquidity_rely (t : Tid)
    : LiquidityRely SameTerms (liquidityProtocol operations I allowed) t where
  transactional := liquidity_transactional t
  seen_refl _ := ⟨rfl, rfl⟩
  reservation orderId read := by
    intro world after _ _ relied known
    obtain ⟨_, evolves⟩ := relied
    obtain ⟨row, found, seen⟩ := known
    obtain ⟨row', found'⟩ := Option.isSome_iff_exists.mp (evolves.kept (by rw [found]; rfl))
    rcases evolves.rows found' with same | replaced
    · exact ⟨row', found', Option.some.inj (found.symm.trans same) ▸ seen⟩
    · obtain ⟨poolId, amount⟩ := replaced row found
      exact ⟨row', found', poolId.trans seen.1, amount.trans seen.2⟩
  pool_absent poolId := by
    intro world after _ _ relied absent
    obtain ⟨_, evolves⟩ := relied
    by_contra present
    obtain ⟨row, found⟩ := Option.ne_none_iff_exists'.mp present
    rcases evolves.rows found with same | replaced
    · simp [absent] at same
    · simp [KeepsTerms, absent] at replaced

/-- Every operation keeps the protocol, whatever the others do. -/
theorem liquidity_spec (preserves : Preserves operations I allowed) (t : Tid)
    : (liquidityProtocol operations I allowed).Spec t (fun _ => True) (operations t).run
        (fun _ _ => True) fun _ _ => True := by
  refine (operations t).spec_run (K := fun _ => True) (liquidity_rely t)
    (Service.Steady.const True) fun x world writes own inv ready _ opened permitted => ?_
  have kept := preserves t x world writes own inv ready opened permitted
  rw [← commit_overlay opened] at kept
  refine ⟨kept, ⟨fun u _ => ?_, Or.inr ⟨x, writes, own, opened, ready, rfl⟩⟩, trivial⟩
  exact Server.commit_isolated world.db x

theorem liquidity_fits : (machine anyExpiry).Fits (liquidityProtocol operations I allowed) where
  env live world chance after inv happened := by
    obtain ⟨rfl, _⟩ := machine_env happened
    refine ⟨?_, fun u _ => ⟨chance.apply_isolated world u, ?_⟩⟩
    · simpa only [liquidityProtocol, Chance.apply_committed] using inv
    · exact Server.Evolves.of_eq (Chance.apply_committed world chance)
  crash _ world inv :=
    ⟨inv, fun u _ => ⟨Server.Isolated.refl u world.db, Server.Evolves.refl _ _⟩⟩

/-- An invariant that the commits preserve holds in every interleaving. -/
theorem liquidity_verified (preserves : Preserves operations I allowed)
    (start : world.db = Server.start rows) (holds : I rows)
    (run : Run (machine anyExpiry) allowed ⟨world, fun t => (operations t).run.thread⟩ pool)
    : pool.Verified (liquidityProtocol operations I allowed) := by
  have inv : (liquidityProtocol operations I allowed).inv world := by
    change I world.db.committed
    rw [start]
    exact holds
  exact Run.verified liquidity_fits run
    ⟨inv, fun t _ => Service.thread_safe (liquidity_spec preserves t) inv trivial⟩

/-- A move of a verified pool commits nothing, or what its program has ready. -/
theorem liquidity_move (verified : pool.Verified (liquidityProtocol operations I allowed))
    {move : Move Input Chance} (moved : pool.move (machine anyExpiry) move = some last)
    (permitted : ∀ t input, move = .run t input → allowed t pool.state last.state)
    : last.state.db.committed = pool.state.db.committed
      ∨ ∃ t input x writes, move = .run t input ∧ x.owner = t
        ∧ pool.state.db.pending x = some writes
        ∧ Ready SameTerms x (operations t) writes pool.state.db
        ∧ last.state = { pool.state with db := pool.state.db.commit x } := by
  cases move with
  | run t input =>
      obtain ⟨⟨_, commits⟩, _⟩ := verified.run moved (permitted t input rfl)
      rcases commits with same | ⟨x, writes, own, opened, ready, same⟩
      · exact Or.inl same
      · exact Or.inr ⟨t, input, x, writes, rfl, own, opened, ready, same⟩
  | crash t =>
      obtain ⟨_, state, _⟩ := Pool.move_crash moved
      rw [state]
      exact Or.inl rfl
  | env chance =>
      obtain ⟨happened, _⟩ := Pool.move_env moved
      obtain ⟨same, _⟩ := machine_env happened
      rw [same]
      exact Or.inl (Chance.apply_committed _ _)

/-- A pool that no one has reserved anything of. -/
def onePool (totalBalance : Int) : AList Row :=
  (∅ : AList Row).insert (.liquidityPool "pool") (⟨totalBalance, 0, totalBalance⟩ : LiquidityPool)

/-- It is the only row. -/
theorem onePool_cases {totalBalance : Int} {key : Key} {row : Row key}
    (found : (onePool totalBalance).lookup key = some row)
    : (⟨key, row⟩ : Sigma Row)
      = ⟨.liquidityPool "pool", (⟨totalBalance, 0, totalBalance⟩ : LiquidityPool)⟩ := by
  rcases lookup_insert_cases found with same | absent
  · exact same
  · simp at absent

end LuminaRail
