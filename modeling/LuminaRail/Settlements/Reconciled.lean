import LuminaRail.Payments.Verdicts
import LuminaRail.Workers.SettlementReconciliation

/-! What becomes of a settlement that is moved on, or reconciled, by a program that runs alone. A move
stores the time of the move with its status, and no other settlement changes.
-/

namespace LuminaRail

open Concurrency Database Service Exclusive

-----------------------------------------------------------------------------------------
-- Nobody else, at some time
-----------------------------------------------------------------------------------------

/-- All rows belong to a program that runs alone, and its actions take no time. -/
def exclusiveAt (t : Tid) (clock : Nat) : Exclusive (Protocol.alone (σ := World) t) t where
  mine world := world.clock = clock
  covers _ := True
  accepts _ _ := True
  transactional := transactional_alone t
  extensional _ _ _ := trivial
  stable _ _ relied mine := ⟨relied rfl ▸ mine, fun _ _ => by rw [relied rfl]⟩
  unseen mine _ _ := mine
  observes _ _ _ _ mine := ⟨trivial, fun other => absurd rfl other, mine⟩
  commits _ mine _ _ _ _ := ⟨trivial, fun other => absurd rfl other, mine⟩

/-- A world is at the snapshot taken of it, at its own time. -/
theorem at_clock (t : Tid) (world : World) : (exclusiveAt t world.clock).At (.of t world) world :=
  Exclusive.At.of (e := exclusiveAt t world.clock) rfl (fun _ _ => rfl) (fun _ _ _ _ _ _ => trivial)
    nofun

section

variable {t : Tid} {clock : Nat} {s : Snapshot} {α : Type}

/-- An action that leaves the database and the clock alone. -/
theorem yields_quiet {action : Tid → World → Input → Option (Except AppError α × World)}
    (quiet : ∀ {world input result after}, action t world input = some (result, after)
      → after.db = world.db ∧ after.clock = world.clock)
    : (exclusiveAt t clock).Yields s (act action) fun _ last => last = s := by
  refine Protocol.Spec.action (At.stable s) fun world input result after _ here acted _ => ?_
  obtain ⟨same, still⟩ := quiet acted
  refine ⟨trivial, fun other => absurd rfl other, ?_⟩
  cases result with
  | error error => trivial
  | ok value =>
      exact ⟨s, ⟨still.trans here.mine, fun _ _ _ _ _ _ => trivial, same ▸ here.pending,
        same ▸ here.old, same ▸ here.committed, nofun⟩, rfl⟩

/-- The clock shows the time of the run. -/
theorem yields_clock
    : (exclusiveAt t clock).Yields s now fun time last => time = clock ∧ last = s := by
  refine Protocol.Spec.action (At.stable s) fun world input result after _ here acted _ => ?_
  obtain ⟨rfl, rfl⟩ := Prod.mk.inj (Option.some.inj acted)
  exact ⟨trivial, fun other => absurd rfl other, s, here, here.mine, rfl⟩

/-- An observation leaves the snapshot. -/
theorem yields_emit {event : Tid → Event}
    : (exclusiveAt t clock).Yields s (emit event) fun _ last => last = s := by
  apply yields_quiet
  intro world input result after acted
  obtain ⟨_, rfl⟩ := Prod.mk.inj (Option.some.inj acted)
  exact ⟨rfl, rfl⟩

/-- A call to the outside leaves the snapshot. -/
theorem yields_external {answer : Input → Option (Except AppError α × List Event)}
    : (exclusiveAt t clock).Yields s (external answer) fun _ last => last = s := by
  apply yields_quiet
  intro world input result after acted
  obtain ⟨reply, _, same⟩ := Option.map_eq_some_iff.mp acted
  obtain ⟨_, rfl⟩ := Prod.mk.inj same
  exact ⟨rfl, rfl⟩

end

-----------------------------------------------------------------------------------------
-- Moves
-----------------------------------------------------------------------------------------

/-- The settlements are the same. -/
def SameSettlements (before after : AList Row) : Prop :=
  ∀ id, after.lookup (.settlement id) = before.lookup (.settlement id)

/-- A row of another kind leaves the settlements. -/
theorem SameSettlements.insert {before after : AList Row} {key : Key} {row : Row key}
    (same : SameSettlements before after) (other : ∀ id, key ≠ .settlement id)
    : SameSettlements before (after.insert key row) := by
  intro id
  rw [AList.lookup_insert_ne (other id).symm, same id]

/-- The settlement of one order has become this row, and the others are what they were. -/
structure SettlementStored (orderId : Id) (settlement : Settlement) (before after : AList Row)
    : Prop where
  stored : after.lookup (.settlement orderId) = some settlement
  others : ∀ id, id ≠ orderId → after.lookup (.settlement id) = before.lookup (.settlement id)

/-- A settlement stays stored while the settlements stay the same. -/
theorem SettlementStored.same {orderId : Id} {settlement : Settlement} {before after last : AList Row}
    (stored : SettlementStored orderId settlement before after)
    (same : SameSettlements after last)
    : SettlementStored orderId settlement before last where
  stored := (same orderId).trans stored.stored
  others id other := (same id).trans (stored.others id other)

/-- A settlement that is written is stored, and the others are left alone. -/
theorem settlementStored_insert {orderId : Id} {settlement : Settlement} {rows : AList Row}
    : SettlementStored orderId settlement rows (rows.insert (.settlement orderId) settlement) where
  stored := AList.lookup_insert _
  others id other := AList.lookup_insert_ne (by simpa using other)

namespace SettlementService

variable {t : Tid} {clock : Nat} {s : Snapshot} {orderId : Id}

/-- The settlement of the snapshot is read. -/
theorem yields_getSettlementById
    : (exclusiveAt t clock).Yields s (getSettlementById orderId) fun settlement last =>
        s.committed.lookup (.settlement orderId) = some settlement ∧ last = s := by
  refine Yields.bind (yields_findUnique trivial) fun found next given => ?_
  obtain ⟨read, rfl⟩ := given
  cases found with
  | none => exact Yields.throw
  | some settlement => exact Yields.pure ⟨read.symm, rfl⟩

/-- A check of a transition leaves the snapshot. -/
theorem yields_checkTransition (target : SettlementStatus)
    : (exclusiveAt t clock).Yields s (checkTransition orderId target) fun _ last => last = s := by
  refine Yields.bind yields_getSettlementById fun settlement next given => ?_
  obtain ⟨_, rfl⟩ := given
  refine Yields.bind yields_throwIf fun _ next given => ?_
  obtain ⟨_, rfl⟩ := given
  exact yields_emit

/-- A move stores its status and the time of the move. -/
theorem yields_mark (target : SettlementStatus) (data : Settlement → Settlement)
    : (exclusiveAt t clock).Yields s (mark orderId target data) fun settlement last =>
        settlement.status = target ∧ settlement.updatedAt = clock
          ∧ SettlementStored orderId settlement s.committed last.committed := by
  refine Yields.bind (yields_checkTransition target) fun _ next same => ?_
  subst same
  refine Yields.bind yields_clock fun time next given => ?_
  obtain ⟨rfl, rfl⟩ := given
  refine (yields_updateNow trivial fun _ _ => trivial).mono fun settlement last given => ?_
  obtain ⟨row, _, rfl, rfl⟩ := given
  exact ⟨rfl, rfl, settlementStored_insert⟩

/-- Consuming a reservation leaves the settlements alone. -/
theorem yields_consumeReservation (externalRef stellarTxHash : Option String)
    : (exclusiveAt t clock).Yields s
        (LiquidityService.consumeReservation orderId externalRef stellarTxHash) fun _ last =>
          SameSettlements s.committed last.committed := by
  refine yields_transaction (R := fun x _ last => SameSettlements s.committed (last.visible (some x)))
    (fun x own new => ?_) (fun _ _ _ _ _ => trivial) fun _ _ _ _ same => same
  have opened : (s.begin x).pending x = some [] := Snapshot.begin_pending
  have seen : (s.begin x).visible (some x) = s.committed := Snapshot.visible_of_pending opened
  have nothing : SameSettlements s.committed ((s.begin x).visible (some x)) := fun _ => by rw [seen]
  generalize s.begin x = begun at opened seen nothing
  refine Yields.bind (yields_findUnique trivial) fun found next given => ?_
  obtain ⟨_, rfl⟩ := given
  cases found with
  | none => exact Yields.pure nothing
  | some reservation =>
      dsimp only
      split
      · exact Yields.pure nothing
      split
      · exact Yields.pure nothing
      refine Yields.bind yields_selectForUpdate fun _ next same => ?_
      subst same
      refine Yields.bind (yields_findUniqueOrThrow trivial) fun pool next given => ?_
      obtain ⟨_, rfl⟩ := given
      refine Yields.bind (yields_update trivial) fun _ between given => ?_
      obtain ⟨_, _, _, rfl⟩ := given
      refine Yields.bind (yields_update trivial) fun _ last given => ?_
      obtain ⟨_, _, _, rfl⟩ := given
      refine Yields.bind yields_randomText fun id next same => ?_
      subst same
      refine Yields.bind yields_now fun time next same => ?_
      subst same
      refine Yields.bind (yields_create fun _ _ => trivial) fun _ last given => Yields.pure ?_
      obtain ⟨_, rfl, _⟩ := given
      have pooled := Snapshot.save_pending opened
      rw [Snapshot.visible_save (Snapshot.save_pending (pooled _) _), Snapshot.visible_save (pooled _),
        Snapshot.visible_save opened]
      exact ((nothing.insert (by simp)).insert (by simp)).insert (by simp)

/-- A settlement is completed at the time of the call. -/
theorem yields_markCompleted (ledger : Nat)
    : (exclusiveAt t clock).Yields s (markCompleted orderId ledger) fun settlement last =>
        settlement.status = .COMPLETED ∧ settlement.updatedAt = clock
          ∧ SettlementStored orderId settlement s.committed last.committed := by
  refine Yields.bind (yields_checkTransition _) fun _ next same => ?_
  subst same
  refine Yields.bind (R := fun settlement last => settlement.status = .COMPLETED
    ∧ settlement.updatedAt = clock
    ∧ SettlementStored orderId settlement next.committed last.committed) ?_
    fun settlement between completed => ?_
  · refine yields_transaction (R := fun x settlement last => settlement.status = .COMPLETED
      ∧ settlement.updatedAt = clock
      ∧ SettlementStored orderId settlement next.committed (last.visible (some x)))
      (fun x own new => ?_) (fun _ _ _ _ _ => trivial) fun _ _ _ _ completed => completed
    have opened : (next.begin x).pending x = some [] := Snapshot.begin_pending
    have seen : (next.begin x).visible (some x) = next.committed :=
      Snapshot.visible_of_pending opened
    refine Yields.bind yields_clock fun time begun given => ?_
    obtain ⟨rfl, rfl⟩ := given
    refine Yields.bind (yields_update trivial) fun settlement between given => ?_
    obtain ⟨row, _, rfl, rfl⟩ := given
    refine Yields.bind (yields_update trivial) fun order last given => Yields.pure ?_
    obtain ⟨_, _, _, rfl⟩ := given
    rw [Snapshot.visible_save (Snapshot.save_pending opened _), Snapshot.visible_save opened, seen]
    refine ⟨rfl, rfl, settlementStored_insert.same ?_⟩
    exact SameSettlements.insert (fun _ => rfl) (by simp)
  · obtain ⟨status, time, stored⟩ := completed
    refine Yields.bind (yields_consumeReservation _ _) fun _ last same => Yields.pure ?_
    exact ⟨status, time, stored.same same⟩

end SettlementService

-----------------------------------------------------------------------------------------
-- The daemon
-----------------------------------------------------------------------------------------

namespace ReconciliationDaemon

variable {t : Tid} {clock : Nat} {s : Snapshot} {orderId : Id}

/-- The order and the reservation are given up after the settlement. -/
theorem yields_giveUpSettlement (reason : String)
    : (exclusiveAt t clock).Yields s (giveUpSettlement orderId reason) fun status last =>
        ∃ settlement : Settlement, settlement.status = status ∧ settlement.updatedAt = clock
          ∧ SettlementStored orderId settlement s.committed last.committed := by
  refine Yields.bind (SettlementService.yields_mark _ _) fun settlement next given => ?_
  obtain ⟨_, time, stored⟩ := given
  refine Yields.bind (yields_releaseReservation (fun _ _ => trivial) orderId fun _ _ _ => trivial)
    fun _ between given => ?_
  obtain ⟨_, released⟩ := given
  refine Yields.bind (yields_updateNow trivial fun _ _ => trivial) fun _ last given =>
    Yields.pure ?_
  obtain ⟨_, _, _, rfl⟩ := given
  have kept : SameSettlements next.committed between.committed :=
    fun id => congrFun released (.settlement id)
  exact ⟨settlement, rfl, time, stored.same (kept.insert (by simp))⟩

/-- What the reconciliation of a settlement that is stored has made of it: it is in the status that is
returned, and has been moved unless it has been sent and not been found yet.
-/
structure ReconciledAs (orderId : Id) (clock : Nat) (settlement : Settlement)
    (before after : AList Row) (status : SettlementStatus) (row : Settlement) : Prop extends
    SettlementStored orderId row before after where
  status : row.status = status
  moved : row.updatedAt = clock
    ∨ (row = settlement ∧ (truthy settlement.stellarTransactionHash).isSome)

/-- A question to the network leaves the snapshot. -/
theorem yields_getTransactionStatus (config : Config) (txHash : String)
    : (exclusiveAt t clock).Yields s
        (SorobanConfirmationService.getTransactionStatus config txHash) fun _ last => last = s := by
  unfold SorobanConfirmationService.getTransactionStatus
  split
  · exact Yields.pure rfl
  · exact yields_external

theorem yields_reconcileSingleSettlement (config : Config) (maxStaleAgeHours : Nat)
    {settlement : Settlement}
    (stored : s.committed.lookup (.settlement orderId) = some settlement)
    : (exclusiveAt t clock).Yields s
        (reconcileSingleSettlement config orderId maxStaleAgeHours) fun status last =>
          ∃ row, ReconciledAs orderId clock settlement s.committed last.committed status row := by
  have gaveUp (reason : String)
      : (exclusiveAt t clock).Yields s (giveUpSettlement orderId reason) fun status last =>
          ∃ row, ReconciledAs orderId clock settlement s.committed last.committed status row :=
    (yields_giveUpSettlement reason).mono fun status last given => by
      obtain ⟨row, same, time, stored⟩ := given
      exact ⟨row, stored, same, Or.inl time⟩
  refine Yields.bind (yields_findUnique trivial) fun found next given => ?_
  obtain ⟨read, rfl⟩ := given
  obtain rfl := read.trans stored
  dsimp only
  split
  · refine Yields.bind yields_now fun time next same => ?_
    subst same
    split
    · exact gaveUp _
    · refine Yields.bind (SettlementService.yields_mark _ _) fun row last given => Yields.pure ?_
      obtain ⟨_, time, stored⟩ := given
      exact ⟨row, stored, rfl, Or.inl time⟩
  · rename_i transactionHash sent
    refine Yields.bind (yields_getTransactionStatus config _) fun result next same => ?_
    subst same
    split
    · refine Yields.bind (SettlementService.yields_markCompleted _) fun row last given =>
        Yields.pure ?_
      obtain ⟨_, time, stored⟩ := given
      exact ⟨row, stored, rfl, Or.inl time⟩
    · exact gaveUp _
    · refine Yields.bind yields_now fun time next same => ?_
      subst same
      split
      · exact gaveUp _
      · refine Yields.pure ⟨settlement, ⟨stored, fun _ _ => rfl⟩, rfl, Or.inr ⟨rfl, ?_⟩⟩
        rw [sent]
        rfl

/-- How a lone reconciliation of a settlement ends that is stored, if it returns. -/
theorem reconciledAs_alone {config : Config} {maxStaleAgeHours : Nat} {world after : World}
    {settlement : Settlement} {status : SettlementStatus}
    (stored : world.db.committed.lookup (.settlement orderId) = some settlement)
    (reconciles : Program.Alone t (reconcileSingleSettlement config orderId maxStaleAgeHours).run
      world (.ok status) after)
    : after.clock = world.clock
      ∧ ∃ row, ReconciledAs orderId world.clock settlement world.db.committed after.db.committed
        status row := by
  have yields : (exclusiveAt t world.clock).Yields (.of t world) _ _ :=
    yields_reconcileSingleSettlement config maxStaleAgeHours stored
  obtain ⟨last, there, row, reconciled⟩ := Protocol.Spec.of_alone yields (at_clock t world) reconciles
  refine ⟨there.mine, row, reconciled.toSettlementStored.same fun id => ?_, reconciled.status,
    reconciled.moved⟩
  exact there.committed _ trivial

end ReconciliationDaemon

end LuminaRail
