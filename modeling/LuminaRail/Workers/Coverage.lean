import LuminaRail.Concurrency.Batches
import LuminaRail.Model.LoneRuns
import LuminaRail.Payments.Reconciled
import LuminaRail.Workers.ProcessedOrders

/-! Which rows the sweeps of the workers reach. A sweep takes the first rows of its order and handles
them one after the other. Whether the next sweep gets to other rows depends on what the handling leaves:
a row that has left the selection, or has been updated, makes place for others.
-/

namespace LuminaRail

open Concurrency Database Service

-----------------------------------------------------------------------------------------
-- Sweeps
-----------------------------------------------------------------------------------------

/-- The sweeps, each with its configuration. -/
inductive Sweep
  | pendingOrders (sdk : StellarSdk) (config : Config) (stopAtSubmitting : Bool)
  | reconciliation (config : Config) (maxStaleAgeHours : Nat)
  | paymentReconciliation (config : Config) (minPendingAgeMinutes : Nat)

namespace Sweep

/-- One sweep, when it has its lock. -/
def run (batchSize : Nat) : Sweep → Service Unit
  | pendingOrders sdk config stopAtSubmitting =>
      SettlementWorker.sweep sdk config batchSize stopAtSubmitting
  | reconciliation config maxStaleAgeHours =>
      ReconciliationDaemon.settlementSweep config batchSize maxStaleAgeHours
  | paymentReconciliation config minPendingAgeMinutes =>
      ReconciliationDaemon.paymentSweep config batchSize minPendingAgeMinutes

/-- What a sweep does about one row, which is of this order. -/
def handle (orderId : Id) : Sweep → Service Unit
  | pendingOrders sdk config stopAtSubmitting =>
      tryCatch (do
        let _ ← SettlementWorker.processSingleOrder sdk config orderId stopAtSubmitting)
        fun error => SettlementWorker.giveUp orderId error
  | reconciliation config maxStaleAgeHours =>
      tryCatch (do
        let _ ← ReconciliationDaemon.reconcileSingleSettlement config orderId maxStaleAgeHours)
        fun _ => pure ()
  | paymentReconciliation config _ =>
      tryCatch (do
        let _ ← ReconciliationDaemon.reconcileSinglePaymentOrder config orderId) fun _ => pure ()

/-- Rows in the order of a time, each with its order. -/
def inOrder {ρ : Type} (order : Id × ρ → Id) (time : ρ → Nat) (found : List (Id × ρ))
    : List (Id × Id) :=
  (found.mergeSort fun a b => time a.2 ≤ time b.2).map fun row => (row.1, order row)

/-- The rows that are eligible for a sweep in the order in which it takes them, each with its
identifier and its order.
-/
def queue (world : World) : Sweep → List (Id × Id)
  | pendingOrders _ _ _ =>
      inOrder Prod.fst Order.createdAt (SettlementWorker.eligible world.db.committed)
  | reconciliation _ _ =>
      inOrder Prod.fst Settlement.updatedAt ((allSettlements world.db.committed).filter fun found =>
        ReconciliationDaemon.underWay found.2.status)
  | paymentReconciliation _ minPendingAgeMinutes =>
      inOrder (fun found => found.2.orderId) Payment.createdAt
        ((allPayments world.db.committed).filter fun found =>
          found.2.status = .PENDING
            ∧ found.2.createdAt + minPendingAgeMinutes * 60 * 1000 ≤ world.clock)

/-- The order and the time of a row that a sweep may take, now or later. -/
def place (rows : AList Row) (id : Id) : Sweep → Option (Id × Nat)
  | pendingOrders _ _ _ =>
      ((rows.lookup (.order id)).filter fun order => order.status = .SETTLEMENT_PENDING
        && order.walletAddress.isSome
        && (rows.lookup (.settlement id)).all fun (settlement : Settlement) =>
          settlement.status = .PENDING).map fun order => (id, order.createdAt)
  | reconciliation _ _ =>
      ((rows.lookup (.settlement id)).filter fun settlement =>
        ReconciliationDaemon.underWay settlement.status).map fun settlement =>
          (id, settlement.updatedAt)
  | paymentReconciliation _ _ =>
      ((rows.lookup (.payment id)).filter fun payment => payment.status = .PENDING).map fun payment =>
        (payment.orderId, payment.createdAt)

/-- A row of this time may be taken by now. -/
def due (clock time : Nat) : Sweep → Prop
  | paymentReconciliation _ minPendingAgeMinutes => time + minPendingAgeMinutes * 60 * 1000 ≤ clock
  | _ => True

/-- The sweep takes the rows by their last update, so that it gets to the others first. -/
def requeues : Sweep → Bool
  | reconciliation _ _ => true
  | _ => false

-----------------------------------------------------------------------------------------
-- The queue
-----------------------------------------------------------------------------------------

/-- A selection of rows that have a place, by their keys. -/
structure Selects {ρ : Type} (sweep : Sweep) (world : World) (order : Id × ρ → Id) (time : ρ → Nat)
    (found : List (Id × ρ)) : Prop where
  distinct : (found.map Prod.fst).Nodup
  placed : ∀ id row, (id, row) ∈ found
    → sweep.place world.db.committed id = some (order (id, row), time row)
      ∧ sweep.due world.clock (time row)
  selected : ∀ id order' time', sweep.place world.db.committed id = some (order', time')
    → sweep.due world.clock time' → ∃ row, (id, row) ∈ found ∧ order (id, row) = order'

section

variable {ρ : Type} {sweep : Sweep} {world : World} {order : Id × ρ → Id} {time : ρ → Nat}
  {found : List (Id × ρ)} {row : Id × Id}

/-- The rows that are selected are those that are due. -/
theorem Selects.mem_iff (selects : Selects sweep world order time found)
    : row ∈ inOrder order time found ↔ ∃ since,
        sweep.place world.db.committed row.1 = some (row.2, since) ∧ sweep.due world.clock since := by
  simp only [inOrder, List.mem_map, List.mem_mergeSort]
  constructor
  · intro given
    obtain ⟨⟨id, value⟩, member, rfl⟩ := given
    exact ⟨_, selects.placed id value member⟩
  · intro given
    obtain ⟨since, placed, due⟩ := given
    obtain ⟨value, member, same⟩ := selects.selected row.1 row.2 since placed due
    exact ⟨_, member, Prod.ext rfl same⟩

/-- A row is selected once, since its id is. -/
theorem Selects.nodup (selects : Selects sweep world order time found)
    : (inOrder order time found).Nodup := by
  refine List.Nodup.of_map Prod.fst ?_
  rw [inOrder, List.map_map]
  exact ((List.mergeSort_perm _ _).map Prod.fst).nodup_iff.mpr selects.distinct

/-- The rows are selected oldest first, by the order of the query. -/
theorem Selects.sorted (selects : Selects sweep world order time found)
    : (inOrder order time found).Pairwise fun row other => ∀ since since',
        sweep.place world.db.committed row.1 = some (row.2, since)
        → sweep.place world.db.committed other.1 = some (other.2, since') → since ≤ since' := by
  have ascending := @List.pairwise_mergeSort _ (fun a b : Id × ρ => decide (time a.2 ≤ time b.2))
    (fun a b c first second => by simp at *; omega) (fun a b => by simp; omega) found
  rw [inOrder, List.pairwise_map]
  refine (ascending.imp_of_mem fun first second le => ?_)
  intro since since' placed placed'
  obtain ⟨same, _⟩ := selects.placed _ _ (List.mem_mergeSort.mp first)
  obtain ⟨same', _⟩ := selects.placed _ _ (List.mem_mergeSort.mp second)
  rw [same] at placed
  rw [same'] at placed'
  simp only [Option.some.injEq, Prod.mk.injEq] at placed placed'
  simp only [decide_eq_true_eq] at le
  omega

end

/-- The values that are read off rows have the keys of these rows. -/
theorem nodup_keys_filterMap {ρ : Type} {rows : AList Row} {read : Sigma Row → Option (Id × ρ)}
    (key : Id → Key)
    (keyed : ∀ entry found, read entry = some found → entry.1 = key found.1)
    : ((rows.entries.filterMap read).map Prod.fst).Nodup := by
  have sublist : ∀ entries : List (Sigma Row),
      (((entries.filterMap read).map Prod.fst).map key).Sublist (entries.map Sigma.fst) := by
    intro entries
    induction entries with
    | nil => exact .slnil
    | cons entry rest ih =>
        cases chosen : read entry with
        | none =>
            rw [List.filterMap_cons_none chosen, List.map_cons]
            exact ih.cons _
        | some found =>
            rw [List.filterMap_cons_some chosen, List.map_cons, List.map_cons, List.map_cons,
              keyed entry found chosen]
            exact ih.cons_cons _
  exact List.Nodup.of_map key ((sublist rows.entries).nodup rows.nodupKeys)

section

variable {world : World}

/-- The settlement worker selects the orders that are eligible. -/
theorem selects_pendingOrders (sdk : StellarSdk) (config : Config) (stopAtSubmitting : Bool)
    : Selects (pendingOrders sdk config stopAtSubmitting) world Prod.fst Order.createdAt
        (SettlementWorker.eligible world.db.committed) where
  distinct := by
    refine (List.filter_sublist.map Prod.fst).nodup ?_
    refine nodup_keys_filterMap .order fun entry found chosen => ?_
    obtain ⟨key, row⟩ := entry
    cases key <;> simp at chosen
    obtain ⟨_, rfl⟩ := chosen
    rfl
  placed id order member := by
    obtain ⟨listed, allowed⟩ := List.mem_filter.mp member
    obtain ⟨stored, paid⟩ := mem_ordersIn.mp listed
    simp_all [place, due]
  selected id order time placed _ := by
    simp only [place, Option.map_eq_some_iff, Option.filter_eq_some_iff, Prod.mk.injEq] at placed
    obtain ⟨row, ⟨stored, allowed⟩, rfl, rfl⟩ := placed
    simp only [Bool.and_eq_true, decide_eq_true_eq, and_assoc] at allowed
    refine ⟨row, List.mem_filter.mpr ⟨mem_ordersIn.mpr ⟨stored, allowed.1⟩, ?_⟩, rfl⟩
    simpa using allowed.2

/-- The daemon selects the settlements under way. -/
theorem selects_reconciliation (config : Config) (maxStaleAgeHours : Nat)
    : Selects (reconciliation config maxStaleAgeHours) world Prod.fst Settlement.updatedAt
        ((allSettlements world.db.committed).filter fun found =>
          ReconciliationDaemon.underWay found.2.status) where
  distinct := by
    refine (List.filter_sublist.map Prod.fst).nodup ?_
    refine nodup_keys_filterMap .settlement fun entry found chosen => ?_
    obtain ⟨key, row⟩ := entry
    cases key <;> simp at chosen
    subst chosen
    rfl
  placed id settlement member := by
    obtain ⟨listed, underWay⟩ := List.mem_filter.mp member
    have stored := mem_allSettlements.mp listed
    simp_all [place, due]
  selected id order time placed _ := by
    simp only [place, Option.map_eq_some_iff, Option.filter_eq_some_iff, Prod.mk.injEq] at placed
    obtain ⟨row, ⟨stored, underWay⟩, rfl, rfl⟩ := placed
    exact ⟨row, List.mem_filter.mpr ⟨mem_allSettlements.mpr stored, underWay⟩, rfl⟩

/-- The daemon selects the payments that have been pending for long enough. -/
theorem selects_paymentReconciliation (config : Config) (minPendingAgeMinutes : Nat)
    : Selects (paymentReconciliation config minPendingAgeMinutes) world
        (fun found => found.2.orderId) Payment.createdAt
        ((allPayments world.db.committed).filter fun found =>
          found.2.status = .PENDING
            ∧ found.2.createdAt + minPendingAgeMinutes * 60 * 1000 ≤ world.clock) where
  distinct := by
    refine (List.filter_sublist.map Prod.fst).nodup ?_
    refine nodup_keys_filterMap .payment fun entry found chosen => ?_
    obtain ⟨key, row⟩ := entry
    cases key <;> simp at chosen
    subst chosen
    rfl
  placed id payment member := by
    obtain ⟨listed, pending⟩ := List.mem_filter.mp member
    have stored := mem_allPayments.mp listed
    simp_all [place, due]
  selected id order time placed due := by
    simp only [place, Option.map_eq_some_iff, Option.filter_eq_some_iff, Prod.mk.injEq] at placed
    obtain ⟨row, ⟨stored, pending⟩, rfl, rfl⟩ := placed
    refine ⟨row, List.mem_filter.mpr ⟨mem_allPayments.mpr stored, ?_⟩, rfl⟩
    simpa using ⟨of_decide_eq_true pending, due⟩

end

section

variable {sweep : Sweep} {world : World} {row : Id × Id}

/-- The queue consists of the rows that have a place and are due. -/
theorem mem_queue
    : row ∈ sweep.queue world ↔ ∃ since,
        sweep.place world.db.committed row.1 = some (row.2, since) ∧ sweep.due world.clock since := by
  cases sweep with
  | pendingOrders sdk config stop => exact (selects_pendingOrders sdk config stop).mem_iff
  | reconciliation config age => exact (selects_reconciliation config age).mem_iff
  | paymentReconciliation config age => exact (selects_paymentReconciliation config age).mem_iff

/-- A queue has every row once, by cases on the kind of sweep. -/
theorem nodup_queue (sweep : Sweep) (world : World) : (sweep.queue world).Nodup := by
  cases sweep with
  | pendingOrders sdk config stop => exact (selects_pendingOrders sdk config stop).nodup
  | reconciliation config age => exact (selects_reconciliation config age).nodup
  | paymentReconciliation config age => exact (selects_paymentReconciliation config age).nodup

/-- A queue is in order of time, by cases on the kind of sweep. -/
theorem sorted_queue (sweep : Sweep) (world : World)
    : (sweep.queue world).Pairwise fun row other => ∀ since since',
        sweep.place world.db.committed row.1 = some (row.2, since)
        → sweep.place world.db.committed other.1 = some (other.2, since') → since ≤ since' := by
  cases sweep with
  | pendingOrders sdk config stop => exact (selects_pendingOrders sdk config stop).sorted
  | reconciliation config age => exact (selects_reconciliation config age).sorted
  | paymentReconciliation config age => exact (selects_paymentReconciliation config age).sorted

/-- A row is in the queue once, with its order. -/
theorem eq_of_mem_queue {other : Id × Id} (member : row ∈ sweep.queue world)
    (member' : other ∈ sweep.queue world) (same : row.1 = other.1)
    : row = other := by
  obtain ⟨since, placed, _⟩ := mem_queue.mp member
  obtain ⟨since', placed', _⟩ := mem_queue.mp member'
  rw [same, placed'] at placed
  simp only [Option.some.injEq, Prod.mk.injEq] at placed
  exact Prod.ext same placed.1.symm

/-- What is due stays due. -/
theorem due_later {clock clock' since : Nat} (due : sweep.due clock since) (later : clock ≤ clock')
    : sweep.due clock' since := by
  cases sweep with
  | paymentReconciliation config age => exact Nat.le_trans due later
  | _ => trivial

end

-----------------------------------------------------------------------------------------
-- Handling one row
-----------------------------------------------------------------------------------------

/-- The handling of a row resolves it. An order is processed until its settlement is not PENDING, or
its settlement is given up. A settlement is reconciled until it is not under way, or has no transaction
that could be found. A payment is settled or marked as failed if it is the only one of an order that
can still be moved.
-/
inductive Resolves (t : Tid) (row : Id × Id) (before after : World) : Sweep → Prop
  | processed {sdk : StellarSdk} {config : Config} {stopAtSubmitting : Bool}
    {status : SettlementStatus} (idle : ∀ x, x.owner = t → before.db.pending x = none)
    (processes : Program.Alone t
      (SettlementWorker.processSingleOrder sdk config row.2 stopAtSubmitting).run before (.ok status)
      after)
    (onward : status ≠ .PENDING)
    : Resolves t row before after (pendingOrders sdk config stopAtSubmitting)
  | givenUp {sdk : StellarSdk} {config : Config} {stopAtSubmitting : Bool} {error : AppError}
    {middle : World} (idle : ∀ x, x.owner = t → before.db.pending x = none)
    (throws : Program.Alone t
      (SettlementWorker.processSingleOrder sdk config row.2 stopAtSubmitting).run before
      (.error error) middle)
    (settled : (middle.db.committed.lookup (.settlement row.2)).isSome)
    (gaveUp : Program.Alone t (SettlementWorker.giveUp row.2 error).run middle (.ok ()) after)
    : Resolves t row before after (pendingOrders sdk config stopAtSubmitting)
  | reconciled {config : Config} {maxStaleAgeHours : Nat} {status : SettlementStatus}
    (reconciles : Program.Alone t
      (ReconciliationDaemon.reconcileSingleSettlement config row.2 maxStaleAgeHours).run before
      (.ok status) after)
    (ended : ReconciliationDaemon.underWay status = false)
    : Resolves t row before after (reconciliation config maxStaleAgeHours)
  | flagged {config : Config} {maxStaleAgeHours : Nat} {status : SettlementStatus}
    {settlement : Settlement}
    (stored : before.db.committed.lookup (.settlement row.2) = some settlement)
    (unsent : truthy settlement.stellarTransactionHash = none)
    (reconciles : Program.Alone t
      (ReconciliationDaemon.reconcileSingleSettlement config row.2 maxStaleAgeHours).run before
      (.ok status) after)
    : Resolves t row before after (reconciliation config maxStaleAgeHours)
  | settled {config : Config} {minPendingAgeMinutes : Nat} {order : Order}
    {action : ReconciliationAction}
    (found : before.db.committed.lookup (.order row.2) = some order)
    (waits : ReconciliationDaemon.reconcilable order.status)
    (only : ∀ payment ∈ paymentsOf row.2 before.db.committed, payment.1 = row.1)
    (reconciles : Program.Alone t
      (ReconciliationDaemon.reconcileSinglePaymentOrder config row.2).run before (.ok action) after)
    (decided : action = .CONFIRMED_AND_SETTLED ∨ action = .MARKED_FAILED)
    : Resolves t row before after (paymentReconciliation config minPendingAgeMinutes)

/-- After a row has been handled the others have their places, and the row has lost its own, or has
one as late as this in a sweep that takes rows by their last update.
-/
structure Displaced (sweep : Sweep) (row : Id × Id) (before after : World) : Prop where
  clock : after.clock = before.clock
  others : ∀ id, id ≠ row.1
    → sweep.place after.db.committed id = sweep.place before.db.committed id
  own : ∀ order since, sweep.place after.db.committed row.1 = some (order, since)
    → sweep.requeues = true ∧ before.clock ≤ since

section

variable {t : Tid} {row : Id × Id} {before after : World}

/-- A processed order has left the queue, since its settlement is no longer pending. -/
theorem Displaced.of_processed {sdk : StellarSdk} {config : Config} {stopAtSubmitting : Bool}
    {since : Nat}
    (queued : (pendingOrders sdk config stopAtSubmitting).place before.db.committed row.1
      = some (row.2, since))
    (processed : Processed row.2 before after)
    : Displaced (pendingOrders sdk config stopAtSubmitting) row before after := by
  obtain ⟨id, orderId⟩ := row
  obtain ⟨order, _, same⟩ := Option.map_eq_some_iff.mp queued
  obtain rfl : id = orderId := (Prod.mk.inj same).1
  refine ⟨processed.clock, fun id other => ?_, fun order since placed => ?_⟩
  · simp only [place, processed.orders id other, processed.settlements id other]
  · obtain ⟨settlement, stored, onward⟩ := processed.onward
    simp [place, stored, onward] at placed

/-- A reconciled settlement leaves the queue or goes to the present time. -/
theorem Displaced.of_reconciled {config : Config} {maxStaleAgeHours since : Nat}
    {settlement moved : Settlement} {status : SettlementStatus}
    (queued : (reconciliation config maxStaleAgeHours).place before.db.committed row.1
      = some (row.2, since))
    (clock : after.clock = before.clock)
    (reconciled : ReconciliationDaemon.ReconciledAs row.2 before.clock settlement before.db.committed
      after.db.committed status moved)
    (leaves : ReconciliationDaemon.underWay status = true → moved.updatedAt = before.clock)
    : Displaced (reconciliation config maxStaleAgeHours) row before after := by
  obtain ⟨id, orderId⟩ := row
  obtain ⟨_, _, same⟩ := Option.map_eq_some_iff.mp queued
  obtain rfl : id = orderId := (Prod.mk.inj same).1
  refine ⟨clock, fun id other => ?_, fun order since placed => ?_⟩
  · simp only [place, reconciled.others id other]
  · simp only [place, reconciled.stored, Option.map_eq_some_iff, Option.filter_eq_some_iff,
      Option.some.injEq, Prod.mk.injEq] at placed
    obtain ⟨_, ⟨rfl, underWay⟩, _, rfl⟩ := placed
    rw [reconciled.status] at underWay
    exact ⟨rfl, (leaves underWay).ge⟩

/-- Anything may be done. -/
def anything : Footprint := ⟨fun _ _ _ => True, fun _ => True⟩

/-- A reconciliation is within the footprint that allows anything. -/
theorem anything_allows (t : Tid) : anything.AllowsPaymentReconciliation t where
  pool _ _ _ := trivial
  reservation _ _ _ := trivial
  treasury _ _ _ := trivial
  payment _ _ _ _ _ _ _ := trivial
  order _ _ _ _ := trivial
  settlement _ _ _ := trivial
  settlementNumber _ _ := trivial
  reports := .of_own fun _ _ => trivial
  picked _ _ _ := trivial

/-- The daemon has judged the only payment of the order. -/
theorem Displaced.of_settled {config : Config} {minPendingAgeMinutes since : Nat} {order : Order}
    {action : ReconciliationAction}
    (queued : (paymentReconciliation config minPendingAgeMinutes).place before.db.committed row.1
      = some (row.2, since))
    (found : before.db.committed.lookup (.order row.2) = some order)
    (waits : ReconciliationDaemon.reconcilable order.status)
    (only : ∀ payment ∈ paymentsOf row.2 before.db.committed, payment.1 = row.1)
    (reconciles : Program.Alone t
      (ReconciliationDaemon.reconcileSinglePaymentOrder config row.2).run before (.ok action) after)
    (decided : action = .CONFIRMED_AND_SETTLED ∨ action = .MARKED_FAILED)
    : Displaced (paymentReconciliation config minPendingAgeMinutes) row before after := by
  simp only [place, Option.map_eq_some_iff, Option.filter_eq_some_iff, Prod.mk.injEq] at queued
  obtain ⟨payment, ⟨stored, pending⟩, of_order, _⟩ := queued
  have some_payment : paymentsOf row.2 before.db.committed ≠ [] :=
    List.ne_nil_of_mem (mem_paymentsOf.mpr ⟨stored, of_order⟩)
  obtain ⟨last, there, chosen, listed, refund, events, _, _, _, ended⟩ :=
    (hears_reconcile (s := .of t before) config found waits some_payment).alone reconciles
  cases ended with
  | skipped => simp at decided
  | deferred => simp at decided
  | @judged _ response _ _ _ _ verdict settled =>
      have settled : PaymentSettled row.2 chosen.1 _ _ before.db.committed after.db.committed :=
        settled.agree there.committed
      rw [only chosen listed] at settled
      refine ⟨clock_of_alone (ReconciliationDaemon.within_reconcileSinglePaymentOrder
        (anything_allows t) config row.2) reconciles, fun id other => ?_, fun _ _ placed => ?_⟩
      · simp only [place, settled.others id other]
      · have kept := settled.payment
        simp only [place, Option.map_eq_some_iff, Option.filter_eq_some_iff] at placed kept
        obtain ⟨paid, ⟨seen, still⟩, _⟩ := placed
        obtain ⟨paid', seen', judged'⟩ := kept
        obtain rfl := Option.some.inj (seen.symm.trans seen')
        have still : paid.status = .PENDING := of_decide_eq_true still
        rw [still, ReconciliationDaemon.judged] at judged'
        split at judged'
        · rw [← judged'] at verdict
          simp at verdict
        · simp at judged'

/-- What has been resolved makes place. -/
theorem Resolves.displaced {sweep : Sweep} {since : Nat} (resolves : Resolves t row before after sweep)
    (queued : sweep.place before.db.committed row.1 = some (row.2, since))
    : Displaced sweep row before after := by
  cases resolves with
  | processed idle processes onward =>
      exact .of_processed queued (processed_alone idle processes onward)
  | givenUp idle throws settled gaveUp =>
      exact .of_processed queued (givenUp_alone idle throws settled gaveUp)
  | reconciled reconciles ended =>
      have known := queued
      simp only [place, Option.map_eq_some_iff, Option.filter_eq_some_iff, Prod.mk.injEq] at known
      obtain ⟨settlement, ⟨stored, _⟩, same, _⟩ := known
      obtain ⟨clock, moved, reconciled⟩ :=
        ReconciliationDaemon.reconciledAs_alone (same ▸ stored) reconciles
      exact .of_reconciled queued clock reconciled fun underWay => by simp [ended] at underWay
  | flagged stored unsent reconciles =>
      obtain ⟨clock, moved, reconciled⟩ :=
        ReconciliationDaemon.reconciledAs_alone stored reconciles
      refine .of_reconciled queued clock reconciled fun _ => ?_
      refine reconciled.moved.resolve_right fun given => ?_
      simp [unsent] at given
  | settled found waits only reconciles decided =>
      exact .of_settled queued found waits only reconciles decided

end

-----------------------------------------------------------------------------------------
-- Handling a batch
-----------------------------------------------------------------------------------------

/-- The rows have their turns one after the other, each in the world that the last one has left. -/
inductive Turns (turn : Id × Id → World → World → Prop) : List (Id × Id) → World → World → Prop
  | done {world : World} : Turns turn [] world world
  | next {row : Id × Id} {rest : List (Id × Id)} {before between after : World}
    (first : turn row before between) (later : Turns turn rest between after)
    : Turns turn (row :: rest) before after

/-- A lone sweep handles the row and goes on. -/
def Handles (sweep : Sweep) (t : Tid) (row : Id × Id) (before after : World) : Prop :=
  Returns t before (sweep.handle row.2) () after

section

variable {sweep : Sweep} {t : Tid} {rows : List (Id × Id)} {before after start finish : World}
  {batchSize : Nat}

/-- A batch that has been resolved makes place for others, by induction on the turns. -/
theorem Turns.displaced
    (turns : Turns (fun row before after => Resolves t row before after sweep) rows before after)
    (once : (rows.map Prod.fst).Nodup)
    (queued : ∀ row ∈ rows, ∃ since,
      sweep.place before.db.committed row.1 = some (row.2, since))
    : after.clock = before.clock
      ∧ (∀ id, id ∉ rows.map Prod.fst
        → sweep.place after.db.committed id = sweep.place before.db.committed id)
      ∧ ∀ row ∈ rows, ∀ order since,
        sweep.place after.db.committed row.1 = some (order, since)
        → sweep.requeues = true ∧ before.clock ≤ since := by
  induction turns with
  | done => exact ⟨rfl, fun _ _ => rfl, nofun⟩
  | @next row rest before between after first later ih =>
      obtain ⟨since, waits⟩ := queued row List.mem_cons_self
      have displaced := first.displaced waits
      obtain ⟨unseen, once⟩ := List.nodup_cons.mp once
      have different {other : Id × Id} (member : other ∈ rest) : other.1 ≠ row.1 :=
        fun same => unseen (same ▸ List.mem_map_of_mem member)
      obtain ⟨clock, others, own⟩ := ih once fun other member => by
        obtain ⟨since, placed⟩ := queued other (List.mem_cons_of_mem _ member)
        exact ⟨since, (displaced.others other.1 (different member)).trans placed⟩
      refine ⟨clock.trans displaced.clock, fun id absent => ?_,
        fun other member order time placed => ?_⟩
      · rw [List.map_cons, List.mem_cons, not_or] at absent
        exact (others id absent.2).trans (displaced.others id absent.1)
      · rcases List.mem_cons.mp member with rfl | member
        · rw [others other.1 unseen] at placed
          exact displaced.own order time placed
        · obtain ⟨requeues, late⟩ := own other member order time placed
          exact ⟨requeues, displaced.clock ▸ late⟩

/-- A lone run of a loop over rows handles them in turn, by induction on the list. -/
theorem turns_of_forM {α : Type} {found : List α} {row : α → Id × Id}
    (ran : Returns t start (found.forM fun value => sweep.handle (row value).2) () finish)
    : Turns (sweep.Handles t) (found.map row) start finish := by
  induction found generalizing start with
  | nil =>
      obtain ⟨_, rfl⟩ := Program.alone_done_iff.mp ran
      exact .done
  | cons value rest ih =>
      obtain ⟨answer, middle, first, later⟩ := Program.alone_bind_iff.mp ran
      cases answer with
      | ok answer => exact .next first (ih later)
      | error error =>
          obtain ⟨absurd', _⟩ := Program.alone_done_iff.mp later
          simp at absurd'

/-- What follows a query that has succeeded. -/
theorem returns_of_select {α : Type} {query : AList Row → α} {rest : α → Service Unit}
    (ran : Returns t start (select none query >>= rest) () finish)
    : Returns t start (rest (query start.db.committed)) () finish := by
  obtain ⟨answer, middle, first, later⟩ := Program.alone_bind_iff.mp ran
  obtain ⟨input, value, next, acted, done⟩ := Program.alone_atomic_iff.mp first
  obtain ⟨rfl, rfl⟩ := Program.alone_done_iff.mp done
  simp only at acted
  split at acted
  · obtain ⟨rfl, rfl⟩ := Prod.mk.inj (Option.some.inj acted)
    obtain ⟨absurd', _⟩ := Program.alone_done_iff.mp later
    simp at absurd'
  · obtain ⟨rfl, rfl⟩ := Prod.mk.inj (Option.some.inj acted)
    exact later

/-- A lone sweep that returns handles the first rows of its queue. -/
theorem turns_of_run (ran : Returns t start (sweep.run batchSize) () finish)
    : Turns (sweep.Handles t) ((sweep.queue start).take batchSize) start finish := by
  have batch {ρ : Type} {order : Id × ρ → Id} {time : ρ → Nat} {found : List (Id × ρ)}
      (loop : Returns t start ((firstBy (fun row => time row.2) batchSize found).forM fun row =>
        sweep.handle (order row)) () finish)
      : Turns (sweep.Handles t) ((inOrder order time found).take batchSize) start finish := by
    rw [inOrder, ← List.map_take]
    exact turns_of_forM loop
  cases sweep with
  | pendingOrders sdk config stopAtSubmitting => exact batch (returns_of_select ran)
  | reconciliation config maxStaleAgeHours => exact batch (returns_of_select ran)
  | paymentReconciliation config minPendingAgeMinutes =>
      obtain ⟨answer, middle, first, later⟩ := Program.alone_bind_iff.mp ran
      obtain ⟨input, value, next, acted, done⟩ := Program.alone_atomic_iff.mp first
      obtain ⟨rfl, rfl⟩ := Program.alone_done_iff.mp done
      obtain ⟨rfl, rfl⟩ := Prod.mk.inj (Option.some.inj acted)
      exact batch (returns_of_select later)

end

-----------------------------------------------------------------------------------------
-- Consecutive sweeps
-----------------------------------------------------------------------------------------

/-- Consecutive sweeps that run to their ends. Between two of them time may pass, but the rows stay as
they are and no row becomes eligible.
-/
structure Consecutive (sweep : Sweep) (t : Tid) (batchSize sweeps : Nat)
    (start finish : Nat → World) : Prop where
  ran : ∀ k < sweeps, Returns t (start k) (sweep.run batchSize) () (finish k)
  kept : ∀ k, k + 1 < sweeps
    → Agree (fun _ => True) (finish k).db.committed (start (k + 1)).db.committed
  later : ∀ k, k + 1 < sweeps → (finish k).clock ≤ (start (k + 1)).clock
  closed : ∀ k, k + 1 < sweeps → sweep.queue (start (k + 1)) ⊆ sweep.queue (start 0)

/-- The sweep takes the row in its batch, and handles the rows of the batch in turn. -/
def Reaches (sweep : Sweep) (t : Tid) (batchSize : Nat) (start finish : World) (row : Id × Id)
    : Prop :=
  row ∈ (sweep.queue start).take batchSize
    ∧ Turns (sweep.Handles t) ((sweep.queue start).take batchSize) start finish

/-- The rows that are handled before the last sweep are resolved. If the sweep takes rows by their last
update, those that are eligible at first have been updated before.
-/
structure ResolvesAll (sweep : Sweep) (t : Tid) (batchSize sweeps : Nat)
    (start finish : Nat → World) : Prop where
  resolved : ∀ k, k + 1 < sweeps
    → Turns (fun row before after => Resolves t row before after sweep)
      ((sweep.queue (start k)).take batchSize) (start k) (finish k)
  earlier : sweep.requeues = true → ∀ row ∈ sweep.queue (start 0), ∀ order since,
    sweep.place (start 0).db.committed row.1 = some (order, since) → since < (start 0).clock

/-- The place of a row depends on the rows only. -/
theorem place_eq_of_agree {sweep : Sweep} {rows rows' : AList Row}
    (agree : Agree (fun _ => True) rows rows') (id : Id)
    : sweep.place rows' id = sweep.place rows id := by
  cases sweep <;> simp only [place, agree _ trivial]

/-- Where the rows are that were eligible at first: those that have been handled have lost their places
or gone last, the others wait where they were.
-/
structure Covering (sweep : Sweep) (batchSize : Nat) (start : Nat → World) (k : Nat) : Prop where
  clock : (start 0).clock ≤ (start k).clock
  handled : ∀ row ∈ sweep.queue (start 0),
    Batches.Handled batchSize (fun k => sweep.queue (start k)) k row
      → ∀ order since, sweep.place (start k).db.committed row.1 = some (order, since)
        → sweep.requeues = true ∧ (start 0).clock ≤ since
  waiting : ∀ row ∈ sweep.queue (start 0),
    ¬Batches.Handled batchSize (fun k => sweep.queue (start k)) k row
      → sweep.place (start k).db.committed row.1 = sweep.place (start 0).db.committed row.1

section

variable {sweep : Sweep} {t : Tid} {batchSize sweeps k : Nat} {start finish : Nat → World}

/-- No row joins the queue, by induction on the sweeps. -/
theorem Consecutive.queue_subset (consecutive : Consecutive sweep t batchSize sweeps start finish)
    (within : k < sweeps)
    : sweep.queue (start k) ⊆ sweep.queue (start 0) := by
  cases k with
  | zero => exact fun _ member => member
  | succ k => exact consecutive.closed k within

/-- What one sweep and the time until the next one leave of the places. -/
theorem Consecutive.places (consecutive : Consecutive sweep t batchSize sweeps start finish)
    (all : ResolvesAll sweep t batchSize sweeps start finish) (within : k + 1 < sweeps)
    : (start k).clock ≤ (start (k + 1)).clock
      ∧ (∀ row ∈ sweep.queue (start 0), row ∉ (sweep.queue (start k)).take batchSize
        → sweep.place (start (k + 1)).db.committed row.1
          = sweep.place (start k).db.committed row.1)
      ∧ ∀ row ∈ (sweep.queue (start k)).take batchSize, ∀ order since,
        sweep.place (start (k + 1)).db.committed row.1 = some (order, since)
        → sweep.requeues = true ∧ (start k).clock ≤ since := by
  have known := consecutive.queue_subset (k := k) (by omega)
  have once : (((sweep.queue (start k)).take batchSize).map Prod.fst).Nodup := by
    refine (List.nodup_map_iff_inj_on ((nodup_queue sweep _).sublist (List.take_sublist _ _))).mpr ?_
    intro row member other member' same
    exact eq_of_mem_queue (List.mem_of_mem_take member) (List.mem_of_mem_take member') same
  obtain ⟨clock, others, own⟩ := (all.resolved k within).displaced once fun row member => by
    obtain ⟨since, placed, _⟩ := mem_queue.mp (List.mem_of_mem_take member)
    exact ⟨since, placed⟩
  refine ⟨clock.symm.trans_le (consecutive.later k within), fun row member absent => ?_,
    fun row member order since placed => ?_⟩
  · rw [place_eq_of_agree (consecutive.kept k within)]
    refine others row.1 fun listed => absent ?_
    obtain ⟨other, batch, same⟩ := List.mem_map.mp listed
    exact eq_of_mem_queue (known (List.mem_of_mem_take batch)) member same ▸ batch
  · rw [place_eq_of_agree (consecutive.kept k within)] at placed
    exact own row member order since placed

/-- A row is handled in the next sweep or was handled before. -/
theorem handled_succ {row : Id × Id}
    : Batches.Handled batchSize (fun k => sweep.queue (start k)) (k + 1) row
      ↔ row ∈ (sweep.queue (start k)).take batchSize
        ∨ Batches.Handled batchSize (fun k => sweep.queue (start k)) k row := by
  constructor
  · intro given
    obtain ⟨i, earlier, batch⟩ := given
    rcases Nat.lt_succ_iff_lt_or_eq.mp earlier with before | rfl
    · exact Or.inr ⟨i, before, batch⟩
    · exact Or.inl batch
  · intro given
    rcases given with batch | ⟨i, earlier, batch⟩
    · exact ⟨k, by omega, batch⟩
    · exact ⟨i, by omega, batch⟩

/-- Every sweep but the last keeps the rows covered, by induction on the sweeps. -/
theorem Consecutive.covering (consecutive : Consecutive sweep t batchSize sweeps start finish)
    (all : ResolvesAll sweep t batchSize sweeps start finish) (within : k < sweeps)
    : Covering sweep batchSize start k := by
  induction k with
  | zero =>
      refine ⟨le_rfl, fun row _ handled => ?_, fun _ _ _ => rfl⟩
      obtain ⟨i, earlier, _⟩ := handled
      omega
  | succ k ih =>
      have covering := ih (by omega)
      obtain ⟨later, others, own⟩ := consecutive.places all within
      refine ⟨covering.clock.trans later, fun row member handled order since placed => ?_,
        fun row member unhandled => ?_⟩
      · by_cases batch : row ∈ (sweep.queue (start k)).take batchSize
        · obtain ⟨requeues, late⟩ := own row batch order since placed
          exact ⟨requeues, covering.clock.trans late⟩
        · rw [others row member batch] at placed
          exact covering.handled row member ((handled_succ.mp handled).resolve_left batch) order
            since placed
      · rw [handled_succ, not_or] at unhandled
        exact (others row member unhandled.1).trans (covering.waiting row member unhandled.2)

/-- The next sweep gets to the rows that wait first. -/
theorem Consecutive.requeued (consecutive : Consecutive sweep t batchSize sweeps start finish)
    (all : ResolvesAll sweep t batchSize sweeps start finish) (within : k + 1 < sweeps)
    : Batches.Requeued batchSize (fun k => sweep.queue (start k)) k where
  distinct := nodup_queue sweep _
  stays row member unhandled := by
    obtain ⟨later, others, _⟩ := consecutive.places all within
    rw [handled_succ, not_or] at unhandled
    obtain ⟨since, placed, due⟩ := mem_queue.mp member
    refine mem_queue.mpr ⟨since, ?_, due_later due later⟩
    rw [others row (consecutive.queue_subset (by omega) member) unhandled.1, placed]
  known := consecutive.closed k within
  behind := by
    have covering := consecutive.covering all within
    refine (sorted_queue sweep (start (k + 1))).imp_of_mem
      fun {row other} member member' ordered handled => ?_
    by_contra unhandled
    have known := consecutive.closed k within
    obtain ⟨since, placed, _⟩ := mem_queue.mp member
    obtain ⟨since', placed', _⟩ := mem_queue.mp member'
    obtain ⟨requeues, late⟩ := covering.handled row (known member) handled _ _ placed
    have before := all.earlier requeues other (known member') other.2 since'
      ((covering.waiting other (known member') unhandled).symm.trans placed')
    have := ordered since since' placed placed'
    omega

/-- If the sweeps have places enough for the rows that are eligible at first, and what they
handle before the last one is resolved, they reach all of these rows. By the rule for batches:
what was handled goes behind what was not.
-/
theorem sweeps_reach_all (consecutive : Consecutive sweep t batchSize sweeps start finish)
    (all : ResolvesAll sweep t batchSize sweeps start finish)
    (enough : (sweep.queue (start 0)).length ≤ sweeps * batchSize)
    : ∀ row ∈ sweep.queue (start 0), ∃ k < sweeps,
        sweep.Reaches t batchSize (start k) (finish k) row := by
  intro row member
  obtain ⟨k, within, batch⟩ := Batches.handled_all (fun k within => consecutive.requeued all within)
    enough row member
  exact ⟨k, within, batch, turns_of_run (consecutive.ran k within)⟩

end

-----------------------------------------------------------------------------------------
-- Two rows
-----------------------------------------------------------------------------------------

/-- Two rows in order of time, whichever the query finds first. -/
theorem inOrder_pair {ρ : Type} {order : Id × ρ → Id} {time : ρ → Nat} {older younger : Id × ρ}
    (first : time older.2 < time younger.2)
    : inOrder order time [older, younger] = [(older.1, order older), (younger.1, order younger)]
      ∧ inOrder order time [younger, older]
        = [(older.1, order older), (younger.1, order younger)] := by
  have le : time older.2 ≤ time younger.2 := by omega
  have gt : ¬time younger.2 ≤ time older.2 := by omega
  constructor <;> simp [inOrder, List.mergeSort, List.MergeSort.Internal.splitInTwo, le, gt]

/-- A sweep whose query succeeds runs as it handles its rows. -/
theorem returns_of_turns {sweep : Sweep} {t : Tid} {batchSize : Nat} {start finish : World}
    (turns : Turns (sweep.Handles t) ((sweep.queue start).take batchSize) start finish)
    : Returns t start (sweep.run batchSize) () finish := by
  have loop {α : Type} {row : α → Id × Id} (found : List α) {start : World}
      (turns : Turns (sweep.Handles t) (found.map row) start finish)
      : Returns t start (found.forM fun value => sweep.handle (row value).2) () finish := by
    induction found generalizing start with
    | nil =>
        cases turns
        exact Returns.pure ()
    | cons value rest ih =>
        cases turns with
        | next first later => exact Returns.bind first (ih later)
  have batch {ρ : Type} {order : Id × ρ → Id} {time : ρ → Nat} {found : List (Id × ρ)}
      (turns : Turns (sweep.Handles t) ((inOrder order time found).take batchSize) start finish)
      : Returns t start ((firstBy (fun row => time row.2) batchSize found).forM fun row =>
        sweep.handle (order row)) () finish := by
    rw [inOrder, ← List.map_take] at turns
    exact @loop _ (fun row => (row.1, order row)) _ _ turns
  cases sweep with
  | pendingOrders sdk config stopAtSubmitting =>
      exact Returns.bind (returns_select nofun) (batch turns)
  | reconciliation config maxStaleAgeHours =>
      exact Returns.bind (returns_select nofun) (batch turns)
  | paymentReconciliation config minPendingAgeMinutes =>
      exact Returns.bind (returns_act {} rfl) (Returns.bind (returns_select nofun) (batch turns))

/-- One sweep right after the other. -/
theorem consecutive_two {sweep : Sweep} {t : Tid} {batchSize : Nat} {start middle last : World}
    (first : Turns (sweep.Handles t) ((sweep.queue start).take batchSize) start middle)
    (second : Turns (sweep.Handles t) ((sweep.queue middle).take batchSize) middle last)
    (closed : sweep.queue middle ⊆ sweep.queue start)
    : Consecutive sweep t batchSize 2 (fun k => if k = 0 then start else middle)
        (fun k => if k = 0 then middle else last) where
  ran k within := by
    rcases Nat.lt_succ_iff_lt_or_eq.mp within with zero | rfl
    · obtain rfl := Nat.lt_one_iff.mp zero
      exact returns_of_turns first
    · exact returns_of_turns second
  kept k within := by
    obtain rfl : k = 0 := by omega
    exact fun _ _ => rfl
  later k within := by
    obtain rfl : k = 0 := by omega
    exact le_rfl
  closed k within := by
    obtain rfl : k = 0 := by omega
    exact closed

/-- A settlement that was about to be sent at some time, and of which no transaction is known. -/
def unsent (updatedAt : Nat) : Settlement :=
  { settlementId := "settlement", userId := "user", status := .SUBMITTING, asset := "USDC",
    amount := 10000, updatedAt := updatedAt }

/-- Two such settlements. -/
def unsentSettlements : World :=
  { World.start (((∅ : AList Row).insert (.settlement "second") (unsent 1)).insert
      (.settlement "first") (unsent 0)) with
    clock := 900000 }

/-- The first settlement after it has been flagged. -/
def flaggedSettlement : Settlement :=
  { unsent 900000 with
    status := .REQUIRES_RECONCILIATION
    lastError := some
      "Settlement left in SUBMITTING state without transaction hash post-worker crash." }

/-- Witness: the evaluated reconciliation of a settlement that was never sent. -/
theorem reconciles_both
    : (Program.evalAlone 0 (ReconciliationDaemon.reconcileSingleSettlement {} "first" 24).run
        unsentSettlements (List.replicate 6 {})).any fun ran =>
          ran.1 = .ok .REQUIRES_RECONCILIATION ∧ ran.2.clock = 900000
            ∧ allSettlements ran.2.db.committed
              = [("first", flaggedSettlement), ("second", unsent 1)]
            ∧ (Program.evalAlone 0
                (ReconciliationDaemon.reconcileSingleSettlement {} "second" 24).run ran.2
                (List.replicate 6 {})).any fun last => last.1 = .ok .REQUIRES_RECONCILIATION := by
  decide +kernel

/-- A settlement whose reconciliation returns has been handled. -/
theorem handles_of_reconciles {t : Tid} {config : Config} {maxStaleAgeHours : Nat} {row : Id × Id}
    {before after : World} {status : SettlementStatus}
    (reconciles : Program.Alone t
      (ReconciliationDaemon.reconcileSingleSettlement config row.2 maxStaleAgeHours).run before
      (.ok status) after)
    : (reconciliation config maxStaleAgeHours).Handles t row before after :=
  Program.alone_bind_iff.mpr
    ⟨.ok (), after, Returns.bind reconciles (Returns.pure ()), .done _ _⟩

/-- The first sweep flags the settlement that was updated first, and the second one gets to the other. -/
theorem sweeps_reach_all_unsent
    : ∃ start finish : Nat → World, (queue (start 0) (reconciliation {} 24)).length = 2
        ∧ ∀ row ∈ queue (start 0) (reconciliation {} 24), ∃ k < 2,
          Reaches (reconciliation {} 24) 0 1 (start k) (finish k) row := by
  obtain ⟨⟨_, middle⟩, ran, measured⟩ := (Option.any_eq_true _ _).mp reconciles_both
  simp only [decide_eq_true_eq] at measured
  obtain ⟨rfl, clock, rows, again⟩ := measured
  obtain ⟨⟨_, last⟩, ran', measured'⟩ := (Option.any_eq_true _ _).mp again
  obtain rfl := of_decide_eq_true measured'
  have first := Program.alone_of_evalAlone ran
  have second := Program.alone_of_evalAlone ran'
  have queue₀ : queue unsentSettlements (reconciliation {} 24)
      = [("first", "first"), ("second", "second")] := by
    have found : (allSettlements unsentSettlements.db.committed).filter
        (fun found => ReconciliationDaemon.underWay found.2.status)
        = [("first", unsent 0), ("second", unsent 1)] := by
      decide +kernel
    rw [queue, found]
    exact (inOrder_pair (by decide)).1
  have queue₁ : queue middle (reconciliation {} 24) = [("second", "second"), ("first", "first")] := by
    have found : (allSettlements middle.db.committed).filter
        (fun found => ReconciliationDaemon.underWay found.2.status)
        = [("first", flaggedSettlement), ("second", unsent 1)] := by
      rw [rows]
      decide
    rw [queue, found]
    exact (inOrder_pair (by decide)).2
  have consecutive : Consecutive (reconciliation {} 24) 0 1 2
      (fun k => if k = 0 then unsentSettlements else middle)
      (fun k => if k = 0 then middle else last) := by
    refine consecutive_two ?_ ?_ ?_
    · rw [queue₀]
      exact .next (handles_of_reconciles first) .done
    · rw [queue₁]
      exact .next (handles_of_reconciles second) .done
    · rw [queue₀, queue₁]
      decide
  have all : ResolvesAll (reconciliation {} 24) 0 1 2
      (fun k => if k = 0 then unsentSettlements else middle)
      (fun k => if k = 0 then middle else last) := by
    refine ⟨fun k within => ?_, fun _ row member order since placed => ?_⟩
    · obtain rfl : k = 0 := by omega
      simp only [if_true]
      rw [queue₀]
      exact .next (.flagged (AList.lookup_insert _) rfl first) .done
    · simp only [if_true] at member placed ⊢
      rw [queue₀] at member
      have places : ∀ row ∈ [("first", "first"), ("second", "second")],
          (place unsentSettlements.db.committed row.1 (reconciliation {} 24)).all fun found =>
            found.2 < unsentSettlements.clock := by
        decide +kernel
      have before := places row member
      rw [placed] at before
      exact of_decide_eq_true before
  refine ⟨_, _, ?_, sweeps_reach_all consecutive all ?_⟩
  · simp only [if_true, queue₀]
    rfl
  · simp only [if_true, queue₀]
    decide

-----------------------------------------------------------------------------------------
-- A payment that is skipped
-----------------------------------------------------------------------------------------

/-- An order with a payment that has been pending for long. -/
def lateOrder (status : OrderStatus) : Order :=
  { userId := "user", quoteId := "quote", status := status, sourceCurrency := "NGN",
    destinationAsset := "USDC", sourceAmount := 20000, destinationAmount := 500000000 }

def latePayment (orderId : Id) (createdAt : Nat) : Payment :=
  { orderId := orderId, userId := "user", amount := 20000, currency := "NGN", status := .PENDING,
    reference := "reference", createdAt := createdAt }

/-- The older of two payments is for an order that has expired. -/
def latePayments : World :=
  { World.start (((((∅ : AList Row).insert (.order "expired") (lateOrder .EXPIRED)).insert
      (.payment "older") (latePayment "expired" 0)).insert (.order "waiting")
      (lateOrder .AWAITING_PAYMENT)).insert (.payment "younger") (latePayment "waiting" 1)) with
    clock := 900000 }

/-- Witness: the evaluated reconciliation of an order whose payment stays pending. -/
theorem handles_older_twice
    : (Program.evalAlone 0 ((paymentReconciliation {} 5).handle "expired").run latePayments
        (List.replicate 9 {})).any fun ran =>
          ran.1 = .ok () ∧ ran.2.clock = 900000
            ∧ allPayments ran.2.db.committed
              = [("younger", latePayment "waiting" 1), ("older", latePayment "expired" 0)]
            ∧ (Program.evalAlone 0 ((paymentReconciliation {} 5).handle "expired").run ran.2
                (List.replicate 9 {})).any fun last => last.1 = .ok () := by
  decide +kernel

/-- Two sweeps of one payment each: both handle the payment of the order that has expired. -/
theorem younger_payment_not_reached
    : ∃ start finish : Nat → World, Consecutive (paymentReconciliation {} 5) 0 1 2 start finish
        ∧ (queue (start 0) (paymentReconciliation {} 5)).length = 2
        ∧ ¬∀ row ∈ queue (start 0) (paymentReconciliation {} 5), ∃ k < 2,
          Reaches (paymentReconciliation {} 5) 0 1 (start k) (finish k) row := by
  obtain ⟨⟨_, middle⟩, ran, measured⟩ := (Option.any_eq_true _ _).mp handles_older_twice
  simp only [decide_eq_true_eq] at measured
  obtain ⟨rfl, clock, rows, again⟩ := measured
  obtain ⟨⟨_, last⟩, ran', measured'⟩ := (Option.any_eq_true _ _).mp again
  obtain rfl := of_decide_eq_true measured'
  have queued {world : World} (clock : world.clock = 900000)
      (rows : allPayments world.db.committed
        = [("younger", latePayment "waiting" 1), ("older", latePayment "expired" 0)])
      : queue world (paymentReconciliation {} 5) = [("older", "expired"), ("younger", "waiting")] := by
    have found : (allPayments world.db.committed).filter (fun found : Id × Payment =>
        found.2.status = .PENDING ∧ found.2.createdAt + 5 * 60 * 1000 ≤ world.clock)
        = [("younger", latePayment "waiting" 1), ("older", latePayment "expired" 0)] := by
      rw [rows, clock]
      decide
    rw [queue, found]
    exact (inOrder_pair (by decide)).2
  have queue₀ : queue latePayments (paymentReconciliation {} 5) = _ := queued rfl (by decide +kernel)
  have queue₁ := queued clock rows
  refine ⟨_, _, @consecutive_two _ _ _ latePayments middle last ?_ ?_ ?_, ?_, fun reached => ?_⟩
  · rw [queue₀]
    exact .next (Program.alone_of_evalAlone ran) .done
  · rw [queue₁]
    exact .next (Program.alone_of_evalAlone ran') .done
  · rw [queue₀, queue₁]
    exact List.Subset.refl _
  · simp only [if_true, queue₀]
    rfl
  · obtain ⟨k, within, batch, _⟩ := reached ("younger", "waiting") (by simp [queue₀])
    rcases Nat.lt_succ_iff_lt_or_eq.mp within with zero | rfl
    · obtain rfl := Nat.lt_one_iff.mp zero
      simp [queue₀] at batch
    · simp [queue₁] at batch

end Sweep

end LuminaRail
