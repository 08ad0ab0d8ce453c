import LuminaRail.Model.Exclusive
import LuminaRail.Services.Webhooks

/-! What a verdict on a payment does to the payment, to its order and to the liquidity reserved for
it, when nobody else changes them meanwhile. Reaching the verdict again changes nothing more.
-/

namespace LuminaRail

open Concurrency Database Service

/-- The rows of a database by their keys. -/
abbrev Table := (key : Key) → Option (Row key)

def tableOf (rows : AList Row) : Table := fun key => rows.lookup key

/-- Every table but the one of the webhook events. -/
def Key.lasting : Key → Prop
  | .webhookEvent _ _ => False
  | _ => True

/-- The status of a reservation whose payment has succeeded or failed. -/
def settledStatus (verdict : PaymentStatus) (status : LiquidityReservationStatus)
    : LiquidityReservationStatus :=
  match verdict, status with
  | .SUCCEEDED, .RESERVED => .CONFIRMED
  | .FAILED, .RESERVED | .FAILED, .CONFIRMED => .CANCELLED_RELEASED
  | _, status => status

/-- A failed payment releases what is not final yet. -/
theorem settledStatus_of_active {status : LiquidityReservationStatus}
    (active : ¬(status = .CONSUMED ∨ status = .EXPIRED_RELEASED ∨ status = .CANCELLED_RELEASED))
    : settledStatus .FAILED status = .CANCELLED_RELEASED := by
  cases status with
  | RESERVED | CONFIRMED => rfl
  | CONSUMED | EXPIRED_RELEASED | CANCELLED_RELEASED => simp at active

/-- A pool gets back what is reserved of it once the payment has failed. -/
def settledPool (verdict : PaymentStatus) (reservation : Option LiquidityReservation) (id : Id)
    (pool : LiquidityPool) : LiquidityPool :=
  match reservation with
  | none => pool
  | some reservation =>
      if reservation.poolId = id ∧ verdict = .FAILED
          ∧ (reservation.status = .RESERVED ∨ reservation.status = .CONFIRMED) then
        LiquidityService.released pool reservation.amount
      else
        pool

/-- The status that a verdict gives to an order. -/
def Order.statusAfter (order : Order) : PaymentStatus → OrderStatus
  | .SUCCEEDED => if order.status.ignoresSuccess then order.status else order.paidStatus
  | .FAILED => if order.status.ignoresFailure then order.status else .FAILED
  | _ => order.status

/-- A verdict reaches the payment and the record of its provider. -/
def settlePayment (paymentId : Id) (verdict : PaymentStatus) (table : Table) : Table
  | .payment id => (table (.payment id)).map fun (row : Payment) =>
      if id = paymentId then { row with status := verdict } else row
  | .providerTransaction id =>
      (table (.providerTransaction id)).map fun (row : ProviderTransaction) =>
        if id = paymentId then { row with status := verdict } else row
  | key => table key

/-- It reaches the reservation and its pool. -/
def settleReservation (orderId : Id) (verdict : PaymentStatus) (table : Table) : Table
  | .liquidityReservation id =>
      (table (.liquidityReservation id)).map fun (row : LiquidityReservation) =>
        if id = orderId then { row with status := settledStatus verdict row.status } else row
  | .liquidityPool id => (table (.liquidityPool id)).map
      (settledPool verdict (table (.liquidityReservation orderId)) id)
  | key => table key

/-- And it reaches the order. -/
def settleOrder (orderId : Id) (verdict : PaymentStatus) (table : Table) : Table
  | .order id => (table (.order id)).map fun (row : Order) =>
      if id = orderId then { row with status := row.statusAfter verdict } else row
  | key => table key

/-- The effect of a verdict. -/
def settle (orderId paymentId : Id) (verdict : PaymentStatus) (table : Table) : Table :=
  settleOrder orderId verdict (settleReservation orderId verdict
    (settlePayment paymentId verdict table))

variable {orderId paymentId : Id} {verdict : PaymentStatus} {table : Table} {rows : AList Row}
  {key : Key}

/-- A row that is inserted is in the table under its key. -/
theorem tableOf_insert (row : Row key)
    : tableOf (rows.insert key row) = Function.update (tableOf rows) key (some row) := by
  funext other
  by_cases same : other = key
  · subst same
    simp [tableOf]
  · simp [tableOf, AList.lookup_insert_ne same, same]

/-- What is overlaid is in front in the table. -/
theorem tableOf_overlay (writes : List (Sigma Row))
    : tableOf (overlay writes rows) = fun key => (writes.dlookup key).or (tableOf rows key) :=
  funext fun key => lookup_overlay key writes rows

-----------------------------------------------------------------------------------------
-- Reaching a verdict again
-----------------------------------------------------------------------------------------

/-- A reservation is settled once, by cases on status and verdict. -/
theorem settledStatus_again (status : LiquidityReservationStatus)
    : settledStatus verdict (settledStatus verdict status) = settledStatus verdict status := by
  cases verdict <;> cases status <;> rfl

/-- What has been released is not released again. -/
theorem settledPool_again (reservation : Option LiquidityReservation) (id : Id)
    (pool : LiquidityPool)
    : settledPool verdict (reservation.map fun row =>
        { row with status := settledStatus verdict row.status }) id pool = pool := by
  cases reservation with
  | none => rfl
  | some reservation =>
      cases verdict <;> cases status : reservation.status <;>
        simp [settledPool, settledStatus, status]

/-- An order follows a verdict once, by cases on status and verdict. -/
theorem statusAfter_again (order : Order)
    : Order.statusAfter { order with status := order.statusAfter verdict } verdict
      = order.statusAfter verdict := by
  cases verdict with
  | SUCCEEDED =>
      cases ignored : order.status.ignoresSuccess with
      | true => simp [Order.statusAfter, ignored]
      | false =>
          simp only [Order.statusAfter, ignored, Bool.false_eq_true, if_false]
          exact ite_self _
  | FAILED =>
      cases ignored : order.status.ignoresFailure with
      | true => simp [Order.statusAfter, ignored]
      | false => simp [Order.statusAfter, ignored]
  | _ => rfl

/-- The reservation is settled once. -/
theorem settleReservation_again
    : settleReservation orderId verdict (settleReservation orderId verdict table)
      = settleReservation orderId verdict table := by
  funext key
  cases key with
  | liquidityReservation id =>
      cases found : table (.liquidityReservation id) with
      | none => simp [settleReservation, found]
      | some row =>
          by_cases same : id = orderId
          · simp [settleReservation, found, same, settledStatus_again]
          · simp [settleReservation, found, same]
  | liquidityPool id =>
      cases found : table (.liquidityPool id) with
      | none => simp [settleReservation, found]
      | some pool => simp [settleReservation, found, settledPool_again]
  | _ => rfl

/-- The verdict may reach the liquidity first. -/
theorem settle_settleReservation
    : settle orderId paymentId verdict (settleReservation orderId verdict table)
      = settle orderId paymentId verdict table := by
  have early : settlePayment paymentId verdict (settleReservation orderId verdict table)
      = settleReservation orderId verdict (settlePayment paymentId verdict table) := by
    funext key
    cases key <;> rfl
  rw [settle, early, settleReservation_again, settle]

/-- What has been settled with the verdict stays so when it reaches the liquidity again. -/
theorem settleReservation_settle
    : settleReservation orderId verdict (settle orderId paymentId verdict table)
      = settle orderId paymentId verdict table := by
  have late : settleReservation orderId verdict (settle orderId paymentId verdict table)
      = settleOrder orderId verdict (settleReservation orderId verdict
        (settleReservation orderId verdict (settlePayment paymentId verdict table))) := by
    funext key
    cases key <;> rfl
  rw [late, settleReservation_again, settle]

/-- All rows follow a verdict once. -/
theorem settle_again
    : settle orderId paymentId verdict (settle orderId paymentId verdict table)
      = settle orderId paymentId verdict table := by
  have paid : settlePayment paymentId verdict (settle orderId paymentId verdict table)
      = settle orderId paymentId verdict table := by
    funext key
    cases key with
    | payment id =>
        simp only [settlePayment, settle, settleOrder, settleReservation, Option.map_map]
        congr 1
        funext row
        by_cases same : id = paymentId <;> simp [same]
    | providerTransaction id =>
        simp only [settlePayment, settle, settleOrder, settleReservation, Option.map_map]
        congr 1
        funext row
        by_cases same : id = paymentId <;> simp [same]
    | _ => rfl
  rw [settle, paid, settleReservation_settle]
  funext key
  cases key with
  | order id =>
      simp only [settle, settleOrder, Option.map_map]
      congr 1
      funext row
      by_cases same : id = orderId
      · simp [same, statusAfter_again]
      · simp [same]
  | _ => rfl

/-- The same rows apart from the webhook events. -/
def Lasting (table table' : Table) : Prop := ∀ key : Key, key.lasting → table' key = table key

/-- Tables with the same lasting rows, in sequence. -/
theorem Lasting.trans {first second third : Table} (early : Lasting first second)
    (late : Lasting second third)
    : Lasting first third :=
  fun key lasts => (late key lasts).trans (early key lasts)

/-- The reservations of the same lasting rows are settled to the same. -/
theorem Lasting.settleReservation {table' : Table} (same : Lasting table table')
    : Lasting (settleReservation orderId verdict table)
        (settleReservation orderId verdict table') := by
  intro key lasts
  have reserved := same (.liquidityReservation orderId) (by trivial)
  cases key <;> simp [LuminaRail.settleReservation, same _ lasts, reserved]

/-- The same lasting rows follow a verdict to the same. -/
theorem Lasting.settle {table' : Table} (same : Lasting table table')
    : Lasting (settle orderId paymentId verdict table) (settle orderId paymentId verdict table') := by
  have paid : Lasting (settlePayment paymentId verdict table)
      (settlePayment paymentId verdict table') := by
    intro key lasts
    cases key <;> simp [settlePayment, same _ lasts]
  intro key lasts
  have reserved : LuminaRail.settleReservation orderId verdict
      (settlePayment paymentId verdict table') key
        = LuminaRail.settleReservation orderId verdict (settlePayment paymentId verdict table) key :=
    paid.settleReservation key lasts
  cases key with
  | order id => simp [LuminaRail.settle, settleOrder, reserved]
  | _ => exact reserved

-----------------------------------------------------------------------------------------
-- The liquidity services
-----------------------------------------------------------------------------------------

/-- A reservation that keeps its status keeps what it has taken from its pool. -/
theorem settleReservation_idle
    (kept : ∀ reservation, table (.liquidityReservation orderId) = some reservation
      → settledStatus verdict reservation.status = reservation.status)
    : settleReservation orderId verdict table = table := by
  funext key
  cases key with
  | liquidityReservation id =>
      cases found : table (.liquidityReservation id) with
      | none => simp [settleReservation, found]
      | some row =>
          by_cases same : id = orderId
          · subst same
            simp [settleReservation, found, kept row found]
          · simp [settleReservation, found, same]
  | liquidityPool id =>
      cases found : table (.liquidityPool id) with
      | none => simp [settleReservation, found]
      | some pool =>
          cases reserved : table (.liquidityReservation orderId) with
          | none => simp [settleReservation, found, reserved, settledPool]
          | some reservation =>
              have unreleased : ¬(verdict = .FAILED
                  ∧ (reservation.status = .RESERVED ∨ reservation.status = .CONFIRMED)) := by
                intro releases
                have same := kept reservation reserved
                obtain ⟨rfl, status | status⟩ := releases <;> simp [status, settledStatus] at same
              simp [settleReservation, found, reserved, settledPool, unreleased]
  | _ => rfl

/-- What an open transaction has done without committing it. -/
structure Drafted (x : TxId) (s last : Snapshot) (effect : Table → Table) : Prop where
  committed : last.committed = s.committed
  opened : (last.pending x).isSome
  others : ∀ y, y ≠ x → last.pending y = s.pending y
  done : tableOf (last.visible (some x)) = effect (tableOf (s.visible (some x)))

section

variable {Γ : Protocol World} {t : Tid} {e : Exclusive Γ t} {s : Snapshot} {x : TxId}
  {writes : List (Sigma Row)} (covers : ∀ key : Key, key.lasting → e.covers key)
include covers

open Exclusive

section

variable (opened : s.pending x = some writes)
include opened

omit covers in
/-- A draft without writes is one that has no effect. -/
theorem Drafted.refl {effect : Table → Table}
    (idle : effect (tableOf (s.visible (some x))) = tableOf (s.visible (some x)))
    : Drafted x s s effect :=
  ⟨rfl, by simp [opened], fun _ _ => rfl, idle.symm⟩

/-- A confirmed reservation is the one settled by success. -/
theorem yields_confirmReservationInTx (orderId : Id)
    : e.Yields s (LiquidityService.confirmReservationInTx x orderId) fun _ last =>
        Drafted x s last (settleReservation orderId .SUCCEEDED) := by
  refine Yields.bind (yields_findUnique (covers _ (by trivial))) fun found next given => ?_
  obtain ⟨seen, rfl⟩ := given
  cases found with
  | none =>
      refine Yields.pure (.refl opened (settleReservation_idle fun reservation found => ?_))
      simp [tableOf, ← seen] at found
  | some reservation =>
      have idle (unreserved : reservation.status ≠ .RESERVED)
          : Drafted x next next (settleReservation orderId .SUCCEEDED) := by
        refine .refl opened (settleReservation_idle fun stored found => ?_)
        obtain rfl := Option.some.inj (seen.trans found)
        cases status : reservation.status <;> simp_all [settledStatus]
      dsimp only
      split
      · rename_i final
        exact Yields.pure (idle fun reserved => by simp [reserved] at final)
      split
      · rename_i unreserved
        exact Yields.pure (idle unreserved)
      · rename_i reserved
        have reserved : reservation.status = .RESERVED := by simpa using reserved
        refine Yields.map ((yields_update (covers _ (by trivial))).mono fun row last given => ?_)
        obtain ⟨stored, found, rfl, rfl⟩ := given
        obtain rfl := Option.some.inj (seen.trans found)
        refine ⟨rfl, by simp [Snapshot.save_pending opened], fun y other =>
          Snapshot.save_pending_other other _, ?_⟩
        rw [Snapshot.visible_save opened, tableOf_insert]
        have found : tableOf (next.visible (some x)) (.liquidityReservation orderId)
            = some reservation := found
        funext key
        cases key with
        | liquidityReservation id =>
            by_cases same : id = orderId
            · subst same
              simp [settleReservation, found, reserved, settledStatus]
            · simp [settleReservation, same]
        | liquidityPool id =>
            cases stored : tableOf (next.visible (some x)) (.liquidityPool id) with
            | none => simp [settleReservation, stored]
            | some pool => simp [settleReservation, settledPool, found, stored]
        | _ => simp [settleReservation]

/-- A released reservation is the one settled by failure. -/
theorem yields_releaseReservationInTx (orderId : Id)
    : e.Yields s (LiquidityService.releaseReservationInTx x orderId) fun _ last =>
        Drafted x s last (settleReservation orderId .FAILED) := by
  refine Yields.bind (yields_findUnique (covers _ (by trivial))) fun found next given => ?_
  obtain ⟨seen, rfl⟩ := given
  cases found with
  | none =>
      refine Yields.pure (.refl opened (settleReservation_idle fun reservation found => ?_))
      simp [tableOf, ← seen] at found
  | some reservation =>
      dsimp only
      split
      · rename_i final
        refine Yields.pure (.refl opened (settleReservation_idle fun stored found => ?_))
        obtain rfl := Option.some.inj (seen.trans found)
        rcases final with status | status | status <;> rw [status] <;> rfl
      · rename_i active
        refine Yields.bind yields_selectForUpdate fun _ next same => ?_
        subst same
        refine Yields.bind (yields_findUniqueOrThrow (covers _ (by trivial)))
          fun pool next given => ?_
        obtain ⟨pooled, rfl⟩ := given
        refine Yields.bind (yields_update (covers _ (by trivial))) fun _ between given => ?_
        obtain ⟨row, stored, _, written⟩ := given
        obtain rfl := Option.some.inj (pooled.symm.trans stored)
        have written : between = next.save (some x) [⟨.liquidityPool reservation.poolId,
          LiquidityService.released pool reservation.amount⟩] := written
        subst written
        have opened' := Snapshot.save_pending opened
          [⟨.liquidityPool reservation.poolId, LiquidityService.released pool reservation.amount⟩]
        refine Yields.map ((yields_update (covers _ (by trivial))).mono
          fun _ last given => ?_)
        obtain ⟨kept, found, _, rfl⟩ := given
        refine ⟨rfl, by simp [Snapshot.save_pending opened'], fun y other => ?_, ?_⟩
        · rw [Snapshot.save_pending_other other, Snapshot.save_pending_other other]
        rw [Snapshot.visible_save opened', Snapshot.visible_save opened, tableOf_insert,
          tableOf_insert]
        rw [Snapshot.visible_save opened, AList.lookup_insert_ne (by simp)] at found
        obtain rfl := Option.some.inj (seen.trans found)
        have found : tableOf (next.visible (some x)) (.liquidityReservation orderId)
            = some reservation := found
        have pooled : tableOf (next.visible (some x)) (.liquidityPool reservation.poolId)
            = some pool := pooled
        funext key
        cases key with
        | liquidityReservation id =>
            by_cases same : id = orderId
            · subst same
              simp [settleReservation, found, settledStatus_of_active active]
            · simp [settleReservation, same]
        | liquidityPool id =>
            have releases : reservation.status = .RESERVED ∨ reservation.status = .CONFIRMED := by
              cases status : reservation.status <;> simp_all
            by_cases same : id = reservation.poolId
            · subst same
              simp [settleReservation, settledPool, found, pooled, releases]
            · cases stored : tableOf (next.visible (some x)) (.liquidityPool id) with
              | none => simp [settleReservation, same, stored]
              | some other =>
                  have kept : reservation.poolId ≠ id := fun equal => same equal.symm
                  simp [settleReservation, settledPool, found, same, stored, kept]
        | _ => simp [settleReservation]

end

omit covers in
/-- A transaction of its own commits the draft. -/
theorem yields_drafted {α : Type} {body : TxId → Service α} {effect : Table → Table}
    (runs : ∀ x, x.owner = t → e.Yields (s.begin x) (body x) fun _ last =>
      Drafted x (s.begin x) last effect)
    (accepted : ∀ before after, tableOf after = effect (tableOf before) → e.accepts before after)
    : e.Yields s (Service.transaction body) fun _ last =>
        (∀ y writes, s.pending y = some writes → last.pending y = some writes)
          ∧ tableOf last.committed = effect (tableOf s.committed) := by
  have done {x : TxId} {last : Snapshot} (drafted : Drafted x (s.begin x) last effect)
      : tableOf (last.visible (some x)) = effect (tableOf s.committed) := by
    rw [drafted.done, Snapshot.visible_of_pending Snapshot.begin_pending]
    rfl
  refine yields_transaction (fun x own _ => runs x own)
    (fun x _ last _ drafted => accepted _ _ (drafted.committed ▸ done drafted))
    fun x _ last new drafted => ⟨?_, done drafted⟩
  intro y writes opened
  have other : y ≠ x := by
    intro same
    simp [same, new] at opened
  rw [Snapshot.commit_pending_other other, drafted.others y other,
    Snapshot.begin_pending_other other, opened]

/-- The same in a transaction of its own that may be committed. -/
theorem yields_confirmReservation (orderId : Id)
    (accepted : ∀ before after, tableOf after = settleReservation orderId .SUCCEEDED (tableOf before)
      → e.accepts before after)
    : e.Yields s (LiquidityService.confirmReservation orderId) fun _ last =>
        (∀ y writes, s.pending y = some writes → last.pending y = some writes)
          ∧ tableOf last.committed = settleReservation orderId .SUCCEEDED (tableOf s.committed) :=
  yields_drafted (fun _ _ => yields_confirmReservationInTx covers Snapshot.begin_pending orderId)
    accepted

/-- The same in a transaction of its own that may be committed. -/
theorem yields_releaseReservation (orderId : Id)
    (accepted : ∀ before after, tableOf after = settleReservation orderId .FAILED (tableOf before)
      → e.accepts before after)
    : e.Yields s (LiquidityService.releaseReservation orderId) fun _ last =>
        (∀ y writes, s.pending y = some writes → last.pending y = some writes)
          ∧ tableOf last.committed = settleReservation orderId .FAILED (tableOf s.committed) :=
  yields_drafted (fun _ _ => yields_releaseReservationInTx covers Snapshot.begin_pending orderId)
    accepted

end

-----------------------------------------------------------------------------------------
-- What follows a verdict
-----------------------------------------------------------------------------------------

/-- The transaction has written neither the reservation nor pools. -/
def Unreserved (orderId : Id) (writes : List (Sigma Row)) : Prop :=
  writes.dlookup (.liquidityReservation orderId) = none
    ∧ ∀ id, writes.dlookup (.liquidityPool id) = none

/-- A transaction sees what becomes of reservations that it has not written. -/
theorem settleReservation_overlay {writes : List (Sigma Row)} {after : AList Row}
    (unwritten : Unreserved orderId writes)
    (settled : tableOf after = settleReservation orderId verdict (tableOf rows))
    : tableOf (overlay writes after)
      = settleReservation orderId verdict (tableOf (overlay writes rows)) := by
  rw [tableOf_overlay, tableOf_overlay, settled]
  funext key
  cases key with
  | liquidityReservation id =>
      by_cases same : id = orderId
      · subst same
        simp [settleReservation, unwritten.1]
      · simp [settleReservation, same]
  | liquidityPool id => simp [settleReservation, unwritten.1, unwritten.2]
  | _ => simp [settleReservation]

/-- A verdict that keeps the status changes nothing. -/
theorem settleOrder_idle
    (kept : ∀ order, table (.order orderId) = some order
      → order.statusAfter verdict = order.status)
    : settleOrder orderId verdict table = table := by
  funext key
  cases key with
  | order id =>
      cases found : table (.order id) with
      | none => simp [settleOrder, found]
      | some order =>
          by_cases same : id = orderId
          · subst same
            simp [settleOrder, found, kept order found]
          · simp [settleOrder, found, same]
  | _ => rfl

/-- A verdict that is neither success nor failure leaves the reservation. -/
theorem settleReservation_undecided (undecided : verdict ≠ .SUCCEEDED ∧ verdict ≠ .FAILED)
    : settleReservation orderId verdict table = table := by
  refine settleReservation_idle fun reservation _ => ?_
  cases verdict <;> simp_all [settledStatus]

/-- Other news of the payment leave its order and its reservation alone. -/
theorem settle_undecided (undecided : verdict ≠ .SUCCEEDED ∧ verdict ≠ .FAILED)
    : settleOrder orderId verdict (settleReservation orderId verdict table) = table := by
  rw [settleReservation_undecided undecided]
  refine settleOrder_idle fun order _ => ?_
  cases verdict <;> simp_all [Order.statusAfter]

section

variable {Γ : Protocol World} {t : Tid} {e : Exclusive Γ t} {s : Snapshot} {x : TxId}
  {writes : List (Sigma Row)} (covers : ∀ key : Key, key.lasting → e.covers key)
  (opened : s.pending x = some writes)
include covers opened

open Exclusive

/-- The order takes its status in the transaction. -/
theorem yields_moveOrder (verdict : PaymentStatus) {order : Order} {status : OrderStatus}
    (found : (s.visible (some x)).lookup (.order orderId) = some order)
    (moves : order.statusAfter verdict = status)
    : e.Yields s (update (some x) (.order orderId) fun row => { row with status := status })
        fun _ last => (last.pending x).isSome ∧ last.committed = s.committed
          ∧ tableOf (last.visible (some x)) = settleOrder orderId verdict
            (tableOf (s.visible (some x))) := by
  refine (yields_update (covers _ (by trivial))).mono fun _ last given => ?_
  obtain ⟨row, stored, _, rfl⟩ := given
  obtain rfl := Option.some.inj (found.symm.trans stored)
  refine ⟨by simp [Snapshot.save_pending opened], rfl, ?_⟩
  rw [Snapshot.visible_save opened, tableOf_insert]
  have found : tableOf (s.visible (some x)) (.order orderId) = some order := found
  funext key
  cases key with
  | order id =>
      by_cases same : id = orderId
      · subst same
        simp [settleOrder, found, moves]
      · simp [settleOrder, same]
  | _ => simp [settleOrder]

/-- News of success moves the order as its verdict does. -/
theorem yields_advanceOrder (orderId : Id)
    : e.Yields s (PaymentService.advanceOrder (some x) orderId) fun _ last =>
        (last.pending x).isSome ∧ last.committed = s.committed
          ∧ tableOf (last.visible (some x))
            = settleOrder orderId .SUCCEEDED (tableOf (s.visible (some x))) := by
  refine Yields.bind (yields_findUnique (covers _ (by trivial))) fun found next given => ?_
  obtain ⟨seen, rfl⟩ := given
  have still : (next.pending x).isSome := by simp [opened]
  cases found with
  | none =>
      refine Yields.pure ⟨still, rfl, (settleOrder_idle fun order found => ?_).symm⟩
      simp [tableOf, ← seen] at found
  | some order =>
      dsimp only
      split
      · rename_i ignored
        refine Yields.pure ⟨still, rfl, (settleOrder_idle fun stored found => ?_).symm⟩
        obtain rfl := Option.some.inj (seen.trans found)
        simp [Order.statusAfter, ignored]
      · rename_i moved
        refine Yields.bind yields_checked fun _ _ same => ?_
        subst same
        refine Yields.bind (yields_moveOrder covers opened .SUCCEEDED seen.symm
          (by simp [Order.statusAfter, moved])) fun _ _ moved => Yields.pure moved

/-- News of failure moves the order as its verdict does. -/
theorem yields_failOrder (orderId : Id)
    : e.Yields s (PaymentService.failOrder (some x) orderId) fun _ last =>
        (last.pending x).isSome ∧ last.committed = s.committed
          ∧ tableOf (last.visible (some x))
            = settleOrder orderId .FAILED (tableOf (s.visible (some x))) := by
  refine Yields.bind (yields_findUnique (covers _ (by trivial))) fun found next given => ?_
  obtain ⟨seen, rfl⟩ := given
  have still : (next.pending x).isSome := by simp [opened]
  cases found with
  | none =>
      refine Yields.pure ⟨still, rfl, (settleOrder_idle fun order found => ?_).symm⟩
      simp [tableOf, ← seen] at found
  | some order =>
      dsimp only
      split
      · rename_i ignored
        refine Yields.pure ⟨still, rfl, (settleOrder_idle fun stored found => ?_).symm⟩
        obtain rfl := Option.some.inj (seen.trans found)
        simp [Order.statusAfter, ignored]
      · rename_i moved
        refine Yields.bind yields_checked fun _ _ same => ?_
        subst same
        refine Yields.bind (yields_moveOrder covers opened .FAILED seen.symm
          (by simp [Order.statusAfter, moved])) fun _ _ moved => Yields.pure moved

/-- What follows a verdict in the transaction of its webhook. The reservation is settled in another
transaction, which this one sees.
-/
theorem yields_followUp (unwritten : Unreserved orderId writes)
    (accepted : ∀ before after, tableOf after = settleReservation orderId verdict (tableOf before)
      → e.accepts before after)
    : e.Yields s (PaymentService.followUp (some x) orderId verdict) fun _ last =>
        (last.pending x).isSome
          ∧ tableOf last.committed = settleReservation orderId verdict (tableOf s.committed)
          ∧ tableOf (last.visible (some x)) = settleOrder orderId verdict
            (settleReservation orderId verdict (tableOf (s.visible (some x)))) := by
  have settles {next : Snapshot} (kept : next.pending x = some writes)
      (settled : tableOf next.committed = settleReservation orderId verdict (tableOf s.committed))
      : tableOf (next.visible (some x))
        = settleReservation orderId verdict (tableOf (s.visible (some x))) := by
    rw [Snapshot.visible_of_pending opened, Snapshot.visible_of_pending kept]
    exact settleReservation_overlay unwritten settled
  have undecided (others : verdict ≠ .SUCCEEDED ∧ verdict ≠ .FAILED)
      : (s.pending x).isSome
          ∧ tableOf s.committed = settleReservation orderId verdict (tableOf s.committed)
          ∧ tableOf (s.visible (some x)) = settleOrder orderId verdict
            (settleReservation orderId verdict (tableOf (s.visible (some x)))) :=
    ⟨by simp [opened], (settleReservation_undecided others).symm, (settle_undecided others).symm⟩
  cases verdict with
  | SUCCEEDED =>
      refine Yields.bind (yields_confirmReservation covers orderId accepted) fun _ next given => ?_
      obtain ⟨kept, settled⟩ := given
      have opened := kept x writes opened
      rw [← settles opened settled]
      refine (yields_advanceOrder covers opened orderId).mono fun _ last given => ?_
      exact ⟨given.1, given.2.1 ▸ settled, given.2.2⟩
  | FAILED =>
      refine Yields.bind (yields_releaseReservation covers orderId accepted) fun _ next given => ?_
      obtain ⟨kept, settled⟩ := given
      have opened := kept x writes opened
      rw [← settles opened settled]
      refine (yields_failOrder covers opened orderId).mono fun _ last given => ?_
      exact ⟨given.1, given.2.1 ▸ settled, given.2.2⟩
  | _ => exact Yields.pure (undecided (by simp))

end

/-- The payment and its record are written, and nothing else. -/
theorem eq_settlePayment {payment : Payment} {after : Table}
    (stored : table (.payment paymentId) = some payment)
    (paid : after (.payment paymentId) = some { payment with status := verdict })
    (recorded : after (.providerTransaction paymentId)
      = (table (.providerTransaction paymentId)).map fun (row : ProviderTransaction) =>
        { row with status := verdict })
    (others : ∀ key, key ≠ .payment paymentId → key ≠ .providerTransaction paymentId
      → after key = table key)
    : after = settlePayment paymentId verdict table := by
  funext key
  cases key with
  | payment id =>
      by_cases same : id = paymentId
      · subst same
        simp [settlePayment, stored, paid]
      · simp [settlePayment, same, others]
  | providerTransaction id =>
      by_cases same : id = paymentId
      · subst same
        simp [settlePayment, recorded]
      · simp [settlePayment, same, others]
  | _ => exact others _ (by simp) (by simp)

section

variable {Γ : Protocol World} {t : Tid} {e : Exclusive Γ t} {s : Snapshot} {x : TxId}
  {payment : Payment} (covers : ∀ key : Key, key.lasting → e.covers key)
  (stored : s.committed.lookup (.payment paymentId) = some payment)
include covers stored

open Exclusive

/-- The record of the provider is written as well, if there is one. -/
theorem yields_updateProviderTransaction
    (opened : s.pending x = some [⟨.payment paymentId, { payment with status := verdict }⟩])
    : e.Yields s (PaymentService.updateProviderTransaction (some x) paymentId verdict)
        fun _ last => ∃ writes, last.pending x = some writes
          ∧ (∀ orderId, Unreserved orderId writes) ∧ last.committed = s.committed
          ∧ tableOf (last.visible (some x))
            = settlePayment paymentId verdict (tableOf s.committed) := by
  have stored : tableOf s.committed (.payment paymentId) = some payment := stored
  have seen : tableOf (s.visible (some x)) = Function.update (tableOf s.committed)
      (.payment paymentId) (some { payment with status := verdict }) := by
    rw [Snapshot.visible_of_pending opened, ← tableOf_insert]
    rfl
  refine Yields.bind (yields_updateMany (covers _ (by trivial))) fun count last given =>
    Yields.pure ?_
  rcases given with ⟨record, found, _, _, rfl⟩ | ⟨missing, _, rfl⟩
  · refine ⟨_, Snapshot.save_pending opened _, fun orderId => ⟨by simp, by simp⟩, rfl, ?_⟩
    rw [Snapshot.visible_save opened, tableOf_insert]
    have found : tableOf (s.visible (some x)) (.providerTransaction paymentId) = some record := found
    rw [seen] at found ⊢
    have found : tableOf s.committed (.providerTransaction paymentId) = some record := by
      simpa using found
    exact eq_settlePayment stored (by simp) (by simp [found]) fun key unpaid unrecorded => by
      simp [unpaid, unrecorded]
  · refine ⟨_, opened, fun orderId => ⟨by simp, by simp⟩, rfl, ?_⟩
    have absent : tableOf (last.visible (some x)) (.providerTransaction paymentId) = none :=
      Option.eq_none_iff_forall_ne_some.mpr fun record found => by simpa using missing record found
    rw [seen] at absent ⊢
    have absent : tableOf last.committed (.providerTransaction paymentId) = none := by
      simpa using absent
    exact eq_settlePayment stored (by simp) (by simp [absent]) fun key unpaid _ => by simp [unpaid]

/-- The rest of the webhook's transaction once the payment has got its status. -/
theorem yields_newsInTx
    (opened : s.pending x = some [⟨.payment paymentId, { payment with status := verdict }⟩])
    (accepted : ∀ before after, tableOf after
      = settleReservation payment.orderId verdict (tableOf before) → e.accepts before after)
    : e.Yields s (do
        PaymentService.updateProviderTransaction (some x) paymentId verdict
        PaymentService.followUp (some x) payment.orderId verdict) fun _ last =>
          (last.pending x).isSome
            ∧ tableOf last.committed
              = settleReservation payment.orderId verdict (tableOf s.committed)
            ∧ tableOf (last.visible (some x))
              = settle payment.orderId paymentId verdict (tableOf s.committed) := by
  refine Yields.bind (yields_updateProviderTransaction covers stored opened)
    fun _ next given => ?_
  obtain ⟨writes, opened, unwritten, same, seen⟩ := given
  refine (yields_followUp covers opened (unwritten _) accepted).mono fun _ last given => ?_
  exact ⟨given.1, same ▸ given.2.1, by rw [given.2.2, seen, settle]⟩

end

-----------------------------------------------------------------------------------------
-- The webhook
-----------------------------------------------------------------------------------------

/-- The event of a provider is about one payment. -/
structure Names (provider : Provider) (event : WebhookEventPayload) (paymentId : Id)
    (payment : Payment) (rows : AList Row) : Prop where
  stored : rows.lookup (.payment paymentId) = some payment
  ofProvider : payment.provider = provider.providerId
  named : ∃ name, event.providerPaymentId = some name
    ∧ (payment.providerPaymentId = some name ∨ payment.reference = name)
    ∧ ∀ found ∈ WebhookService.paymentsNamed provider.providerId name rows, found.1 = paymentId

section

variable {Γ : Protocol World} {t : Tid} {e : Exclusive Γ t} {s : Snapshot} {payment : Payment}
  (covers : ∀ key : Key, key.lasting → e.covers key)
  (accepted : ∀ before after, tableOf after
    = settleReservation payment.orderId verdict (tableOf before) → e.accepts before after)
  (accepted' : ∀ before after, tableOf after
    = settle payment.orderId paymentId verdict (tableOf before) → e.accepts before after)
include covers accepted accepted'

open Exclusive

/-- The transaction of the webhook. -/
theorem yields_applyEventInTx (stored : s.committed.lookup (.payment paymentId) = some payment)
    : e.Yields s (Service.transaction fun tx =>
        WebhookService.applyEventInTx tx paymentId payment verdict) fun _ last =>
          tableOf last.committed
            = settle payment.orderId paymentId verdict (tableOf s.committed) := by
  refine yields_transaction
    (R := fun x _ last => tableOf last.committed
        = settleReservation payment.orderId verdict (tableOf s.committed)
      ∧ tableOf (last.visible (some x))
        = settle payment.orderId paymentId verdict (tableOf s.committed)) (fun x _ _ => ?_)
    (fun x _ last _ given => accepted' _ _ ?_) fun _ _ _ _ given => given.2
  rotate_left
  · rw [given.1, settle_settleReservation]
    exact given.2
  have seen : (s.begin x).visible (some x) = s.committed :=
    Snapshot.visible_of_pending Snapshot.begin_pending
  refine Yields.bind (yields_updateMany (covers _ (by trivial))) fun count next given => ?_
  rw [seen] at given
  obtain ⟨row, same, _, rfl, rfl⟩ | ⟨unchanged, _⟩ := given
  · obtain rfl := Option.some.inj (stored.symm.trans same)
    refine (yields_newsInTx (s := (s.begin x).save (some x)
      [⟨.payment paymentId, { payment with status := verdict }⟩]) covers stored ?_
      accepted).mono fun _ _ given => given.2
    exact Snapshot.save_pending Snapshot.begin_pending _
  · simpa using unchanged payment stored

/-- Step 4 of the webhook, for the payment that the event is about. -/
theorem yields_applyEvent {provider : Provider} {event : WebhookEventPayload}
    (names : Names provider event paymentId payment s.committed)
    (allowed : PaymentStateMachine.canTransition payment.status event.status)
    (reported : event.status = verdict)
    : e.Yields s (WebhookService.applyEvent provider event) fun _ last =>
        tableOf last.committed
          = settle payment.orderId paymentId verdict (tableOf s.committed) := by
  obtain ⟨name, same_name, of_name, only⟩ := names.named
  unfold WebhookService.applyEvent
  rw [same_name]
  have lasting {rows rows' : AList Row} (agree : Agree e.covers rows rows')
      : ∀ value, value ∈ WebhookService.paymentsNamed provider.providerId name rows'
        ↔ value ∈ WebhookService.paymentsNamed provider.providerId name rows := by
    intro value
    obtain ⟨id, found⟩ := value
    rw [mem_paymentsNamed, mem_paymentsNamed, agree _ (covers _ (by trivial))]
  refine Yields.bind (yields_findFirst lasting) fun found last given => ?_
  obtain ⟨rfl, listed, missing⟩ := given
  cases found with
  | none =>
      have there := mem_paymentsNamed.mpr ⟨names.stored, names.ofProvider, of_name⟩
      have empty : WebhookService.paymentsNamed provider.providerId name last.committed = [] :=
        missing rfl
      simp [empty] at there
  | some entry =>
      obtain ⟨id, chosen⟩ := entry
      obtain ⟨shown, _⟩ := mem_paymentsNamed.mp (listed _ rfl)
      obtain rfl : id = paymentId := only _ (listed _ rfl)
      obtain rfl := Option.some.inj (names.stored.symm.trans shown)
      dsimp only
      rw [if_pos allowed, reported]
      exact yields_applyEventInTx covers accepted accepted' names.stored

end

section

variable {t : Tid} {s : Snapshot}

open Exclusive

/-- An INSERT of a program that runs alone: the row is new, or the unique constraint is violated. -/
theorem alone_insert_row {key : Key} {row : Row key} {event : Tid → Event}
    : (Protocol.alone t).Spec t ((exclusiveAlone t).At s) (insert key row event)
        (fun _ world => s.committed.lookup key = none
          ∧ (exclusiveAlone t).At (s.save none [⟨key, row⟩]) world)
        fun error world => error.errorCode = "P1001"
          ∨ (s.committed.lookup key).isSome ∧ (exclusiveAlone t).At s world := by
  refine Protocol.Spec.action (At.stable s) fun world input result after _ here acted _ => ?_
  split at acted
  · obtain ⟨rfl, rfl⟩ := Prod.mk.inj (Option.some.inj acted)
    exact ⟨trivial, fun other => absurd rfl other, Or.inl rfl⟩
  split at acted
  · rename_i taken
    obtain ⟨rfl, rfl⟩ := Prod.mk.inj (Option.some.inj acted)
    rw [here.committed key trivial] at taken
    exact ⟨trivial, fun other => absurd rfl other, Or.inr ⟨taken, here⟩⟩
  · rename_i free
    rw [here.committed key trivial] at free
    obtain ⟨db, granted, same⟩ := Option.map_eq_some_iff.mp acted
    obtain ⟨rfl, rfl⟩ := Prod.mk.inj same
    obtain ⟨_, committed, pending, _⟩ := Server.save_none_eq_some granted
    refine ⟨trivial, fun other => absurd rfl other, by simpa using free, trivial,
      fun _ _ _ _ _ _ => trivial, fun x writes own opened => ?_, fun x opened => ?_,
      fun other _ => ?_, nofun⟩
    · exact here.pending x writes own (pending ▸ opened)
    · exact (Server.save_serial granted).symm ▸ here.old x opened
    · simp only [committed, Snapshot.save, lookup_overlay, here.committed other trivial]

/-- An event is claimed if it comes in for the first time. -/
theorem yields_claimEvent (provider : Provider) (event : WebhookEventPayload)
    : (exclusiveAlone t).Yields s (WebhookService.claimEvent provider event) fun claimed last =>
        (claimed.isSome
            ∧ (s.committed.lookup (.webhookEvent provider.providerId event.eventId)).isSome
            ∧ last = s)
          ∨ (claimed = none
            ∧ s.committed.lookup (.webhookEvent provider.providerId event.eventId) = none
            ∧ ∃ row : WebhookEvent,
              last = s.save none [⟨.webhookEvent provider.providerId event.eventId, row⟩]) := by
  refine Protocol.Spec.tryCatch (Protocol.Spec.bind alone_insert_row fun _ =>
    Protocol.Spec.pure none fun world _ given =>
      ⟨_, given.2, Or.inr ⟨rfl, given.1, _, rfl⟩⟩) fun error => ?_
  refine Protocol.Spec.or (P := fun _ => error.errorCode = "P1001") ?_
    (Protocol.Spec.assume fun taken => ?_)
  · refine Protocol.Spec.of_safe fun world _ code => ?_
    rw [if_neg (by simp [show error.errorCode = "P1001" from code])]
    exact (Protocol.Spec.throw (P := fun _ => True) error fun _ _ _ => trivial).safe trivial trivial
  · split
    · refine Yields.bind (yields_findUnique trivial) fun existing last given => ?_
      obtain ⟨_, rfl⟩ := given
      split
      · exact Yields.pure (Or.inl ⟨rfl, taken, rfl⟩)
      · exact Yields.pure (Or.inl ⟨rfl, taken, rfl⟩)
    · exact Yields.throw

end

/-- A claimed event leaves everything else as it is. -/
theorem Lasting.claimed (rows : AList Row) (provider eventId : String) (row : WebhookEvent)
    : Lasting (tableOf rows) (tableOf (overlay [⟨.webhookEvent provider eventId, row⟩] rows)) :=
  fun _ lasts => AList.lookup_insert_ne fun same => by simp [same, Key.lasting] at lasts

/-- Which payment an event names does not depend on other events. -/
theorem Names.lasting {provider : Provider} {event : WebhookEventPayload} {payment : Payment}
    {rows' : AList Row} (names : Names provider event paymentId payment rows)
    (same : Lasting (tableOf rows) (tableOf rows'))
    : Names provider event paymentId payment rows' := by
  obtain ⟨name, same_name, of_name, only⟩ := names.named
  have kept (id : Id) : rows'.lookup (.payment id) = rows.lookup (.payment id) :=
    same (.payment id) (by trivial)
  refine ⟨(kept _).trans names.stored, names.ofProvider, name, same_name, of_name, ?_⟩
  intro entry listed
  obtain ⟨shown, named⟩ := mem_paymentsNamed.mp listed
  exact only _ (mem_paymentsNamed.mpr ⟨(kept _).symm.trans shown, named⟩)

end LuminaRail
