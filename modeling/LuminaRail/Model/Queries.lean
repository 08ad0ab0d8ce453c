import LuminaRail.Model.World

/-! The queries that look for rows by something else than their key. -/

namespace LuminaRail

open Database

/-- The payments of an order. -/
def paymentsOf (orderId : Id) (rows : AList Row) : List (Id × Payment) :=
  rows.entries.filterMap fun entry =>
    match entry with
    | ⟨.payment id, (payment : Payment)⟩ =>
        if payment.orderId = orderId then some (id, payment) else none
    | _ => none

/-- The refunds of an order. -/
def refundsOf (orderId : Id) (rows : AList Row) : List (Id × Refund) :=
  rows.entries.filterMap fun entry =>
    match entry with
    | ⟨.refund id, (refund : Refund)⟩ =>
        if refund.orderId = orderId then some (id, refund) else none
    | _ => none

/-- A refund in one of these statuses keeps an order from being settled. -/
def RefundStatus.isActive (status : RefundStatus) : Bool :=
  status = .PENDING || status = .PROCESSING || status = .SUCCEEDED

/-- The first refund of an order that is PENDING, PROCESSING or SUCCEEDED. -/
def activeRefund (orderId : Id) (rows : AList Row) : Option Refund :=
  ((refundsOf orderId rows).map Prod.snd).find? fun refund => refund.status.isActive

/-- The reservations with a status. -/
def reservationsIn (status : LiquidityReservationStatus) (rows : AList Row)
    : List (Id × LiquidityReservation) :=
  rows.entries.filterMap fun entry =>
    match entry with
    | ⟨.liquidityReservation orderId, (reservation : LiquidityReservation)⟩ =>
        if reservation.status = status then some (orderId, reservation) else none
    | _ => none

/-- All payments. -/
def allPayments (rows : AList Row) : List (Id × Payment) :=
  rows.entries.filterMap fun entry =>
    match entry with
    | ⟨.payment id, (payment : Payment)⟩ => some (id, payment)
    | _ => none

theorem mem_allPayments {id : Id} {payment : Payment} {rows : AList Row}
    : (id, payment) ∈ allPayments rows ↔ rows.lookup (.payment id) = some payment := by
  rw [allPayments, List.mem_filterMap]
  constructor
  · intro given
    obtain ⟨⟨key, row⟩, present, chosen⟩ := given
    cases key with
    | payment other =>
        obtain ⟨rfl, rfl⟩ := Prod.mk.inj (Option.some.inj chosen)
        exact AList.mem_lookup_iff.mpr present
    | _ => simp at chosen
  · intro stored
    exact ⟨⟨.payment id, payment⟩, AList.mem_lookup_iff.mp stored, rfl⟩

/-- `take` of the rows that come first in an order. -/
def firstBy {α : Type} (key : α → Nat) (count : Nat) (rows : List α) : List α :=
  (rows.mergeSort fun a b => key a ≤ key b).take count

theorem mem_of_mem_firstBy {α : Type} {key : α → Nat} {count : Nat} {rows : List α} {row : α}
    (member : row ∈ firstBy key count rows)
    : row ∈ rows :=
  List.mem_mergeSort.mp (List.mem_of_mem_take member)

/-- The settlements, by their orders. -/
def allSettlements (rows : AList Row) : List (Id × Settlement) :=
  rows.entries.filterMap fun entry =>
    match entry with
    | ⟨.settlement orderId, (settlement : Settlement)⟩ => some (orderId, settlement)
    | _ => none

/-- The orders with a status. -/
def ordersIn (status : OrderStatus) (rows : AList Row) : List (Id × Order) :=
  rows.entries.filterMap fun entry =>
    match entry with
    | ⟨.order id, (order : Order)⟩ => if order.status = status then some (id, order) else none
    | _ => none

theorem mem_allSettlements {orderId : Id} {settlement : Settlement} {rows : AList Row}
    : (orderId, settlement) ∈ allSettlements rows
      ↔ rows.lookup (.settlement orderId) = some settlement := by
  rw [allSettlements, List.mem_filterMap]
  constructor
  · intro given
    obtain ⟨⟨key, row⟩, present, chosen⟩ := given
    cases key with
    | settlement id =>
        obtain ⟨rfl, rfl⟩ := Prod.mk.inj (Option.some.inj chosen)
        exact AList.mem_lookup_iff.mpr present
    | _ => simp at chosen
  · intro stored
    exact ⟨⟨.settlement orderId, settlement⟩, AList.mem_lookup_iff.mp stored, rfl⟩

theorem mem_ordersIn {status : OrderStatus} {id : Id} {order : Order} {rows : AList Row}
    : (id, order) ∈ ordersIn status rows
      ↔ rows.lookup (.order id) = some order ∧ order.status = status := by
  rw [ordersIn, List.mem_filterMap]
  constructor
  · intro given
    obtain ⟨⟨key, row⟩, present, chosen⟩ := given
    cases key with
    | order other =>
        simp only [Option.ite_none_right_eq_some, Option.some.injEq, Prod.mk.injEq] at chosen
        obtain ⟨reached, rfl, rfl⟩ := chosen
        exact ⟨AList.mem_lookup_iff.mpr present, reached⟩
    | _ => simp at chosen
  · intro given
    exact ⟨⟨.order id, order⟩, AList.mem_lookup_iff.mp given.1, by simp [given.2]⟩

theorem mem_paymentsOf {orderId id : Id} {payment : Payment} {rows : AList Row}
    : (id, payment) ∈ paymentsOf orderId rows
      ↔ rows.lookup (.payment id) = some payment ∧ payment.orderId = orderId := by
  rw [paymentsOf, List.mem_filterMap]
  constructor
  · intro given
    obtain ⟨⟨key, row⟩, present, chosen⟩ := given
    cases key with
    | payment other =>
        simp only [Option.ite_none_right_eq_some, Option.some.injEq, Prod.mk.injEq] at chosen
        obtain ⟨of_order, rfl, rfl⟩ := chosen
        exact ⟨AList.mem_lookup_iff.mpr present, of_order⟩
    | _ => simp at chosen
  · intro given
    exact ⟨⟨.payment id, payment⟩, AList.mem_lookup_iff.mp given.1, by simp [given.2]⟩

theorem mem_refundsOf {orderId id : Id} {refund : Refund} {rows : AList Row}
    : (id, refund) ∈ refundsOf orderId rows
      ↔ rows.lookup (.refund id) = some refund ∧ refund.orderId = orderId := by
  rw [refundsOf, List.mem_filterMap]
  constructor
  · intro given
    obtain ⟨⟨key, row⟩, present, chosen⟩ := given
    cases key with
    | refund other =>
        simp only [Option.ite_none_right_eq_some, Option.some.injEq, Prod.mk.injEq] at chosen
        obtain ⟨of_order, rfl, rfl⟩ := chosen
        exact ⟨AList.mem_lookup_iff.mpr present, of_order⟩
    | _ => simp at chosen
  · intro given
    exact ⟨⟨.refund id, refund⟩, AList.mem_lookup_iff.mp given.1, by simp [given.2]⟩

/-- There is no active refund exactly if no refund row of the order is active. -/
theorem activeRefund_eq_none {orderId : Id} {rows : AList Row}
    : activeRefund orderId rows = none
      ↔ ∀ id refund, rows.lookup (.refund id) = some refund → refund.orderId = orderId
        → refund.status.isActive = false := by
  simp only [activeRefund, List.find?_eq_none, List.mem_map, Prod.exists, exists_eq_right]
  constructor
  · intro none_active id refund found of_order
    simpa using none_active refund ⟨id, mem_refundsOf.mpr ⟨found, of_order⟩⟩
  · intro inactive refund given
    obtain ⟨id, member⟩ := given
    obtain ⟨found, of_order⟩ := mem_refundsOf.mp member
    simp [inactive id refund found of_order]

end LuminaRail
