import LuminaRail.Refunds.Outcomes
import LuminaRail.Services.Quiet

/-! A payment that is refunded in parts. The order and the payment become REFUNDED with the first
refund that succeeds, whatever it amounts to, and an order that is REFUNDED cannot be refunded.
-/

namespace LuminaRail

open Concurrency Database Service RefundService

-----------------------------------------------------------------------------------------
-- The rows
-----------------------------------------------------------------------------------------

/-- A refund of the order has succeeded. -/
def SomeSucceeded (orderId : Id) (rows : AList Row) : Prop :=
  ∃ id refund, (id, refund) ∈ refundsOf orderId rows ∧ refund.status = .SUCCEEDED

/-- What the refunds of an order that have succeeded add up to. -/
def succeededAmount (orderId : Id) (rows : AList Row) : Int :=
  (((refundsOf orderId rows).filter fun refund => refund.2.status = .SUCCEEDED).map
    fun refund => refund.2.amount).sum

/-- The settlement of the order, if there is one, does not keep it from being refunded. -/
def Unblocked (orderId : Id) (rows : AList Row) : Prop :=
  ∀ settlement : Settlement, rows.lookup (.settlement orderId) = some settlement
    → blocksRefund settlement.status = false

/-- The status of an order of which a refund has been asked for. -/
def OrderStatus.isRefunding (status : OrderStatus) : Prop :=
  status = .REFUND_PENDING ∨ status = .REFUND_FAILED ∨ status = .REFUNDED

/-- An order and a payment of it, which all refunds of the order are about. -/
structure Refunding (orderId paymentId : Id) (order : Order) (payment : Payment) (rows : AList Row)
    : Prop where
  placed : rows.lookup (.order orderId) = some order
  paid : rows.lookup (.payment paymentId) = some payment
  ofOrder : payment.orderId = orderId
  orderStatus : order.status = .REFUNDED ↔ SomeSucceeded orderId rows
  paymentStatus : payment.status = .REFUNDED ↔ SomeSucceeded orderId rows
  refund : ∀ id refund, (id, refund) ∈ refundsOf orderId rows
    → refund.paymentId = some paymentId ∧ order.status.isRefunding ∧ Unblocked orderId rows

section

variable {orderId paymentId refundId : Id} {order : Order} {payment : Payment} {refund row : Refund}
  {rows after : AList Row}

/-- The rows of the liquidity do not matter. -/
theorem Refunding.agree (refunding : Refunding orderId paymentId order payment rows)
    (agree : LiquidityChanged rows after)
    : Refunding orderId paymentId order payment after := by
  have same (id : Id) (refund : Refund)
      : (id, refund) ∈ refundsOf orderId after ↔ (id, refund) ∈ refundsOf orderId rows := by
    rw [mem_refundsOf, mem_refundsOf, agree (.refund id) (by simp [Key.ofLiquidity])]
  have succeeded : SomeSucceeded orderId after ↔ SomeSucceeded orderId rows := by
    simp only [SomeSucceeded, same]
  refine ⟨?_, ?_, refunding.ofOrder, refunding.orderStatus.trans succeeded.symm,
    refunding.paymentStatus.trans succeeded.symm, fun id refund member => ?_⟩
  · rw [agree _ (by simp [Key.ofLiquidity]), refunding.placed]
  · rw [agree _ (by simp [Key.ofLiquidity]), refunding.paid]
  · obtain ⟨paid, refundable, unblocked⟩ := refunding.refund id refund ((same id refund).mp member)
    refine ⟨paid, refundable, fun settlement found => unblocked settlement ?_⟩
    rw [← found, agree _ (by simp [Key.ofLiquidity])]

/-- The refunds of an order after one of them has been stored. -/
theorem mem_refundsOf_insert {id : Id}
    (stored : after.lookup (.refund id) = (rows.insert (.refund refundId) row).lookup (.refund id))
    : (id, refund) ∈ refundsOf orderId after
      ↔ (id = refundId ∧ refund = row ∧ row.orderId = orderId)
        ∨ (id ≠ refundId ∧ (id, refund) ∈ refundsOf orderId rows) := by
  rw [mem_refundsOf, mem_refundsOf, stored]
  by_cases same : id = refundId
  · subst same
    rw [AList.lookup_insert]
    constructor
    · intro given
      obtain ⟨found, of_order⟩ := given
      obtain rfl := Option.some.inj found
      exact Or.inl ⟨rfl, rfl, of_order⟩
    · intro given
      rcases given with ⟨_, rfl, of_order⟩ | ⟨other, _⟩
      · exact ⟨rfl, of_order⟩
      · exact absurd rfl other
  · rw [AList.lookup_insert_ne (by simpa using same)]
    simp [same]

/-- A refund that has not succeeded is stored, while none of the order has or it is of another
one.
-/
theorem someSucceeded_insert
    (stored : ∀ id : Id,
      after.lookup (.refund id) = (rows.insert (.refund refundId) row).lookup (.refund id))
    (unsettled : row.status ≠ .SUCCEEDED)
    (before : ∀ old, (refundId, old) ∈ refundsOf orderId rows → old.status ≠ .SUCCEEDED)
    : SomeSucceeded orderId after ↔ SomeSucceeded orderId rows := by
  constructor
  · intro given
    obtain ⟨id, refund, member, succeeded⟩ := given
    rcases (mem_refundsOf_insert (stored id)).mp member with ⟨_, rfl, _⟩ | ⟨_, there⟩
    · exact absurd succeeded unsettled
    · exact ⟨id, refund, there, succeeded⟩
  · intro given
    obtain ⟨id, refund, member, succeeded⟩ := given
    refine ⟨id, refund, (mem_refundsOf_insert (stored id)).mpr (Or.inr ⟨fun same => ?_, member⟩),
      succeeded⟩
    subst same
    exact before refund member succeeded

/-- A refund that is not final becomes PROCESSING. -/
theorem Refunding.claimed (refunding : Refunding orderId paymentId order payment rows)
    {new : Refund} (found : rows.lookup (.refund refundId) = some row)
    (unsettled : row.status ≠ .SUCCEEDED) (pending : new.status ≠ .SUCCEEDED)
    (sameOrder : new.orderId = row.orderId) (samePayment : new.paymentId = row.paymentId)
    : Refunding orderId paymentId order payment (rows.insert (.refund refundId) new) := by
  have succeeded : SomeSucceeded orderId (rows.insert (.refund refundId) new)
      ↔ SomeSucceeded orderId rows := by
    refine someSucceeded_insert (fun _ => rfl) pending fun old there => ?_
    obtain ⟨found', _⟩ := mem_refundsOf.mp there
    obtain rfl := Option.some.inj (found.symm.trans found')
    exact unsettled
  refine ⟨?_, ?_, refunding.ofOrder, refunding.orderStatus.trans succeeded.symm,
    refunding.paymentStatus.trans succeeded.symm, fun id refund member => ?_⟩
  · rw [AList.lookup_insert_ne (by simp), refunding.placed]
  · rw [AList.lookup_insert_ne (by simp), refunding.paid]
  · have known : refund.paymentId = some paymentId ∧ order.status.isRefunding
        ∧ Unblocked orderId rows := by
      rcases (mem_refundsOf_insert rfl).mp member with ⟨rfl, rfl, of_order⟩ | ⟨_, there⟩
      · have old := refunding.refund id row
          (mem_refundsOf.mpr ⟨found, sameOrder.symm.trans of_order⟩)
        exact ⟨samePayment.trans old.1, old.2⟩
      · exact refunding.refund id refund there
    refine ⟨known.1, known.2.1, fun settlement found => known.2.2 settlement ?_⟩
    rw [← found, AList.lookup_insert_ne (by simp)]

/-- A refund is asked for. -/
theorem Refunding.requested (refunding : Refunding orderId paymentId order payment rows)
    {key : String} (legal : OrderStateMachine.canTransition order.status .REFUND_PENDING = true)
    (unblocked : Unblocked orderId rows) (new : rows.lookup (.refund refundId) = none)
    (pending : row.status = .PENDING) (ofPayment : row.paymentId = some paymentId)
    : Refunding orderId paymentId { order with status := .REFUND_PENDING } payment
        (((rows.insert (.order orderId) ({ order with status := .REFUND_PENDING } : Order)).insert
          (.refund refundId) row).insert (.refundIdempotencyKey key) refundId) := by
  set after := ((rows.insert (.order orderId) ({ order with status := .REFUND_PENDING } : Order)).insert
    (.refund refundId) row).insert (.refundIdempotencyKey key) refundId with after_eq
  have other (present : Key) (order_other : present ≠ .order orderId)
      (index_other : present ≠ .refundIdempotencyKey key)
      : after.lookup present = (rows.insert (.refund refundId) row).lookup present := by
    rw [after_eq, AList.lookup_insert_ne index_other]
    by_cases same : present = .refund refundId
    · subst same
      rw [AList.lookup_insert, AList.lookup_insert]
    · rw [AList.lookup_insert_ne same, AList.lookup_insert_ne same,
        AList.lookup_insert_ne order_other]
  have stored (id : Id) := other (.refund id) (by simp) (by simp)
  have unrefunded : order.status ≠ .REFUNDED := by
    intro refunded
    rw [refunded] at legal
    exact absurd legal (by decide)
  have none_succeeded : ¬SomeSucceeded orderId after := by
    rw [someSucceeded_insert stored (by simp [pending]) fun old there => ?_]
    · exact fun succeeded => unrefunded (refunding.orderStatus.mpr succeeded)
    · rw [mem_refundsOf, new] at there
      simp at there
  have unpaid : payment.status ≠ .REFUNDED := fun refunded =>
    unrefunded (refunding.orderStatus.mpr (refunding.paymentStatus.mp refunded))
  refine ⟨?_, ?_, refunding.ofOrder, ?_, ?_, fun id refund member => ?_⟩
  · rw [after_eq, AList.lookup_insert_ne (by simp), AList.lookup_insert_ne (by simp),
      AList.lookup_insert]
  · rw [other _ (by simp) (by simp), AList.lookup_insert_ne (by simp), refunding.paid]
  · simp [none_succeeded]
  · simp [none_succeeded, unpaid]
  · refine ⟨?_, Or.inl rfl, fun settlement found => unblocked settlement ?_⟩
    · rcases (mem_refundsOf_insert (stored id)).mp member with ⟨_, rfl, _⟩ | ⟨_, there⟩
      · exact ofPayment
      · exact (refunding.refund id refund there).1
    · rw [← found, other _ (by simp) (by simp), AList.lookup_insert_ne (by simp)]

/-- The final answer to a refund of the order is stored. -/
theorem Refunding.settled (refunding : Refunding orderId paymentId order payment rows)
    {status : RefundStatus} {updated : Refund}
    (answered : status = .SUCCEEDED ∨ status = .FAILED)
    (legal : OrderStateMachine.canTransition order.status status.orderStatus = true)
    (member : (refundId, row) ∈ refundsOf orderId rows) (reached : updated.status = status)
    (sameOrder : updated.orderId = row.orderId) (samePayment : updated.paymentId = row.paymentId)
    : ∃ payment' : Payment, payment'.amount = payment.amount
        ∧ Refunding orderId paymentId { order with status := status.orderStatus } payment'
          (outcomeRows refundId updated (if status = .SUCCEEDED then row.paymentId else none) orderId
            { order with status := status.orderStatus } rows) := by
  obtain ⟨ofPayment, _, unblocked⟩ := refunding.refund refundId row member
  set paidId := if status = .SUCCEEDED then row.paymentId else none with paidId_eq
  set after := outcomeRows refundId updated paidId orderId
    { order with status := status.orderStatus } rows with after_eq
  have ordered : after.lookup (.order orderId)
      = some ({ order with status := status.orderStatus } : Order) := AList.lookup_insert _
  have stored (id : Id) : after.lookup (.refund id)
      = (rows.insert (.refund refundId) updated).lookup (.refund id) :=
    lookup_outcomeRows (by simp) (by simp)
  have refunds : ∀ id refund, (id, refund) ∈ refundsOf orderId after
      → refund.paymentId = some paymentId ∧ status.orderStatus.isRefunding
        ∧ Unblocked orderId after := by
    intro id refund there
    refine ⟨?_, ?_, fun settlement found => unblocked settlement ?_⟩
    · rcases (mem_refundsOf_insert (stored id)).mp there with ⟨_, rfl, _⟩ | ⟨_, before⟩
      · exact samePayment.trans ofPayment
      · exact (refunding.refund id refund before).1
    · rcases answered with rfl | rfl
      · exact Or.inr (Or.inr rfl)
      · exact Or.inr (Or.inl rfl)
    · rw [← found, after_eq, lookup_outcomeRows (by simp) (by simp), AList.lookup_insert_ne (by simp)]
  rcases answered with rfl | rfl
  · have succeeded : SomeSucceeded orderId after := by
      refine ⟨refundId, updated, (mem_refundsOf_insert (stored refundId)).mpr (Or.inl ⟨rfl, rfl, ?_⟩),
        reached⟩
      exact sameOrder.trans (mem_refundsOf.mp member).2
    refine ⟨{ payment with status := .REFUNDED }, rfl, ordered, ?_, refunding.ofOrder,
      by simp [succeeded, RefundStatus.orderStatus], by simp [succeeded], refunds⟩
    have there : (rows.insert (.refund refundId) updated).lookup (.payment paymentId)
        = some payment := by
      rw [AList.lookup_insert_ne (by simp), refunding.paid]
    have marked : paidId = some paymentId := ofPayment
    rw [after_eq, outcomeRows, AList.lookup_insert_ne (by simp), marked]
    simp only [refundPayment, there]
    exact AList.lookup_insert _
  · have unrefunded : order.status ≠ .REFUNDED := by
      intro refunded
      rw [refunded] at legal
      exact absurd legal (by decide)
    have none_before : ¬SomeSucceeded orderId rows := fun succeeded =>
      unrefunded (refunding.orderStatus.mpr succeeded)
    have none_succeeded : ¬SomeSucceeded orderId after := by
      rw [someSucceeded_insert stored (by simp [reached]) fun old there succeeded => ?_]
      · exact none_before
      · exact none_before ⟨refundId, old, there, succeeded⟩
    refine ⟨payment, rfl, ordered, ?_, refunding.ofOrder,
      by simp [none_succeeded, RefundStatus.orderStatus], ?_, refunds⟩
    · rw [after_eq, outcomeRows, AList.lookup_insert_ne (by simp)]
      exact (AList.lookup_insert_ne (by simp)).trans refunding.paid
    · exact refunding.paymentStatus.trans ⟨fun succeeded => absurd succeeded none_before,
        fun succeeded => absurd succeeded none_succeeded⟩

end

/-- The order and the payment are there, and the refunds of the order are all about the payment. -/
def RefundedInParts (orderId paymentId : Id) (captured : Int) (rows : AList Row) : Prop :=
  ∃ order payment, payment.amount = captured ∧ Refunding orderId paymentId order payment rows

-----------------------------------------------------------------------------------------
-- Execution
-----------------------------------------------------------------------------------------

section

variable {t : Tid} {s : Snapshot} {orderId paymentId refundId : Id} {captured : Int}
  {refund : Refund}

theorem ends_settleInParts {response : NormalizedRefundResponse} {order : Order}
    {payment : Payment}
    (refunding : Refunding orderId paymentId order payment s.committed)
    (amount : payment.amount = captured)
    (member : (refundId, refund) ∈ refundsOf orderId s.committed)
    (processing : refund.status = .PROCESSING)
    : Ends t s (settleRefund refundId refund order response)
        (fun _ last => RefundedInParts orderId paymentId captured last.committed)
        fun _ last => RefundedInParts orderId paymentId captured last.committed := by
  obtain ⟨found, of_order⟩ := mem_refundsOf.mp member
  have before : RefundedInParts orderId paymentId captured s.committed :=
    ⟨order, payment, amount, refunding⟩
  by_cases answered : response.status = .SUCCEEDED ∨ response.status = .FAILED
  · have settled {last : Snapshot}
        (legal : OrderStateMachine.canTransition order.status response.status.orderStatus = true)
        (settled : Settled s refundId refund refund order response.status last)
        : RefundedInParts orderId paymentId captured last.committed := by
      obtain ⟨updated, agree, reached, sameOrder, samePayment, _⟩ := settled
      obtain ⟨payment', same, after⟩ :=
        refunding.settled answered legal member reached sameOrder samePayment
      rw [of_order] at agree
      exact ⟨_, payment', same.trans amount, after.agree agree⟩
    refine (ends_settleRefund answered found (fun id paid => ?_)
      (of_order ▸ refunding.placed)).mono
      (fun _ last given => settled given.1 given.2) fun error last given => ?_
    · obtain rfl := Option.some.inj ((refunding.refund refundId refund member).1.symm.trans paid)
      simp [refunding.paid]
    · rcases given with refused | ⟨legal, stored⟩
      · exact refused.1 ▸ before
      · exact settled legal stored
  · have ambiguous : settleRefund refundId refund order response
        = update none (.refund refundId) fun row : Refund =>
          { row with
            status := .PROCESSING
            failureReason :=
              some ((truthy response.failureReason).getD "Ambiguous provider network response")
            metadata := some
              { ambiguousResponse := true
                ambiguousNetworkFailure := response.ambiguousNetworkFailure } } := by
      unfold settleRefund
      cases status : response.status with
      | SUCCEEDED => exact absurd (Or.inl status) answered
      | FAILED => exact absurd (Or.inr status) answered
      | _ => rfl
    rw [ambiguous]
    refine (Ends.updateNow found).mono (fun _ last given => ?_) fun _ _ given => given.2 ▸ before
    obtain ⟨_, rfl⟩ := given
    exact ⟨order, payment, amount,
      refunding.claimed found (by simp [processing]) (by simp) rfl rfl⟩

theorem ends_executeClaimedInParts (config : Config) (lock : Option DistributedLock)
    (parts : RefundedInParts orderId paymentId captured s.committed)
    (member : (refundId, refund) ∈ refundsOf orderId s.committed)
    (processing : refund.status = .PROCESSING)
    : Ends t s (executeClaimedRefund config refundId lock)
        (fun _ last => RefundedInParts orderId paymentId captured last.committed)
        fun _ last => RefundedInParts orderId paymentId captured last.committed := by
  obtain ⟨order, payment, amount, refunding⟩ := parts
  obtain ⟨found, of_order⟩ := mem_refundsOf.mp member
  have ofPayment := (refunding.refund refundId refund member).1
  have before : RefundedInParts orderId paymentId captured s.committed :=
    ⟨order, payment, amount, refunding⟩
  refine Ends.read (Ends.findUniqueOrThrow found) (fun _ _ => before) fun _ same => ?_
  subst same
  refine Ends.read (Ends.findUniqueOrThrow (of_order ▸ refunding.placed)) (fun _ _ => before)
    fun _ same => ?_
  subst same
  rw [paymentOf, ofPayment]
  refine Ends.read Ends.findUnique (fun _ _ => before) fun _ _ => ?_
  refine Ends.stay (stays_get config _) (fun _ => before) fun provider => ?_
  refine Ends.stay (stays_throwIfLost lock _) (fun _ => before) fun _ => ?_
  refine Ends.stay (stays_processRefund config provider _) (fun _ => before) fun response => ?_
  exact ends_settleInParts refunding amount member processing

theorem ends_executeLockedInParts (config : Config) (lock : Option DistributedLock)
    (parts : RefundedInParts orderId paymentId captured s.committed)
    (member : (refundId, refund) ∈ refundsOf orderId s.committed)
    : Ends t s (executeRefundLocked config refundId lock)
        (fun _ last => RefundedInParts orderId paymentId captured last.committed)
        fun _ last => RefundedInParts orderId paymentId captured last.committed := by
  obtain ⟨found, of_order⟩ := mem_refundsOf.mp member
  refine Ends.read Ends.findUnique (fun _ _ => parts) fun _ same => ?_
  rw [show _ = some refund from same.trans found]
  dsimp only
  split
  · exact Ends.pure parts
  · rename_i unfinished
    split
    · exact Ends.pure parts
    · refine Ends.stay (stays_throwIfLost lock _) (fun _ => parts) fun _ => ?_
      refine Ends.stay stays_throwIf (fun _ => parts) fun _ => ?_
      refine Ends.bind (Ends.claim.mono (fun _ _ given => given) fun _ _ given => given.2 ▸ parts)
        fun count next given => ?_
      rcases given with ⟨row, there, _, rfl, rfl⟩ | ⟨rfl, rfl⟩
      · obtain rfl := Option.some.inj (found.symm.trans there)
        obtain ⟨order, payment, amount, refunding⟩ := parts
        have unsettled : refund.status ≠ .SUCCEEDED := by
          intro succeeded
          simp [RefundStateMachine.isTerminal, succeeded] at unfinished
        have processing : (refundId, { refund with status := .PROCESSING })
            ∈ refundsOf orderId (s.committed.insert (.refund refundId)
              ({ refund with status := .PROCESSING } : Refund)) :=
          mem_refundsOf.mpr ⟨AList.lookup_insert _, of_order⟩
        exact ends_executeClaimedInParts config lock
          ⟨order, payment, amount, refunding.claimed found unsettled (by simp) rfl rfl⟩ processing rfl
      · exact (Ends.findUniqueOrThrow found).mono (fun _ _ given => given.2 ▸ parts)
          fun _ _ given => given.2 ▸ parts

/-- However the execution of a refund of the order ends, the refunds stay as they should be. -/
theorem ends_executeInParts (config : Config)
    (parts : RefundedInParts orderId paymentId captured s.committed)
    (member : (refundId, refund) ∈ refundsOf orderId s.committed)
    : Ends t s (executeRefund config refundId)
        (fun _ last => RefundedInParts orderId paymentId captured last.committed)
        fun _ last => RefundedInParts orderId paymentId captured last.committed := by
  refine Ends.stay (stays_acquire config _) (fun _ => parts) fun lock => ?_
  exact Ends.finally' (ends_executeLockedInParts config lock parts member)
    (fun _ => stays_release lock) id id id

end

-----------------------------------------------------------------------------------------
-- Requests
-----------------------------------------------------------------------------------------

/-- The request is about the payment: it names it, or the order has no other one. -/
def CreateRefundInput.Targets (input : CreateRefundInput) (paymentId : Id) (rows : AList Row)
    : Prop :=
  truthy input.paymentId = some paymentId
    ∨ truthy input.paymentId = none ∧ ∀ payment ∈ paymentsOf input.orderId rows, payment.1 = paymentId

/-- If the request names an amount, it is this one. -/
def CreateRefundInput.Asks (input : CreateRefundInput) (units : Int) : Prop :=
  match input.amount with
  | none => True
  | some (.finite amount) => amount.units * 10 ^ 4 = units * 10 ^ amount.scale
  | some _ => False

/-- The key that the refund is stored under. -/
def CreateRefundInput.key (input : CreateRefundInput) (header : Option String) (time : Nat)
    : String :=
  (truthy ((truthy input.idempotencyKey).or header)).getD s!"REF_KEY_{input.orderId}_{time}"

/-- The request is answered with a new refund of this amount, unless the database is not available
or the identifier of the refund is taken.
-/
def Accepted (units : Int) (result : Except AppError (Id × Refund × Bool)) : Prop :=
  match result with
  | .ok (_, refund, duplicate) =>
      duplicate = false ∧ refund.amount = units ∧ refund.status = .PENDING
  | .error error => error.Unavailable ∨ error = .uniqueConstraint

/-- An administrator asks, under a new key, for the whole of a payment of which nothing is refunded. -/
structure AsksForAll (isAdmin : Bool) (input : CreateRefundInput) (header : Option String)
    (order : Order) (captured : Int) (rows : AList Row) : Prop where
  admin : isAdmin = true
  asks : input.Asks captured
  fresh : ∀ time, rows.lookup (.refundIdempotencyKey (input.key header time)) = none
  refunding : order.status.isRefunding
  unrefunded : order.status ≠ .REFUNDED
  unblocked : Unblocked input.orderId rows
  inactive : ∀ id refund, (id, refund) ∈ refundsOf input.orderId rows
    → refund.status.isActive = false
  positive : 0 < captured
  fits : captured < 10 ^ 18

section

variable {t : Tid} {s next : Snapshot} {x : TxId} {paymentId : Id} {captured : Int}
  {input : CreateRefundInput} {order : Order} {payment : Payment} {rows rows' : AList Row}

/-- A payment of the order that is known. -/
theorem mem_paymentsOf_agree (agree : Agree (fun _ => True) rows rows')
    (paid : rows.lookup (.payment paymentId) = some payment) {listed : Id × Payment}
    : listed ∈ paymentsOf input.orderId rows'
      ↔ listed ∈ paymentsOf input.orderId rows
        ∧ (listed.1 = paymentId → listed = (paymentId, payment)) := by
  obtain ⟨id, row⟩ := listed
  rw [mem_paymentsOf, mem_paymentsOf, agree _ trivial]
  refine ⟨fun given => ⟨given, fun same => ?_⟩, fun given => given.1⟩
  obtain rfl : id = paymentId := same
  rw [Option.some.inj (given.1.symm.trans paid)]

/-- The payment that the request names is chosen. -/
theorem named_payment (agree : Agree (fun _ => True) rows rows')
    (paid : rows.lookup (.payment paymentId) = some payment)
    (of_order : payment.orderId = input.orderId)
    : (paymentsOf input.orderId rows').find? (fun payment => payment.1 = paymentId)
      = some (paymentId, payment) := by
  have listed : (paymentId, payment) ∈ paymentsOf input.orderId rows' :=
    mem_paymentsOf.mpr ⟨(agree _ trivial).trans paid, of_order⟩
  obtain ⟨found, chosen⟩ : ∃ found, (paymentsOf input.orderId rows').find?
      (fun payment => payment.1 = paymentId) = some found := by
    refine Option.isSome_iff_exists.mp (List.find?_isSome.mpr ⟨_, listed, by simp⟩)
  have member := List.mem_of_find?_eq_some chosen
  have named : found.1 = paymentId := by simpa using List.find?_some chosen
  rw [chosen, ((mem_paymentsOf_agree agree paid).mp member).2 named]

/-- The only payment is chosen. -/
theorem only_payment (agree : Agree (fun _ => True) rows rows')
    (paid : rows.lookup (.payment paymentId) = some payment)
    (of_order : payment.orderId = input.orderId)
    (only : ∀ payment ∈ paymentsOf input.orderId rows, payment.1 = paymentId)
    : ((paymentsOf input.orderId rows').find? fun payment => payment.2.status = .SUCCEEDED).or
        (paymentsOf input.orderId rows').head?
      = some (paymentId, payment) := by
  have listed : (paymentId, payment) ∈ paymentsOf input.orderId rows' :=
    mem_paymentsOf.mpr ⟨(agree _ trivial).trans paid, of_order⟩
  have same (found : Id × Payment) (member : found ∈ paymentsOf input.orderId rows')
      : found = (paymentId, payment) := by
    obtain ⟨there, named⟩ := (mem_paymentsOf_agree agree paid).mp member
    exact named (only found there)
  cases chosen : (paymentsOf input.orderId rows').find? fun payment =>
      payment.2.status = .SUCCEEDED with
  | some found => simp [same found (List.mem_of_find?_eq_some chosen)]
  | none =>
      rw [Option.none_or, List.head?_eq_some_head (List.ne_nil_of_mem listed)]
      exact congrArg some (same _ (List.head_mem _))

/-- A request that asks for what remains is for this amount. -/
theorem ends_requestedAmount {units : Int} {F : AppError → Snapshot → Prop}
    (throws : ∀ error, ¬input.Asks units → F error s)
    : Ends t s (requestedAmount input (money units)) (fun amount last =>
        (input.Asks units → amount.units * 10 ^ 4 = units * 10 ^ amount.scale) ∧ last = s) F := by
  unfold requestedAmount CreateRefundInput.Asks at *
  split
  · exact Ends.pure ⟨fun _ => rfl, rfl⟩
  · rename_i amount given
    exact Ends.pure ⟨fun asks => by simpa [given] using asks, rfl⟩
  · rename_i text given
    exact Ends.throw (throws _ (by simp [given]))
  · rename_i given
    exact Ends.throw (throws _ (by simp [given]))

/-- The request is refused, and nothing will be committed. -/
def Declined (welcome : Prop) (s : Snapshot) (x : TxId) (error : AppError) (last : Snapshot)
    : Prop :=
  Drafting s x last ∧ (welcome → error.Unavailable ∨ error = .uniqueConstraint)

/-- What a request has written in its transaction. -/
def Requested (welcome : Prop) (s : Snapshot) (orderId paymentId : Id) (captured : Int) (x : TxId)
    (value : Id × Refund × Bool) (last : Snapshot) : Prop :=
  ∃ rows, Drafts s x rows last ∧ RefundedInParts orderId paymentId captured rows
    ∧ (welcome → Accepted captured (.ok value))

theorem ends_insertInParts {isAdmin : Bool} {header : Option String} {generatedKey : String}
    (userId : Id) (drafts : Drafts s x s.committed next)
    (refunding : Refunding input.orderId paymentId order payment s.committed)
    (amount : payment.amount = captured) (unblocked : Unblocked input.orderId s.committed)
    : Ends t next (insertRefund x userId input order paymentId payment generatedKey)
        (Requested (AsksForAll isAdmin input header order captured s.committed) s input.orderId
          paymentId captured x)
        (Declined (AsksForAll isAdmin input header order captured s.committed) s x) := by
  have lost (error : AppError) (lost : error.Unavailable)
      : Declined (AsksForAll isAdmin input header order captured s.committed) s x error next :=
    ⟨⟨_, drafts⟩, fun _ => Or.inl lost⟩
  have refused {bad : Prop} (error : AppError) (given : bad)
      (welcome : AsksForAll isAdmin input header order captured s.committed → ¬bad)
      : Declined (AsksForAll isAdmin input header order captured s.committed) s x error next :=
    ⟨⟨_, drafts⟩, fun asks => absurd given (welcome asks)⟩
  refine Ends.read drafts.select lost fun existing given => ?_
  obtain ⟨rows', agree, rfl⟩ := given
  set existing := (refundsOf input.orderId rows').filter fun refund => refund.2.status.isActive
  have nothing (asks : AsksForAll isAdmin input header order captured s.committed)
      : (existing.map fun refund => refund.2.amount).sum = 0 := by
    have none_active : existing = [] := by
      refine List.filter_eq_nil_iff.mpr fun refund member => ?_
      obtain ⟨found, of_order⟩ := mem_refundsOf.mp member
      have there := mem_refundsOf.mpr ⟨(agree _ trivial).symm.trans found, of_order⟩
      simp [asks.inactive _ _ there]
    simp [none_active]
  set total := (existing.map fun refund => refund.2.amount).sum
  refine Ends.guard (fun bad => refused _ bad fun asks => ?_) fun some_left => ?_
  · rw [nothing asks, amount]
    have positive := asks.positive
    omega
  refine Ends.bind (ends_requestedAmount fun error unasked => refused error unasked fun asks => ?_)
    fun asked last given => ?_
  · rw [nothing asks, amount, Int.sub_zero]
    exact not_not.mpr asks.asks
  obtain ⟨exact, rfl⟩ := given
  have remaining (asks : AsksForAll isAdmin input header order captured s.committed)
      : 0 < asked.units ∧ ¬((money total).plus asked).gt (money payment.amount)
        ∧ asked.stored 4 = captured := by
    have left : payment.amount - total = captured := by
      rw [nothing asks, amount, Int.sub_zero]
    have written := exact (left ▸ asks.asks)
    rw [left] at written
    have fits := asks.fits
    have exact := Decimal.remaining_exact (le_of_eq (nothing asks).symm) asks.positive
      (by rw [nothing asks]; omega) written
    rwa [show total + captured = payment.amount by omega] at exact
  refine Ends.guard (fun bad => refused _ bad fun asks => ?_) fun _ => ?_
  · exact not_le.mpr (remaining asks).1
  refine Ends.guard (fun bad => refused _ bad fun asks => (remaining asks).2.1) fun _ => ?_
  refine Ends.guard (fun bad => refused _ bad fun asks => ?_) fun legal => ?_
  · rcases asks.refunding with status | status | status
    · simp [status, OrderStateMachine.canTransition]
    · simp [status, OrderStateMachine.canTransition, OrderStateMachine.allowedTransitions]
    · exact absurd status asks.unrefunded
  have legal : OrderStateMachine.canTransition order.status .REFUND_PENDING = true := by
    simpa using legal
  refine Ends.bind ((drafts.update refunding.placed).mono (fun _ _ given => given)
    fun error last given => (drafts.interrupted given).imp_right fun lost _ => Or.inl lost)
    fun _ last given => ?_
  have drafts := given.2
  refine Ends.bind Ends.randomText fun id last' same => ?_
  subst same
  refine Ends.bind Ends.now fun time last' same => ?_
  subst same
  refine Ends.bind (drafts.create.mono (fun _ _ given => given) fun error last given => ?_)
    fun refund last given => ?_
  · exact ⟨⟨_, given.2 ▸ drafts⟩, fun _ => given.1⟩
  obtain ⟨rfl, drafts, new⟩ := given
  have absent : s.committed.lookup (.refund id) = none := by
    have absent := new ⟨.refund id, _⟩ (List.mem_cons_self ..)
    rwa [AList.lookup_insert_ne (by simp)] at absent
  refine Ends.pure ⟨_, drafts, ⟨{ order with status := .REFUND_PENDING }, payment, amount,
    refunding.requested legal unblocked absent ?_ ?_⟩, fun asks => ⟨rfl, (remaining asks).2.2, rfl⟩⟩
  · rfl
  · rfl

theorem ends_createInPartsTx {isAdmin : Bool} {header : Option String} (userId : Id)
    (drafts : Drafts s x s.committed next)
    (refunding : Refunding input.orderId paymentId order payment s.committed)
    (amount : payment.amount = captured) (targets : input.Targets paymentId s.committed)
    : Ends t next (createRefundInTx x userId input isAdmin
        ((truthy input.idempotencyKey).or header))
        (Requested (AsksForAll isAdmin input header order captured s.committed) s input.orderId
          paymentId captured x)
        (Declined (AsksForAll isAdmin input header order captured s.committed) s x) := by
  have lost (error : AppError) (lost : error.Unavailable)
      : Declined (AsksForAll isAdmin input header order captured s.committed) s x error next :=
    ⟨⟨_, drafts⟩, fun _ => Or.inl lost⟩
  have refused {bad : Prop} (error : AppError) (given : bad)
      (welcome : AsksForAll isAdmin input header order captured s.committed → ¬bad)
      : Declined (AsksForAll isAdmin input header order captured s.committed) s x error next :=
    ⟨⟨_, drafts⟩, fun asks => absurd given (welcome asks)⟩
  refine Ends.bind (Ends.selectForUpdate.mono (fun _ _ same => same)
    fun error last given => given.2 ▸ lost error given.1) fun _ last same => ?_
  subst same
  refine Ends.read drafts.findUnique lost fun found same => ?_
  obtain rfl := same.trans refunding.placed
  dsimp only
  refine Ends.read drafts.select lost fun payments given => ?_
  obtain ⟨rows', agree, rfl⟩ := given
  refine Ends.read drafts.findUnique lost fun settlement same => ?_
  refine Ends.guard (fun bad => refused _ bad fun asks => ?_) fun _ => ?_
  · simp [asks.admin]
  refine Ends.guard (fun bad => refused _ bad fun asks => ?_) fun _ => ?_
  · simp [asks.admin]
  refine Ends.guard (fun bad => refused _ bad fun asks => ?_) fun _ => ?_
  · rcases asks.refunding with status | status | status
    · simp [status]
    · simp [status]
    · simp [status]
  split
  · rename_i active blocking
    obtain ⟨there, blocks⟩ := Option.filter_eq_some_iff.mp blocking
    refine Ends.throw (refused _ blocks fun asks => ?_)
    simp [asks.unblocked active (same.symm.trans there)]
  rename_i unblocking
  have unblocked : Unblocked input.orderId s.committed := by
    intro active there
    have kept := Option.filter_eq_none_iff.mp unblocking active (same.trans there)
    simpa using kept
  rcases targets with named | ⟨unnamed, only⟩
  case' inl => simp only [named, named_payment agree refunding.paid refunding.ofOrder]
  case' inr => simp only [unnamed, only_payment agree refunding.paid refunding.ofOrder only]
  all_goals
    refine Ends.bind Ends.now fun time last' same => ?_
    subst same
    refine Ends.read drafts.select lost fun existing given => ?_
    obtain ⟨rows'', agree', rfl⟩ := given
    cases known : refundByKey (input.key header time) rows'' with
    | none => exact known ▸ ends_insertInParts userId drafts refunding amount unblocked
    | some existing =>
        have taken : rows''.lookup (.refundIdempotencyKey (input.key header time)) ≠ none := by
          intro free
          simp [refundByKey, free] at known
        have used (asks : AsksForAll isAdmin input header order captured s.committed) : False :=
          taken ((agree' _ trivial).trans (asks.fresh time))
        refine known ▸ Ends.guard (fun bad => refused _ bad fun asks => (used asks).elim) fun _ => ?_
        exact Ends.pure ⟨_, drafts, ⟨order, payment, amount, refunding⟩, fun asks => (used asks).elim⟩

/-- However a request about the payment ends, the refunds stay as they should be; an administrator
who asks for all of it is not refused.
-/
theorem ends_createInParts {isAdmin : Bool} {header : Option String} (userId : Id)
    (refunding : Refunding input.orderId paymentId order payment s.committed)
    (amount : payment.amount = captured) (targets : input.Targets paymentId s.committed)
    : Ends t s (createRefund userId input isAdmin header)
        (fun value last => RefundedInParts input.orderId paymentId captured last.committed
          ∧ (AsksForAll isAdmin input header order captured s.committed
            → Accepted captured (.ok value)))
        fun error last => RefundedInParts input.orderId paymentId captured last.committed
          ∧ (AsksForAll isAdmin input header order captured s.committed
            → Accepted captured (.error error)) := by
  have before : RefundedInParts input.orderId paymentId captured s.committed :=
    ⟨order, payment, amount, refunding⟩
  have ended := Ends.drafted
    (W := fun value rows => RefundedInParts input.orderId paymentId captured rows
      ∧ (AsksForAll isAdmin input header order captured s.committed → Accepted captured (.ok value)))
    (E := fun error => AsksForAll isAdmin input header order captured s.committed
      → error.Unavailable ∨ error = .uniqueConstraint)
    (fun x _ => ends_createInPartsTx (t := t) userId (Drafts.begin s x) refunding amount targets)
    fun _ lost _ => Or.inl lost
  exact ended.mono (fun _ _ given => given.2) fun _ _ given => ⟨given.1 ▸ before, given.2⟩

end

-----------------------------------------------------------------------------------------
-- Histories
-----------------------------------------------------------------------------------------

/-- A payment is refunded in parts: requests about it and executions of the refunds of its order
follow each other in any way, and whatever else happens in between leaves the database alone.
-/
inductive RefundHistory (config : Config) (orderId paymentId : Id) (before : World) : World → Prop
  | start : RefundHistory config orderId paymentId before before
  | waited {world after : World} (history : RefundHistory config orderId paymentId before world)
    (same : after.db = world.db)
    : RefundHistory config orderId paymentId before after
  | asked {world after : World} {t : Tid} {userId : Id} {input : CreateRefundInput} {isAdmin : Bool}
    {header : Option String} {result : Except AppError (Id × Refund × Bool)}
    (history : RefundHistory config orderId paymentId before world)
    (of_order : input.orderId = orderId) (targets : input.Targets paymentId world.db.committed)
    (ran : Program.Alone t (createRefund userId input isAdmin header).run world result after)
    : RefundHistory config orderId paymentId before after
  | executed {world after : World} {t : Tid} {refundId : Id} {refund : Refund}
    {result : Except AppError Refund}
    (history : RefundHistory config orderId paymentId before world)
    (member : (refundId, refund) ∈ refundsOf orderId world.db.committed)
    (ran : Program.Alone t (executeRefund config refundId).run world result after)
    : RefundHistory config orderId paymentId before after

/-- Nothing of the captured amount has been refunded or asked for. -/
structure NothingRefunded (orderId paymentId : Id) (captured : Int) (rows : AList Row) : Prop where
  order : ∃ order : Order, rows.lookup (.order orderId) = some order ∧ order.status ≠ .REFUNDED
  payment : ∃ payment : Payment, rows.lookup (.payment paymentId) = some payment
    ∧ payment.orderId = orderId ∧ payment.amount = captured ∧ payment.status ≠ .REFUNDED
  refunds : refundsOf orderId rows = []

/-- The order and the payment are REFUNDED exactly if the refunds that have succeeded add up to the
captured amount, and as long as they add up to less, an administrator may ask for the remainder.
-/
structure SettlesExactly (orderId paymentId : Id) (captured : Int) (world : World) : Prop where
  order : ∀ order : Order, world.db.committed.lookup (.order orderId) = some order
    → (order.status = .REFUNDED ↔ succeededAmount orderId world.db.committed = captured)
  payment : ∀ payment : Payment, world.db.committed.lookup (.payment paymentId) = some payment
    → (payment.status = .REFUNDED ↔ succeededAmount orderId world.db.committed = captured)
  remainder : succeededAmount orderId world.db.committed < captured
    → ∀ {t : Tid} {userId : Id} {input : CreateRefundInput} {header : Option String}
        {result : Except AppError (Id × Refund × Bool)} {after : World},
      input.orderId = orderId → input.Targets paymentId world.db.committed
      → input.Asks (captured - succeededAmount orderId world.db.committed)
      → (∀ time, world.db.committed.lookup (.refundIdempotencyKey (input.key header time)) = none)
      → Program.Alone t (createRefund userId input true header).run world result after
      → Accepted (captured - succeededAmount orderId world.db.committed) result

section

variable {config : Config} {orderId paymentId : Id} {captured : Int} {before world : World}

theorem NothingRefunded.parts
    (unrefunded : NothingRefunded orderId paymentId captured before.db.committed)
    : RefundedInParts orderId paymentId captured before.db.committed := by
  obtain ⟨⟨order, placed, order_open⟩, ⟨payment, paid, of_order, amount, payment_open⟩, nothing⟩ :=
    unrefunded
  have none_succeeded : ¬SomeSucceeded orderId before.db.committed := by
    intro given
    obtain ⟨id, refund, member, _⟩ := given
    simp [nothing] at member
  refine ⟨order, payment, amount, placed, paid, of_order, by simp [order_open, none_succeeded],
    by simp [payment_open, none_succeeded], fun id refund member => ?_⟩
  simp [nothing] at member

theorem RefundedInParts.agree {rows after : AList Row}
    (parts : RefundedInParts orderId paymentId captured rows)
    (agree : Agree (fun _ => True) rows after)
    : RefundedInParts orderId paymentId captured after := by
  obtain ⟨order, payment, amount, refunding⟩ := parts
  exact ⟨order, payment, amount, refunding.agree fun key _ => agree key trivial⟩

/-- The refunds stay as they should be, by induction on the history. -/
theorem RefundHistory.parts (history : RefundHistory config orderId paymentId before world)
    (unrefunded : NothingRefunded orderId paymentId captured before.db.committed)
    : RefundedInParts orderId paymentId captured world.db.committed := by
  induction history with
  | start => exact unrefunded.parts
  | waited _ same ih => exact same ▸ ih
  | @asked world after t userId input isAdmin header result _ of_order targets ran ih =>
      subst of_order
      obtain ⟨order, payment, amount, refunding⟩ := ih
      obtain ⟨last, here, ended⟩ :=
        Ends.alone (ends_createInParts _ refunding amount targets) ran
      have parts : RefundedInParts input.orderId paymentId captured last.committed := by
        cases result with
        | ok value => exact ended.1
        | error error => exact ended.1
      exact parts.agree here.committed
  | @executed world after t refundId refund result _ member ran ih =>
      obtain ⟨last, here, ended⟩ := Ends.alone (ends_executeInParts config ih member) ran
      have parts : RefundedInParts orderId paymentId captured last.committed := by
        cases result with
        | ok value => exact ended
        | error error => exact ended
      exact parts.agree here.committed

/-- The remainder may be asked for as long as no refund has succeeded and none is under way. -/
theorem RefundedInParts.remainder
    (parts : RefundedInParts orderId paymentId captured world.db.committed)
    (positive : 0 < captured) (fits : captured < 10 ^ 18)
    (asked : refundsOf orderId world.db.committed ≠ [])
    (inactive : ∀ id refund, (id, refund) ∈ refundsOf orderId world.db.committed
      → refund.status.isActive = false)
    {t : Tid} {userId : Id} {input : CreateRefundInput} {header : Option String}
    {result : Except AppError (Id × Refund × Bool)} {after : World}
    (of_order : input.orderId = orderId)
    (targets : input.Targets paymentId world.db.committed) (asks : input.Asks captured)
    (fresh : ∀ time,
      world.db.committed.lookup (.refundIdempotencyKey (input.key header time)) = none)
    (ran : Program.Alone t (createRefund userId input true header).run world result after)
    : Accepted captured result := by
  subst of_order
  obtain ⟨order, payment, amount, refunding⟩ := parts
  obtain ⟨⟨id, refund⟩, member⟩ := List.exists_mem_of_ne_nil _ asked
  obtain ⟨_, refundable, unblocked⟩ := refunding.refund id refund member
  have unrefunded : order.status ≠ .REFUNDED := by
    intro refunded
    obtain ⟨id, refund, member, succeeded⟩ := refunding.orderStatus.mp refunded
    simpa [RefundStatus.isActive, succeeded] using inactive id refund member
  have welcome : AsksForAll true input header order captured world.db.committed :=
    ⟨rfl, asks, fresh, refundable, unrefunded, unblocked, inactive, positive, fits⟩
  obtain ⟨last, _, ended⟩ := Ends.alone (ends_createInParts userId refunding amount targets) ran
  cases result with
  | ok value => exact ended.2 welcome
  | error error => exact ended.2 welcome

theorem succeededAmount_eq_zero {rows : AList Row} (none_succeeded : ¬SomeSucceeded orderId rows)
    : succeededAmount orderId rows = 0 := by
  have nothing : (refundsOf orderId rows).filter (fun refund => refund.2.status = .SUCCEEDED)
      = [] := by
    refine List.filter_eq_nil_iff.mpr fun refund member succeeded => ?_
    exact none_succeeded ⟨refund.1, refund.2, member, by simpa using succeeded⟩
  rw [succeededAmount, nothing]
  rfl

end

/-- Once refunds have been asked for and none is under way, the payment is settled exactly if
none of them has succeeded, or if those that have make up the whole captured amount. By the
invariant on the amounts, by induction over the history.
-/
theorem partial_refunds_settle_iff {config : Config} {orderId paymentId : Id} {captured : Int}
    {before world : World} (positive : 0 < captured) (fits : captured < 10 ^ 18)
    (unrefunded : NothingRefunded orderId paymentId captured before.db.committed)
    (history : RefundHistory config orderId paymentId before world)
    (asked : refundsOf orderId world.db.committed ≠ [])
    (settled : ∀ id refund, (id, refund) ∈ refundsOf orderId world.db.committed
      → refund.status ≠ .PENDING ∧ refund.status ≠ .PROCESSING)
    : SettlesExactly orderId paymentId captured world
      ↔ ¬SomeSucceeded orderId world.db.committed
        ∨ succeededAmount orderId world.db.committed = captured := by
  have parts := history.parts unrefunded
  obtain ⟨order, payment, _, refunding⟩ := id parts
  have ordered (row : Order) (found : world.db.committed.lookup (.order orderId) = some row)
      : row = order :=
    Option.some.inj (found.symm.trans refunding.placed)
  have paid (row : Payment) (found : world.db.committed.lookup (.payment paymentId) = some row)
      : row = payment :=
    Option.some.inj (found.symm.trans refunding.paid)
  constructor
  · intro exactly
    by_cases succeeded : SomeSucceeded orderId world.db.committed
    · exact Or.inr ((exactly.order order refunding.placed).mp (refunding.orderStatus.mpr succeeded))
    · exact Or.inl succeeded
  · intro given
    by_cases succeeded : SomeSucceeded orderId world.db.committed
    · have whole := given.resolve_left (not_not.mpr succeeded)
      refine ⟨fun row found => ?_, fun row found => ?_, fun less => absurd whole (ne_of_lt less)⟩
      · rw [ordered row found]
        exact iff_of_true (refunding.orderStatus.mpr succeeded) whole
      · rw [paid row found]
        exact iff_of_true (refunding.paymentStatus.mpr succeeded) whole
    · have nothing := succeededAmount_eq_zero succeeded
      have less : succeededAmount orderId world.db.committed ≠ captured := by omega
      refine ⟨fun row found => ?_, fun row found => ?_, fun _ => ?_⟩
      · rw [ordered row found]
        exact iff_of_false (fun refunded => succeeded (refunding.orderStatus.mp refunded)) less
      · rw [paid row found]
        exact iff_of_false (fun refunded => succeeded (refunding.paymentStatus.mp refunded)) less
      · rw [nothing, Int.sub_zero]
        refine parts.remainder positive fits asked fun id refund member => ?_
        obtain ⟨unrequested, unfinished⟩ := settled id refund member
        have unsuccessful : refund.status ≠ .SUCCEEDED := fun given =>
          succeeded ⟨id, refund, member, given⟩
        simp [RefundStatus.isActive, unrequested, unfinished, unsuccessful]

/-- An order that has failed after a payment through Paystack. -/
def paidAndFailed : AList Row :=
  ((∅ : AList Row).insert (.order "order")
    ({ userId := "user", quoteId := "quote", status := .FAILED, sourceCurrency := "NGN",
       destinationAsset := "USDC", sourceAmount := 1000000, destinationAmount := 5000000 }
      : Order)).insert (.payment "payment")
    ({ orderId := "order", userId := "user", provider := "PAYSTACK_NGN_BANK_TRANSFER",
       amount := 1000000, currency := "NGN", status := .SUCCEEDED, reference := "PAY_1" } : Payment)

theorem paidAndFailed_nothing : NothingRefunded "order" "payment" 1000000 paidAndFailed where
  order := ⟨_, rfl, by decide⟩
  payment := ⟨_, rfl, rfl, rfl, by decide⟩
  refunds := by decide +kernel

/-- An administrator asks for an amount of the payment, under the key by which the refund is
identified as well.
-/
def adminAsks (amount : Option DecimalText) (key : String) (world : World)
    : Option (Except AppError (Id × Refund × Bool) × World) :=
  let input : CreateRefundInput :=
    { orderId := "order", paymentId := some "payment", amount := amount, reason := "partial",
      idempotencyKey := some key }
  Program.evalAlone 0 (createRefund "admin" input true).run world
    (List.replicate 20 ({ text := key } : Input))

/-- An amount is asked for and refunded by Paystack. -/
def askAndExecute (amount : Option DecimalText) (key : String) (world : World) : Option World :=
  (adminAsks amount key world).bind fun asked =>
    if (refundsOf "order" asked.2.db.committed).any fun refund => refund.1 = key then
      (executeAnswered key "processed" asked.2).map Prod.snd
    else
      none

theorem askAndExecute_history {amount : Option DecimalText} {key : String} {before world after : World}
    (history : RefundHistory paystackConfig "order" "payment" before world)
    (ran : askAndExecute amount key world = some after)
    : RefundHistory paystackConfig "order" "payment" before after := by
  obtain ⟨⟨result, middle⟩, asked, rest⟩ := Option.bind_eq_some_iff.mp ran
  split at rest
  · rename_i there
    obtain ⟨⟨id, refund⟩, member, named⟩ := List.any_eq_true.mp there
    obtain rfl : id = key := by simpa using named
    obtain ⟨⟨result', last⟩, executed, rfl⟩ := Option.map_eq_some_iff.mp rest
    exact .executed (.asked history rfl (Or.inl rfl) (Program.alone_of_evalAlone asked)) member
      (Program.alone_of_evalAlone executed)
  · simp at rest

/-- What is evaluated is reached. -/
theorem exists_of_any {α : Type*} {holds : α → Prop} [DecidablePred holds] {reached : Option α}
    (evaluated : reached.any fun value => holds value)
    : ∃ value, reached = some value ∧ holds value := by
  obtain ⟨value, same, given⟩ := (Option.any_eq_true _ _).mp evaluated
  exact ⟨value, same, of_decide_eq_true given⟩

/-- The whole payment is refunded at once. -/
theorem partial_refunds_settle_iff_whole
    : ∃ world, RefundHistory paystackConfig "order" "payment" (World.start paidAndFailed) world
        ∧ SettlesExactly "order" "payment" 1000000 world := by
  obtain ⟨world, ran, asked, settled, whole⟩ : ∃ world,
      askAndExecute none "first" (World.start paidAndFailed) = some world
        ∧ refundsOf "order" world.db.committed ≠ []
        ∧ (∀ refund ∈ refundsOf "order" world.db.committed,
          refund.2.status ≠ .PENDING ∧ refund.2.status ≠ .PROCESSING)
        ∧ succeededAmount "order" world.db.committed = 1000000 :=
    exists_of_any (by decide +kernel)
  have history := askAndExecute_history .start ran
  exact ⟨world, history, (partial_refunds_settle_iff (by decide) (by decide)
    paidAndFailed_nothing history asked fun id refund member => settled _ member).mpr (Or.inr whole)⟩

/-- Half of the payment is refunded: the order and the payment become REFUNDED, and the other half
is refused.
-/
theorem half_refund_not_settled
    : ∃ world, RefundHistory paystackConfig "order" "payment" (World.start paidAndFailed) world
        ∧ succeededAmount "order" world.db.committed = 500000
        ∧ (refundsOf "order" world.db.committed).map (fun refund => refund.2.status) = [.SUCCEEDED]
        ∧ ¬SettlesExactly "order" "payment" 1000000 world
        ∧ (adminAsks none "second" world).map (fun answer => answer.1.toOption.isSome)
          = some false := by
  obtain ⟨world, ran, half, statuses, refunded, refused⟩ : ∃ world,
      askAndExecute (some (.finite ⟨50, 0⟩)) "first" (World.start paidAndFailed) = some world
        ∧ succeededAmount "order" world.db.committed = 500000
        ∧ (refundsOf "order" world.db.committed).map (fun refund => refund.2.status) = [.SUCCEEDED]
        ∧ (world.db.committed.lookup (.order "order")).map Order.status = some .REFUNDED
        ∧ (adminAsks none "second" world).map (fun answer => answer.1.toOption.isSome)
          = some false :=
    exists_of_any (by decide +kernel)
  refine ⟨world, askAndExecute_history .start ran, half, statuses, fun exactly => ?_, refused⟩
  obtain ⟨order, found, status⟩ := Option.map_eq_some_iff.mp refunded
  have whole := (exactly.order order found).mp status
  omega

end LuminaRail
