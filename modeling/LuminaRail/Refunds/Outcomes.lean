import LuminaRail.Liquidity.Endings
import LuminaRail.Model.Hearing
import LuminaRail.Services.Footprints
import LuminaRail.Services.Quiet

/-! Whether the outcome of a refund is recorded. The status of the refund is stored in a transaction
with that of its order, which is checked as it was read before the provider was asked.
-/

namespace LuminaRail

open Concurrency Database Service RefundService

/-- What an order becomes when one of its refunds ends so. -/
def RefundStatus.orderStatus : RefundStatus → OrderStatus
  | .SUCCEEDED => .REFUNDED
  | _ => .REFUND_FAILED

/-- The refund has been stored with the outcome. -/
def Records (refundId : Id) (status : RefundStatus) (rows : AList Row) : Prop :=
  ∃ row, rows.lookup (.refund refundId) = some row ∧ row.status = status

/-- The rows after the payment of a refund, if it has one, has become REFUNDED. -/
def refundPayment (paymentId : Option Id) (rows : AList Row) : AList Row :=
  match paymentId with
  | none => rows
  | some paymentId =>
      match (rows.lookup (.payment paymentId) : Option Payment) with
      | none => rows
      | some payment =>
          rows.insert (.payment paymentId) ({ payment with status := .REFUNDED } : Payment)

/-- The rows after an outcome has been stored with its payment and its order. -/
def outcomeRows (refundId : Id) (refund : Refund) (paymentId : Option Id) (orderId : Id)
    (order : Order) (rows : AList Row) : AList Row :=
  (refundPayment paymentId (rows.insert (.refund refundId) refund)).insert (.order orderId) order

/-- The order may not follow the refund, or the database is not available. -/
def Refused (s : Snapshot) (order : Order) (status : RefundStatus) (error : AppError)
    (last : Snapshot) : Prop :=
  last = s
    ∧ (error.Unavailable ∨ OrderStateMachine.canTransition order.status status.orderStatus = false)

section

variable {t : Tid} {s last : Snapshot} {x : TxId} {refundId : Id} {refund : Refund}
  {paymentId : Option Id} {order : Order} {status : RefundStatus} {rows : AList Row} {key : Key}

theorem lookup_refundPayment (other : ∀ id, key ≠ .payment id)
    : (refundPayment paymentId rows).lookup key = rows.lookup key := by
  unfold refundPayment
  split
  · rfl
  · split
    · rfl
    · exact AList.lookup_insert_ne (other _)

theorem lookup_outcomeRows {updated : Refund} {placed : Order} {orderId : Id}
    (other : ∀ id, key ≠ .payment id) (order_other : key ≠ .order orderId)
    : (outcomeRows refundId updated paymentId orderId placed rows).lookup key
      = (rows.insert (.refund refundId) updated).lookup key :=
  (AList.lookup_insert_ne order_other).trans (lookup_refundPayment other)

theorem ends_markPaymentRefunded (drafts : Drafts s x rows last)
    (paid : ∀ id ∈ paymentId, (rows.lookup (.payment id)).isSome)
    : Ends t last (markPaymentRefunded x paymentId)
        (fun _ next => Drafts s x (refundPayment paymentId rows) next)
        fun error next => Drafting s x next ∧ error.Unavailable := by
  cases paymentId with
  | none => exact Ends.pure drafts
  | some paymentId =>
      obtain ⟨payment, found⟩ := Option.isSome_iff_exists.mp (paid paymentId rfl)
      refine Ends.bind ((drafts.update found).mono (fun _ _ given => given)
        fun error last => drafts.interrupted) fun _ next given => ?_
      refine Ends.pure ?_
      simp only [refundPayment, found]
      exact given.2

/-- The transaction by which an outcome is stored: the refund first, then its payment, and the order
at last.
-/
theorem ends_storeOutcome (status : RefundStatus) (paymentId : Option Id)
    (follow : TxId → Service Unit) {data : Nat → Refund → Refund} {row : Refund} {placed : Order}
    (found : s.committed.lookup (.refund refundId) = some row)
    (there : s.committed.lookup (.order refund.orderId) = some placed)
    (paid : ∀ id ∈ paymentId, (s.committed.lookup (.payment id)).isSome)
    (follows : ∀ x, follow x = markPaymentRefunded x paymentId)
    : Ends t s (Service.transaction fun tx => do
        let time ← now
        let updatedRef ← update (some tx) (.refund refundId) (data time)
        follow tx
        OrderStateMachine.validateTransition order.status status.orderStatus
        emit fun t => .orderChecked t refund.orderId order.status status.orderStatus
        let _ ← update (some tx) (.order refund.orderId) fun row =>
          { row with status := status.orderStatus }
        pure updatedRef)
      (fun _ last => last.pending = s.pending
        ∧ OrderStateMachine.canTransition order.status status.orderStatus = true
        ∧ ∃ time, last.committed = outcomeRows refundId (data time row) paymentId
            refund.orderId { placed with status := status.orderStatus } s.committed)
      (fun error last => Refused s order status error last) := by
  refine Ends.drafted
    (W := fun _ rows => OrderStateMachine.canTransition order.status status.orderStatus = true
      ∧ ∃ time, rows = outcomeRows refundId (data time row) paymentId refund.orderId
          { placed with status := status.orderStatus } s.committed)
    (E := fun error => error.Unavailable
      ∨ OrderStateMachine.canTransition order.status status.orderStatus = false)
    (fun x own => ?_) fun _ lost => Or.inl lost
  refine Ends.bind Ends.now fun time next begun => ?_
  subst begun
  have drafts := Drafts.begin s x
  refine Ends.bind ((drafts.update found).mono (fun _ _ given => given) fun error last given =>
    (drafts.interrupted given).imp_right Or.inl) fun updated next given => ?_
  obtain ⟨rfl, drafts⟩ := given
  rw [follows x]
  have paid : ∀ id ∈ paymentId,
      ((s.committed.insert (.refund refundId) (data time row)).lookup (.payment id)).isSome := by
    intro id member
    rw [AList.lookup_insert_ne (by simp)]
    exact paid id member
  refine Ends.bind ((ends_markPaymentRefunded drafts paid).mono (fun _ _ given => given)
    fun _ _ given => given.imp_right Or.inl) fun _ next drafts => ?_
  refine Ends.guard (fun illegal => ⟨⟨_, drafts⟩, Or.inr illegal⟩) fun legal => ?_
  refine Ends.observe ?_
  have placed_there : (refundPayment paymentId
      (s.committed.insert (.refund refundId) (data time row))).lookup (.order refund.orderId)
      = some placed := by
    rw [lookup_refundPayment (by simp), AList.lookup_insert_ne (by simp)]
    exact there
  refine Ends.bind ((drafts.update placed_there).mono (fun _ _ given => given) fun error last given =>
    (drafts.interrupted given).imp_right Or.inl) fun _ next given => ?_
  exact Ends.pure ⟨_, given.2, by simpa using legal, time, rfl⟩

/-- What has been stored of a final answer, apart from the rows of the liquidity. -/
def Settled (s : Snapshot) (refundId : Id) (row refund : Refund) (placed : Order)
    (status : RefundStatus) (last : Snapshot) : Prop :=
  ∃ updated : Refund,
    LiquidityChanged
      (outcomeRows refundId updated (if status = .SUCCEEDED then refund.paymentId else none)
        refund.orderId { placed with status := status.orderStatus } s.committed) last.committed
    ∧ updated.status = status ∧ updated.orderId = row.orderId
    ∧ updated.paymentId = row.paymentId ∧ updated.amount = row.amount

/-- Storing a final answer records it exactly if the order, as it was read, may follow. -/
theorem ends_settleRefund {response : NormalizedRefundResponse} {row : Refund} {placed : Order}
    (answered : response.status = .SUCCEEDED ∨ response.status = .FAILED)
    (found : s.committed.lookup (.refund refundId) = some row)
    (paid : ∀ id ∈ refund.paymentId, (s.committed.lookup (.payment id)).isSome)
    (there : s.committed.lookup (.order refund.orderId) = some placed)
    : Ends t s (settleRefund refundId refund order response)
        (fun _ last => OrderStateMachine.canTransition order.status response.status.orderStatus = true
          ∧ Settled s refundId row refund placed response.status last)
        fun error last => Refused s order response.status error last
          ∨ OrderStateMachine.canTransition order.status response.status.orderStatus = true
            ∧ Settled s refundId row refund placed response.status last := by
  unfold settleRefund
  rcases answered with succeeded | failed
  · rw [succeeded]
    dsimp only
    refine Ends.bind ((ends_storeOutcome .SUCCEEDED _ _ found there paid fun _ => rfl).mono
      (fun _ _ given => given) fun _ _ refused => Or.inl refused) fun _ next given => ?_
    obtain ⟨_, legal, time, stored⟩ := given
    have settled {last : Snapshot} (changed : LiquidityChanged next.committed last.committed)
        : Settled s refundId row refund placed .SUCCEEDED last :=
      ⟨_, fun key apart => (changed key apart).trans (congrArg (AList.lookup key) stored), rfl, rfl,
        rfl, rfl⟩
    refine Ends.bind ((ends_releaseReservation refund.orderId _).mono
      (fun _ _ given => settled given.2.1)
      fun _ _ failed => Or.inr ⟨legal, failed.1 ▸ settled (LiquidityChanged.refl _)⟩)
      fun _ last settled => Ends.pure ⟨legal, settled⟩
  · rw [failed]
    refine (ends_storeOutcome .FAILED none (fun _ => pure ()) found there
      (fun _ none_there => absurd none_there (Option.not_mem_none _))
      fun _ => rfl).mono (fun _ last given => ?_) fun _ _ refused => Or.inl refused
    obtain ⟨_, legal, time, stored⟩ := given
    exact ⟨legal, _, fun key _ => congrArg (AList.lookup key) stored, rfl, rfl, rfl, rfl⟩

theorem Settled.records {row : Refund} {placed : Order}
    (settled : Settled s refundId row refund placed status last)
    : Records refundId status last.committed := by
  obtain ⟨updated, changed, reached, _⟩ := settled
  refine ⟨updated, ?_, reached⟩
  rw [changed _ (by simp [Key.ofLiquidity]), lookup_outcomeRows (by simp) (by simp)]
  exact AList.lookup_insert _

end

-----------------------------------------------------------------------------------------
-- The whole call
-----------------------------------------------------------------------------------------

/-- The provider answers a request to carry out the refund. -/
def answersRefund (refundId : Id) : Event → Bool
  | .refundAnswered _ id _ => id = refundId
  | _ => false

/-- If an answer has been heard, it is the only one, and a final one is recorded exactly if the order
may follow, as long as the database was available.
-/
def Concludes (t : Tid) (refundId : Id) (order : Order) (heard : List Event) (available : Prop)
    (last : Snapshot) (now : List Event) : Prop :=
  now = heard ∨ ∃ status, now = .refundAnswered t refundId status :: heard
    ∧ (status = .SUCCEEDED ∨ status = .FAILED → available
      → (Records refundId status last.committed
        ↔ OrderStateMachine.canTransition order.status status.orderStatus = true))

/-- The service hears of an answer at most, and concludes with what it has heard. -/
def Executes (t : Tid) (s : Snapshot) (heard : List Event) (refundId : Id) (order : Order)
    (service : Service Refund) : Prop :=
  Hears (answersRefund refundId) t s heard service
    (fun _ => Concludes t refundId order heard True)
    fun error => Concludes t refundId order heard (¬error.Unavailable)

section

variable {t : Tid} {s last : Snapshot} {heard : List Event} {refundId : Id} {refund row : Refund}
  {order placed : Order} {status : RefundStatus}

/-- A service that may do anything but ask for the refund. -/
theorem unheard_allowsRefund : (unheard (answersRefund refundId)).AllowsRefund t where
  pool _ _ _ := trivial
  reservation _ _ _ := trivial
  treasury _ _ _ := trivial
  refund _ _ _ _ _ := trivial
  payment _ _ _ := trivial
  order _ _ _ _ := trivial
  checked _ _ _ _ := rfl

theorem Refused.unrecorded {error : AppError} (refused : Refused s order status error last)
    (found : s.committed.lookup (.refund refundId) = some row) (unfinished : row.status ≠ status)
    (available : ¬error.Unavailable)
    : Records refundId status last.committed
      ↔ OrderStateMachine.canTransition order.status status.orderStatus = true := by
  obtain ⟨rfl, refusal⟩ := refused
  have illegal := refusal.resolve_left available
  refine ⟨fun recorded => ?_, fun legal => absurd (illegal.symm.trans legal) (by simp)⟩
  obtain ⟨stored, there, reached⟩ := recorded
  obtain rfl := Option.some.inj (found.symm.trans there)
  exact absurd reached unfinished

/-- What the call does with an answer, by cases on whether it is a final one. -/
theorem executes_settleRefund {response : NormalizedRefundResponse}
    (found : s.committed.lookup (.refund refundId) = some row) (processing : row.status = .PROCESSING)
    (paid : ∀ id ∈ refund.paymentId, (s.committed.lookup (.payment id)).isSome)
    (there : s.committed.lookup (.order refund.orderId) = some placed)
    : Hears (answersRefund refundId) t s (.refundAnswered t refundId response.status :: heard)
        (settleRefund refundId refund order response)
        (fun _ => Concludes t refundId order heard True)
        fun error => Concludes t refundId order heard (¬error.Unavailable) := by
  have quiet : Within (Step (unheard (answersRefund refundId)) t) t
      (settleRefund refundId refund order response) :=
    within_settleRefund unheard_allowsRefund refundId (fun _ _ => trivial) order response
  by_cases final : response.status = .SUCCEEDED ∨ response.status = .FAILED
  · have unfinished : row.status ≠ response.status := by
      rcases final with succeeded | failed
      · simp [processing, succeeded]
      · simp [processing, failed]
    refine (Hears.of_ends (ends_settleRefund final found paid there) quiet).mono
      (fun _ last now given => ?_) fun error last now given => ?_
    · obtain ⟨⟨⟨legal, settled⟩, _⟩, rfl⟩ := given
      exact Or.inr ⟨_, rfl, fun _ _ => ⟨fun _ => legal, fun _ => settled.records⟩⟩
    · obtain ⟨refused | ⟨legal, settled⟩, rfl⟩ := given
      · exact Or.inr ⟨_, rfl, fun _ available => refused.unrecorded found unfinished available⟩
      · exact Or.inr ⟨_, rfl, fun _ _ => ⟨fun _ => legal, fun _ => settled.records⟩⟩
  · have ends : Ends t s (settleRefund refundId refund order response) (fun _ _ => True)
        fun _ _ => True := by
      unfold settleRefund
      split
      · exact absurd (Or.inl ‹_›) final
      · exact absurd (Or.inr ‹_›) final
      · exact (Ends.updateNow found).mono (fun _ _ _ => trivial) fun _ _ _ => trivial
    refine (Hears.of_ends ends quiet).mono (fun _ last now given => ?_) fun error last now given => ?_
    · exact Or.inr ⟨_, given.2, fun answered => absurd answered final⟩
    · exact Or.inr ⟨_, given.2, fun answered => absurd answered final⟩

/-- What follows a part of the call that leaves the database alone and in which nothing is heard. -/
theorem Executes.after {α : Type} {first : Service α} {rest : α → Service Refund} {R : α → Prop}
    {W : α → Prop} (ends : Ends t s first (fun value last => R value ∧ last = s) fun _ _ => True)
    (quiet : Within (Step (unheard (answersRefund refundId)) t) t first W)
    (later : ∀ value, R value → Executes t s heard refundId order (rest value))
    : Executes t s heard refundId order (first >>= rest) := by
  refine Hears.after ends quiet (fun _ _ _ => Or.inl rfl) fun value next given => ?_
  obtain ⟨holds, rfl⟩ := given
  exact later value holds

theorem Executes.stays {α : Type} {first : Service α} {rest : α → Service Refund}
    {W : α → Prop} (stays : Stays t s first)
    (quiet : Within (Step (unheard (answersRefund refundId)) t) t first W)
    (later : ∀ value, Executes t s heard refundId order (rest value))
    : Executes t s heard refundId order (first >>= rest) := by
  refine Executes.after (R := fun _ => True) ?_ quiet fun value _ => later value
  exact (Ends.of_stays stays).mono (fun _ _ same => ⟨trivial, same⟩) fun _ _ _ => trivial

theorem ends_paymentOf (refund : Refund)
    : Ends t s (paymentOf refund) (fun _ last => True ∧ last = s) fun _ _ => True := by
  unfold paymentOf
  split
  · exact Ends.findUnique.mono (fun _ _ given => ⟨trivial, given.2⟩) fun _ _ _ => trivial
  · exact Ends.pure ⟨trivial, rfl⟩

/-- After the refund has been claimed: everything is read before the provider is asked, and what it
answers is heard and stored.
-/
theorem executes_executeClaimedRefund (config : Config) (lock : Option DistributedLock)
    (found : s.committed.lookup (.refund refundId) = some refund)
    (processing : refund.status = .PROCESSING)
    (placed : s.committed.lookup (.order refund.orderId) = some order)
    (paid : ∀ id ∈ refund.paymentId, (s.committed.lookup (.payment id)).isSome)
    : Executes t s heard refundId order (executeClaimedRefund config refundId lock) := by
  refine Executes.after ((Ends.findUniqueOrThrow found).mono (fun _ _ given => given)
    fun _ _ _ => trivial) within_findUniqueOrThrow fun _ same => ?_
  subst same
  refine Executes.after ((Ends.findUniqueOrThrow placed).mono (fun _ _ given => given)
    fun _ _ _ => trivial) within_findUniqueOrThrow fun _ same => ?_
  subst same
  refine Executes.after (ends_paymentOf _) (within_paymentOf _) fun payment _ => ?_
  refine Executes.stays (stays_get config _) (within_get config _) fun provider => ?_
  refine Executes.stays (stays_throwIfLost lock _) (within_throwIfLost lock _) fun _ => ?_
  refine Hears.bind (R := fun response next now => next = s
    ∧ now = .refundAnswered t refundId response.status :: heard) ?_ fun response next now given => ?_
  · refine Hears.after (Ends.of_stays stays_emit) (within_emit rfl) (fun _ _ _ => Or.inl rfl)
      fun _ next same => ?_
    subst same
    refine Hears.after (Ends.of_stays (stays_providerRefund config provider _))
      (within_providerRefund config provider _) (fun _ _ _ => Or.inl rfl) fun response next same => ?_
    subst same
    refine Hears.bind (Hears.emit (by simp [answersRefund, refundRequest]))
      fun _ next now given => Hears.pure ?_
    exact given
  · obtain ⟨rfl, rfl⟩ := given
    exact executes_settleRefund found processing paid placed

theorem executes_executeRefundLocked (config : Config) (lock : Option DistributedLock)
    (found : s.committed.lookup (.refund refundId) = some refund)
    (placed : s.committed.lookup (.order refund.orderId) = some order)
    (paid : ∀ id ∈ refund.paymentId, (s.committed.lookup (.payment id)).isSome)
    : Executes t s heard refundId order (executeRefundLocked config refundId lock) := by
  refine Executes.after (Ends.findUnique.mono (fun _ _ given => given) fun _ _ _ => trivial)
    within_findUnique fun read same => ?_
  rw [show read = some refund from same.trans found]
  dsimp only
  split
  · exact Hears.pure (Or.inl rfl)
  · split
    · exact Hears.pure (Or.inl rfl)
    · refine Executes.stays (stays_throwIfLost lock _) (within_throwIfLost lock _) fun _ => ?_
      refine Executes.stays stays_throwIf within_throwIf fun _ => ?_
      refine Hears.after Ends.claim (within_claim rfl fun _ _ => trivial) (fun _ _ _ => Or.inl rfl)
        fun count next given => ?_
      rcases given with ⟨row, there, _, rfl, rfl⟩ | ⟨rfl, rfl⟩
      · obtain rfl := Option.some.inj (found.symm.trans there)
        have claimed : (s.save none [⟨.refund refundId, { refund with status := .PROCESSING }⟩]
            ).committed.lookup (.refund refundId) = some { refund with status := .PROCESSING } :=
          AList.lookup_insert _
        refine executes_executeClaimedRefund config lock claimed rfl ?_ fun id member => ?_
        · exact (AList.lookup_insert_ne (by simp)).trans placed
        · have kept : (s.save none [⟨.refund refundId, { refund with status := .PROCESSING }⟩]
              ).committed.lookup (.payment id) = s.committed.lookup (.payment id) :=
            AList.lookup_insert_ne (by simp)
          rw [kept]
          exact paid id member
      · refine (Hears.of_ends (Ends.findUniqueOrThrow found) within_findUniqueOrThrow).mono
          (fun _ _ _ given => Or.inl given.2) fun _ _ _ given => Or.inl given.2

theorem executes_executeRefund (config : Config)
    (found : s.committed.lookup (.refund refundId) = some refund)
    (placed : s.committed.lookup (.order refund.orderId) = some order)
    (paid : ∀ id ∈ refund.paymentId, (s.committed.lookup (.payment id)).isSome)
    : Executes t s heard refundId order (executeRefund config refundId) := by
  refine Hears.bind ((Hears.of_stays (stays_acquire config _) (within_acquire config _)).mono
    (fun _ _ _ given => given) fun _ _ _ given => Or.inl given.2) fun lock next now given => ?_
  obtain ⟨⟨rfl, own⟩, rfl⟩ := given
  exact Hears.finally' (executes_executeRefundLocked config lock found placed paid)
    (fun _ => ends_release lock) (within_releaseAny own)

end

/-- Once the provider has answered to the execution of a refund that it has succeeded or failed,
and the database is available, the call ends with this outcome recorded exactly if the order
had, when it was read, a status that may be followed by REFUNDED or REFUND_FAILED. By what a
lone execution hears and writes.
-/
theorem refund_recorded_iff {config : Config} {t : Tid} {refundId : Id} {refund : Refund}
    {order : Order} {status : RefundStatus} {world after : World} {result : Except AppError Refund}
    (found : world.db.committed.lookup (.refund refundId) = some refund)
    (placed : world.db.committed.lookup (.order refund.orderId) = some order)
    (paid : ∀ id ∈ refund.paymentId, (world.db.committed.lookup (.payment id)).isSome)
    (unheard : ∀ status, .refundAnswered t refundId status ∉ world.trace)
    (ran : Program.Alone t (executeRefund config refundId).run world result after)
    (answered : .refundAnswered t refundId status ∈ after.trace)
    (final : status = .SUCCEEDED ∨ status = .FAILED)
    (available : ∀ error, result = .error error → ¬error.Unavailable)
    : Records refundId status after.db.committed
      ↔ OrderStateMachine.canTransition order.status status.orderStatus = true := by
  obtain ⟨last, here, ended⟩ := Hears.alone
    (executes_executeRefund config (s := .of t world) found placed paid) ran
  have concludes : Concludes t refundId order (world.trace.filter (answersRefund refundId)) True last
      (after.trace.filter (answersRefund refundId)) := by
    cases result with
    | ok refund => exact ended
    | error error =>
        exact ended.imp_right fun told => told.imp fun status heard =>
          ⟨heard.1, fun final _ => heard.2 final (available error rfl)⟩
  have member : .refundAnswered t refundId status ∈ after.trace.filter (answersRefund refundId) :=
    List.mem_filter.mpr ⟨answered, by simp [answersRefund]⟩
  have new : .refundAnswered t refundId status ∉ world.trace.filter (answersRefund refundId) :=
    fun old => unheard status (List.mem_filter.mp old).1
  rcases concludes with same | ⟨status', now, recorded⟩
  · exact absurd (same ▸ member) new
  · rw [now] at member
    rcases List.mem_cons.mp member with same | old
    · obtain ⟨_, _, rfl⟩ := Event.refundAnswered.inj same
      have agree := here.committed (.refund refundId) trivial
      exact (show Records refundId status after.db.committed ↔ _ from by
        rw [Records, agree]; exact recorded final trivial)
    · exact absurd old new

/-- An order that was paid through Paystack and is being refunded. -/
def refundingOrder : Order :=
  { userId := "user", quoteId := "quote", status := .REFUND_PENDING, sourceCurrency := "NGN",
    destinationAsset := "USDC", sourceAmount := 1000000, destinationAmount := 5000000 }

/-- A refund of half of its payment. -/
def partialRefund (key : String) : Refund :=
  { orderId := "order", paymentId := some "payment", userId := "user", amount := 500000,
    reason := "partial", status := .PROCESSING, idempotencyKey := key }

/-- Both halves of the payment are to be refunded. -/
def twoHalves : AList Row :=
  ((((∅ : AList Row).insert (.order "order") refundingOrder).insert (.payment "payment")
    ({ orderId := "order", userId := "user", provider := "PAYSTACK_NGN_BANK_TRANSFER",
       amount := 1000000, currency := "NGN", status := .SUCCEEDED, reference := "PAY_1" }
      : Payment)).insert (.refund "first") (partialRefund "first")).insert (.refund "second")
    (partialRefund "second")

/-- A refund is executed by itself, and Paystack answers with a status. -/
def executeAnswered (refundId : Id) (status : String) (world : World)
    : Option (Except AppError Refund × World) :=
  let inputs : List Input := List.replicate 9 ({} : Input)
    ++ { reply := .refund "1" status "PAY_1" } :: List.replicate 12 ({} : Input)
  Program.evalAlone 0 (executeRefund paystackConfig refundId).run world inputs

/-- The first refund alone, which succeeds, is recorded. -/
theorem refund_recorded_iff_first
    : ∃ after : World, Records "first" .SUCCEEDED after.db.committed := by
  obtain ⟨⟨result, after⟩, ran, ended⟩ : ∃ last, executeAnswered "first" "processed"
      (World.start twoHalves) = some last
      ∧ (last.1.isOk, decide (.refundAnswered 0 "first" .SUCCEEDED ∈ last.2.trace))
        = (true, true) := by
    exact Option.map_eq_some_iff.mp (by decide +kernel)
  obtain ⟨fine, answered⟩ := Prod.mk.inj ended
  have found : (World.start twoHalves).db.committed.lookup (.refund "first")
      = some (partialRefund "first") := by decide +kernel
  have placed : (World.start twoHalves).db.committed.lookup (.order "order")
      = some refundingOrder := by decide +kernel
  refine ⟨after, (refund_recorded_iff found placed (fun id paid => ?_) (by simp [World.start])
    (Program.alone_of_evalAlone ran) (of_decide_eq_true answered) (Or.inl rfl)
    fun error failed => ?_).mpr (by decide)⟩
  · obtain rfl := Option.some.inj paid
    decide +kernel
  · simp [failed, Except.isOk, Except.toBool] at fine

/-- The first refund succeeds, and the order becomes REFUNDED. The second one fails, of which nothing
is recorded.
-/
theorem failed_refund_unrecorded
    : ((executeAnswered "first" "processed" (World.start twoHalves)).bind fun first =>
        (executeAnswered "second" "failed" first.2).map fun second =>
          (second.1, (second.2.db.committed.lookup (.refund "first")).map Refund.status,
            (second.2.db.committed.lookup (.refund "second")).map Refund.status))
      = some (.error (.badRequest ("Invalid Order status transition from 'REFUNDED' to "
          ++ "'REFUND_FAILED'. Order cannot enter settlement or active state after refund.")),
        some .SUCCEEDED, some .PROCESSING) := by
  decide +kernel

end LuminaRail
