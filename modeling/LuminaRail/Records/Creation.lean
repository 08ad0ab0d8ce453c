import LuminaRail.Records.Foresight
import LuminaRail.Services.OrderFootprints
import LuminaRail.Services.PaymentFootprints
import LuminaRail.Services.Requests

/-! Making records: orders from their quotes, payments and settlements from their orders. Each
service reads what the new record refers to before it inserts it.
-/

namespace LuminaRail

open Concurrency Database Service

namespace Foresight

variable {F : Foresight} {t : Tid} {x : TxId}

-----------------------------------------------------------------------------------------
-- Orders
-----------------------------------------------------------------------------------------

/-- A request of a user, who acts for himself, or for everyone if he is an administrator. -/
def ActsAs (F : Foresight) (t : Tid) (userId : Id) (isAdmin : Bool) : Prop :=
  ∀ user, isAdmin = true ∨ user = userId → F.actsFor t user

/-- What the services refuse is to act for somebody else. -/
theorem ActsAs.allowed {userId user : Id} {isAdmin : Bool} (acts : F.ActsAs t userId isAdmin)
    (checked : ¬(isAdmin = false ∧ user ≠ userId))
    : F.actsFor t user := by
  refine acts user ?_
  cases isAdmin with
  | true => exact Or.inl rfl
  | false => exact Or.inr (not_not.mp fun other => checked ⟨rfl, other⟩)

theorem WritesBy.quote {id : Id} {row : Quote} {status : QuoteStatus}
    : F.WritesBy t (.quote id) (some row) { row with status := status } :=
  .update trivial rfl fun _ => trivial

theorem within_reserveForOrderInTx (own : x.owner = t) (params : ReserveLiquidityParams)
    : Within (Step (F.footprint t) t) t (LiquidityService.reserveForOrderInTx x params) := by
  refine Within.bind within_throwIf fun _ _ => ?_
  refine Within.bind (within_selectForUpdate own) fun _ _ => ?_
  refine Within.bind within_findUnique fun found _ => ?_
  cases found with
  | none => exact Within.throw _
  | some pool =>
      refine Within.bind within_throwIf fun _ _ => Within.bind within_throwIf fun _ _ => ?_
      refine Within.bind (within_updateIn own fun row => by
        exact WritesBy.pool) fun _ _ => ?_
      refine Within.bind within_now fun time _ => ?_
      refine within_create (by simpa using own) (fun entry member => ?_) trivial
      obtain rfl := List.mem_singleton.mp member
      exact WritesBy.reservation (by simp) ⟨by simp, by simp⟩

theorem within_getPool : Within (Step (F.footprint t) t) t LiquidityService.getPool :=
  LiquidityService.within_getPool fun _ _ => WritesBy.pool

/-- A quote is offered by `createQuote`. -/
theorem learns_requestQuote {config : QuotesConfig} {provider : QuoteProvider} {rates : FxReply}
    {input : GenerateQuoteInput}
    (offers : ∀ replies data, QuoteService.createQuote config provider replies input = .ok data
      → F.offered data.row)
    : F.discipline.Learns t (QuoteService.requestQuote config provider rates input) :=
  (keeps t).learns (QuoteService.within_requestQuote (fun _ _ => WritesBy.pool)
    fun _ replies data made => .insert trivial (offers replies data made) trivial)

/-- A quote that is still ACTIVE is answered with as it was read. -/
theorem learns_getQuoteById (quoteId : Id)
    : F.discipline.Learns t (QuoteService.getQuoteById quoteId) fun quote =>
        quote.status = .ACTIVE → F.known (.quote quoteId) quote := by
  refine Discipline.Learns.bind learns_findUnique fun found learnt => ?_
  cases found with
  | none => exact Discipline.Learns.throw _
  | some quote =>
      refine Discipline.Learns.bind ((keeps t).learns within_now) fun time _ => ?_
      split
      · exact (keeps t).learns (within_update (by simp) (fun row => WritesBy.quote)
          fun row active => absurd active (by simp))
      · exact Discipline.Learns.pure fun _ => (learnt quote rfl).known

theorem within_createOrderInTx (own : x.owner = t) {userId : Id} (acts : F.actsFor t userId)
    (dto : CreateOrderDTO) {quote : Quote} (known : F.known (.quote dto.quoteId) quote)
    (poolId : Id)
    : Within (Step (F.footprint t) t) t
        (OrderService.createOrderInTx x userId dto quote poolId) := by
  refine Within.bind (within_updateIn own fun row => by exact WritesBy.quote) fun _ _ => ?_
  refine Within.bind within_randomText fun orderId _ => Within.bind within_now fun time _ => ?_
  refine Within.bind (Q := fun _ => True)
    (within_create (by simpa using own) (fun entry member => ?_) trivial) fun _ _ => ?_
  · simp only [OrderService.orderIndex, List.mem_cons] at member
    rcases member with rfl | member
    · exact WritesBy.insert acts ⟨quote, known, rfl, rfl, rfl, rfl⟩ ⟨by simp, by simp⟩
    · split at member
      · obtain rfl := List.mem_singleton.mp member
        exact WritesBy.insert trivial trivial trivial
      · simp at member
  · exact Within.bind (within_reserveForOrderInTx own _) fun _ _ => Within.pure trivial

theorem learns_placeOrder {userId : Id} (acts : F.actsFor t userId) (dto : CreateOrderDTO)
    : F.discipline.Learns t (OrderService.placeOrder userId dto) := by
  refine Discipline.Learns.bind (learns_getQuoteById _) fun quote learnt => ?_
  refine Discipline.Learns.bind ((keeps t).learns within_throwIf) fun _ _ => ?_
  refine Discipline.Learns.bind ((keeps t).learns within_throwIf) fun _ _ => ?_
  refine Discipline.Learns.bind ((keeps t).learns within_now) fun time _ => ?_
  refine Discipline.Learns.bind ((keeps t).learns within_throwIf) fun _ valid => ?_
  have active : quote.status = .ACTIVE := not_not.mp (not_or.mp valid).1
  refine (keeps t).learns (Within.bind within_getPool fun pool _ => ?_)
  refine Within.bind within_findUniqueOrThrow fun available _ => ?_
  refine Within.bind within_throwIf fun _ _ => within_transaction fun _ own => ?_
  exact within_createOrderInTx own acts dto (learnt active) _

theorem learns_createOrder {userId : Id} (acts : F.actsFor t userId) (dto : CreateOrderDTO)
    : F.discipline.Learns t (OrderService.createOrder userId dto) := by
  unfold OrderService.createOrder
  cases truthy dto.idempotencyKey with
  | none => exact learns_placeOrder acts dto
  | some key =>
      refine Discipline.Learns.bind (Q := fun _ => True)
        (Discipline.Learns.select fun _ _ => trivial) fun found _ => ?_
      cases found with
      | none => exact learns_placeOrder acts dto
      | some existing => exact Discipline.Learns.pure trivial

theorem learns_validateAndUseQuote (quoteId : Id)
    : F.discipline.Learns t (QuoteService.validateAndUseQuote quoteId) := by
  refine Discipline.Learns.bind (learns_getQuoteById quoteId) fun quote _ => ?_
  refine (keeps t).learns (Within.bind within_now fun time _ => ?_)
  refine Within.bind within_throwIf fun _ _ => Within.bind within_throwIf fun _ _ => ?_
  refine Within.bind within_throwIf fun _ _ => ?_
  exact within_updateNow fun row => by exact WritesBy.quote

/-- An order gets the status SETTLEMENT_PENDING with its wallet if it has been confirmed or one of
its payments has succeeded, and keeps the status that was read otherwise.
-/
theorem walletStatus_cases (order : Order) (payments : List (Id × Payment))
    : OrderService.walletStatus order payments = order.status
      ∨ (OrderService.walletStatus order payments = .SETTLEMENT_PENDING
        ∧ ((∃ found ∈ payments, found.2.status = .SUCCEEDED)
          ∨ order.status = .PAYMENT_CONFIRMED)) := by
  unfold OrderService.walletStatus
  split
  · exact Or.inl rfl
  · split
    · rename_i paid
      refine Or.inr ⟨rfl, paid.imp_left fun succeeded => ?_⟩
      simpa using succeeded
    · exact Or.inl rfl

theorem learns_updateOrderWallet (orderId : Id) {userId : Id} (walletAddress : String)
    {isAdmin : Bool} (acts : F.ActsAs t userId isAdmin)
    : F.discipline.Learns t
        (OrderService.updateOrderWallet orderId userId walletAddress isAdmin) := by
  refine Discipline.Learns.bind learns_findUnique fun found learnt => ?_
  cases found with
  | none => exact Discipline.Learns.throw _
  | some order =>
      refine Discipline.Learns.bind (learns_paymentsOf orderId) fun payments listed => ?_
      refine (keeps t).learns (Within.bind within_throwIf fun _ checked => ?_)
      refine Within.bind (within_emit (footprint_own rfl)) fun _ _ => ?_
      refine within_updateNow fun row => ?_
      have own : F.OwnOrder t orderId :=
        Or.inr ⟨order, (learnt order rfl).known, acts.allowed checked⟩
      obtain ⟨landed, paid⟩ := (learnt order rfl).backed
      obtain kept | ⟨pending, reason⟩ := walletStatus_cases order payments
      · exact WritesBy.update own rfl fun _ => ⟨fun completed => landed (kept ▸ completed),
          fun confirmed => paid (kept ▸ confirmed)⟩
      · refine WritesBy.update own rfl fun _ => ⟨fun completed => ?_, fun _ => ?_⟩
        · have completed : OrderService.walletStatus order payments = .COMPLETED := completed
          simp [pending] at completed
        · obtain ⟨found, member, succeeded⟩ | confirmed := reason
          · obtain ⟨stored, rfl⟩ := listed found member
            exact stored.paid (stored.backed succeeded)
          · exact paid (Or.inl confirmed)

-----------------------------------------------------------------------------------------
-- Payments
-----------------------------------------------------------------------------------------

theorem within_persistProviderResponse (own : x.owner = t) {orderId paymentId : Id}
    (ordered : F.OwnOrder t orderId) (paid : F.OwnPayment t paymentId) (provider : Provider)
    {response : NormalizedPaymentResponse}
    (received : response.status = .SUCCEEDED → F.Received paymentId)
    : Within (Step (F.footprint t) t) t
        (PaymentService.persistProviderResponse x orderId paymentId provider response) := by
  refine Within.bind (Q := fun _ => True)
    (within_create (by simpa using own) (fun entry member => ?_) trivial) fun _ _ => ?_
  · simp only [List.mem_cons, List.not_mem_nil, or_false] at member
    rcases member with rfl | rfl
    · exact WritesBy.insert paid trivial trivial
    · exact WritesBy.insert trivial trivial trivial
  refine Within.bind (within_updateIn own fun row => by exact WritesBy.payment paid received)
    fun _ _ => ?_
  refine Within.bind (within_updateIn own fun row => by exact WritesBy.order ordered (by simp))
    fun _ _ => ?_
  exact Within.pure trivial

theorem within_requestPayment (config : Config) {orderId paymentId : Id}
    (ordered : F.OwnOrder t orderId) (paid : F.OwnPayment t paymentId) (initialPayment : Payment)
    {provider : Provider}
    (received : provider ≠ .PAYSTACK_NGN_BANK_TRANSFER → F.Received paymentId)
    : Within (Step (F.footprint t) t) t
        (PaymentService.requestPayment config orderId paymentId initialPayment provider) := by
  refine Within.bind (within_emit (by simp [footprint, Event.owner, Vouches])) fun _ _ => ?_
  refine Within.bind (Within.tryCatch (within_providerCreatePayment config _ provider)
    fun error => ?_) fun response pending => ?_
  · refine Within.bind (within_updateNow fun row => by exact WritesBy.payment paid (by simp))
      fun _ _ => ?_
    exact Within.throw error
  · refine Within.tryCatch ?_ fun _ => Within.pure trivial
    refine Within.bind (within_transaction fun x own =>
      within_persistProviderResponse own ordered paid provider fun succeeded => received ?_)
      fun _ _ => Within.pure trivial
    intro paystack
    simp [pending paystack] at succeeded

/-- A payment takes its terms from the order that was read, and is the customer's own. Nothing has
to be reported of a payment that is not Paystack's.
-/
theorem learns_storePayment (paymentId : Id) {payment : Payment} {order : Order}
    (known : F.known (.order payment.orderId) order) (terms : payment.For order)
    (acts : F.actsFor t payment.userId)
    (new : payment.status = .CREATED)
    : F.discipline.Learns t (create none (.payment paymentId) payment
        (PaymentService.paymentIndex paymentId payment)) fun _ => F.OwnPayment t paymentId
          ∧ (payment.provider ≠ Provider.PAYSTACK_NGN_BANK_TRANSFER.providerId
            → F.Received paymentId) := by
  refine Discipline.Learns.create (keeps t) (fun entry member => ?_) (fun entry member => ?_)
    fun world inv found => ⟨Or.inr ⟨payment, inv.1.known found, acts⟩, fun other => Or.inr
      ⟨_, inv.1.passed, payment, found, fun paystack => absurd paystack other⟩⟩
  · simp only [PaymentService.paymentIndex, List.mem_cons] at member
    rcases member with rfl | member
    · simp
    · split at member
      · obtain rfl := List.mem_singleton.mp member
        simp
      · simp at member
  · simp only [PaymentService.paymentIndex, List.mem_cons] at member
    rcases member with rfl | rfl | member
    · refine WritesBy.insert acts ⟨order, known, terms⟩ fun succeeded => ?_
      simp [new] at succeeded
    · exact WritesBy.insert trivial trivial trivial
    · split at member
      · obtain rfl := List.mem_singleton.mp member
        exact WritesBy.insert trivial trivial trivial
      · simp at member

theorem learns_establishPayment (config : Config) {userId : Id} {input : CreatePaymentInput}
    (acts : F.actsFor t userId) (idempotencyKey : Option String) {order : Order}
    (own : order.userId = userId) (known : F.known (.order input.orderId) order)
    : F.discipline.Learns t
        (PaymentService.establishPayment config userId input idempotencyKey order) := by
  refine Discipline.Learns.bind ((keeps t).learns within_now) fun time _ => ?_
  refine Discipline.Learns.bind ((keeps t).learns within_randomText) fun suffix _ => ?_
  refine Discipline.Learns.bind ((keeps t).learns (within_get config _)) fun provider _ => ?_
  refine Discipline.Learns.bind ((keeps t).learns within_randomText) fun paymentId _ => ?_
  refine Discipline.Learns.bind ((keeps t).learns within_now) fun createdAt _ => ?_
  refine Discipline.Learns.bind
    (Q := fun stored => ∀ payment, stored = Sum.inl payment → F.OwnPayment t paymentId
      ∧ (provider.providerId ≠ Provider.PAYSTACK_NGN_BANK_TRANSFER.providerId
        → F.Received paymentId))
    (Discipline.Learns.tryCatch ?_ fun error => (keeps t).learns ?_) fun stored paid => ?_
  · refine Discipline.Learns.bind (learns_storePayment paymentId known ⟨own.symm, rfl⟩ acts rfl)
      fun payment paid => Discipline.Learns.pure fun _ _ => paid
  · split
    · cases truthy idempotencyKey with
      | none => exact Within.throw _
      | some key =>
          refine Within.bind (within_select (Q := fun _ => True) fun _ => trivial) fun found _ => ?_
          cases found with
          | none => exact Within.throw _
          | some duplicate =>
              exact Within.bind within_throwIf fun _ _ => Within.pure (by simp)
    · exact Within.throw error
  · cases stored with
    | inl payment =>
        have ordered : F.OwnOrder t input.orderId := Or.inr ⟨order, known, own ▸ acts⟩
        obtain ⟨paid, received⟩ := paid payment rfl
        refine (keeps t).learns (within_requestPayment config ordered paid payment fun other => ?_)
        refine received fun paystack => other ?_
        cases provider with
        | PAYSTACK_NGN_BANK_TRANSFER => rfl
        | _ => simp [Provider.providerId] at paystack
    | inr duplicate => exact Discipline.Learns.pure trivial

theorem learns_createPayment (config : Config) {userId : Id} (acts : F.actsFor t userId)
    (input : CreatePaymentInput) (idempotencyKey : Option String)
    : F.discipline.Learns t
        (PaymentService.createPayment config userId input idempotencyKey) := by
  refine Discipline.Learns.bind learns_findUnique fun found learnt => ?_
  cases found with
  | none => exact Discipline.Learns.throw _
  | some order =>
      have known : F.known (.order input.orderId) order := (learnt order rfl).known
      refine Discipline.Learns.bind ((keeps t).learns within_throwIf) fun _ own => ?_
      have own : order.userId = userId := not_not.mp own
      cases truthy idempotencyKey with
      | none => exact learns_establishPayment config acts idempotencyKey own known
      | some key =>
          refine Discipline.Learns.bind (Q := fun _ => True)
            (Discipline.Learns.select fun _ _ => trivial) fun found _ => ?_
          cases found with
          | none => exact learns_establishPayment config acts idempotencyKey own known
          | some existing =>
              refine (keeps t).learns ?_
              exact Within.bind within_throwIf fun _ _ => Within.pure trivial

-----------------------------------------------------------------------------------------
-- Settlements
-----------------------------------------------------------------------------------------

variable [F.System t]

/-- A settlement of an order that was read, not yet begun. -/
theorem WritesBy.newSettlement {orderId : Id} {order : Order} {settlement : Settlement}
    (known : F.known (.order orderId) order) (terms : settlement.For order)
    (unsent : settlement.stellarTransactionHash = none) (pending : settlement.status = .PENDING)
    : F.WritesBy t (.settlement orderId) none settlement := by
  refine .insert (System.all _) ⟨order, known, terms⟩ ⟨?_, ?_⟩
  · simp [unsent]
  · simp [pending]

theorem learns_createSettlementForOrder (config : Config) (orderId : Id)
    : F.discipline.Learns t (SettlementService.createSettlementForOrder config orderId) := by
  refine Discipline.Learns.bind learns_findUnique fun found learnt => ?_
  cases found with
  | none => exact Discipline.Learns.throw _
  | some order =>
      have known : F.known (.order orderId) order := (learnt order rfl).known
      refine (keeps t).learns (Within.bind within_findUnique fun existing _ => ?_)
      cases existing with
      | some existing => exact Within.pure trivial
      | none =>
          refine Within.bind within_throwIf fun _ _ => ?_
          refine Within.bind (within_select (Q := fun _ => True) fun _ => trivial)
            fun active _ => ?_
          cases active with
          | some refund => exact Within.throw _
          | none =>
              refine Within.bind within_throwIf fun _ _ => ?_
              refine Within.bind within_now fun time _ => ?_
              refine Within.bind within_randomText fun suffix _ => ?_
              refine Within.tryCatch ?_ fun error => ?_
              · refine Within.bind (Q := fun _ => True)
                  (within_create (by simp) (fun entry member => ?_) trivial)
                  fun _ _ => Within.pure trivial
                simp only [List.mem_cons, List.not_mem_nil, or_false] at member
                rcases member with rfl | rfl
                · exact WritesBy.newSettlement known ⟨rfl, rfl, rfl⟩ rfl rfl
                · exact WritesBy.insert trivial trivial trivial
              · split
                · refine Within.bind within_findUnique fun duplicate _ => ?_
                  cases duplicate with
                  | some duplicate => exact Within.pure trivial
                  | none => exact Within.throw error
                · exact Within.throw error

end Foresight

end LuminaRail
