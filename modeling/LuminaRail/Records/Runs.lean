import LuminaRail.Payments.Verdicts
import LuminaRail.Records.Settling
import LuminaRail.Webhooks.Deliveries
import LuminaRail.Workers.ReservationCleanup

/-! The records of a purchase over whole runs of the system: every call of the routes, the webhooks
and the workers that writes to the database, in any number and any order.
-/

namespace LuminaRail

open Concurrency Database Service

/-- What a deployment of the system is made with. -/
structure Deployment where
  crypto : Crypto
  sdk : StellarSdk
  config : Config
  quotes : QuotesConfig

/-- The calls that write to the database. -/
inductive SystemCall
  | makingQuote (provider : QuoteProvider) (rates : FxReply) (input : GenerateQuoteInput)
  | readingQuote (quoteId : Id)
  | usingQuote (quoteId : Id)
  | creatingOrder (userId : Id) (dto : CreateOrderDTO)
  | attachingWallet (orderId userId : Id) (walletAddress : String) (isAdmin : Bool)
  | creatingPayment (userId : Id) (input : CreatePaymentInput) (idempotencyKey : Option String)
  | verifyingPayment (paymentId userId : Id) (isAdmin : Bool) (params : VerifyParams)
  | webhook (providerName : String) (request : WebhookRequest)
  | requestingRefund (userId : Id) (input : CreateRefundInput) (isAdmin : Bool)
    (idempotencyKeyHeader : Option String)
  | executingRefund (refundId : Id)
  | refundingAutomatically (orderId : Id) (paymentId : Option Id) (reason : String)
  | creatingSettlement (orderId : Id)
  | settlingOrder (orderId : Id) (stopAtSubmitting : Bool)
  | settlingOrders (batchSize : Nat) (stopAtSubmitting : Bool)
  | reconcilingSettlements (batchSize maxStaleAgeHours : Nat)
  | reconcilingPayments (batchSize minPendingAgeMinutes : Nat)
  | cleaningReservations (batchSize : Nat)
  | adjustingPool (poolId : Id) (type : TreasuryTransactionType) (amount : Int)
    (externalRef stellarTxHash : Option String)

namespace SystemCall

def thread (deployment : Deployment) : SystemCall → Program World Input Unit
  | .makingQuote provider rates input =>
      (QuoteService.requestQuote deployment.quotes provider rates input).thread
  | .readingQuote quoteId => (QuoteService.getQuoteById quoteId).thread
  | .usingQuote quoteId => (QuoteService.validateAndUseQuote quoteId).thread
  | .creatingOrder userId dto => (OrderService.createOrder userId dto).thread
  | .attachingWallet orderId userId walletAddress isAdmin =>
      (OrderService.updateOrderWallet orderId userId walletAddress isAdmin).thread
  | .creatingPayment userId input idempotencyKey =>
      (PaymentService.createPayment deployment.config userId input idempotencyKey).thread
  | .verifyingPayment paymentId userId isAdmin params =>
      (PaymentService.verifyPayment deployment.config paymentId userId isAdmin params).thread
  | .webhook providerName request =>
      (WebhookService.processWebhook deployment.crypto deployment.config providerName
        request).thread
  | .requestingRefund userId input isAdmin idempotencyKeyHeader =>
      (RefundController.createRefund deployment.config userId input isAdmin
        idempotencyKeyHeader).thread
  | .executingRefund refundId => (RefundService.executeRefund deployment.config refundId).thread
  | .refundingAutomatically orderId paymentId reason =>
      (RefundService.processAutomaticRefund deployment.config orderId paymentId reason).thread
  | .creatingSettlement orderId =>
      (SettlementService.createSettlementForOrder deployment.config orderId).thread
  | .settlingOrder orderId stopAtSubmitting =>
      (SettlementWorker.processSingleOrder deployment.sdk deployment.config orderId
        stopAtSubmitting).thread
  | .settlingOrders batchSize stopAtSubmitting =>
      (SettlementWorker.processPendingOrders deployment.sdk deployment.config batchSize
        stopAtSubmitting).thread
  | .reconcilingSettlements batchSize maxStaleAgeHours =>
      (ReconciliationDaemon.processReconciliation deployment.config batchSize
        maxStaleAgeHours).thread
  | .reconcilingPayments batchSize minPendingAgeMinutes =>
      (ReconciliationDaemon.processPaymentReconciliation deployment.config batchSize
        minPendingAgeMinutes).thread
  | .cleaningReservations batchSize =>
      (ReservationCleanupWorker.processExpiredReservations deployment.config batchSize).thread
  | .adjustingPool poolId type amount externalRef stellarTxHash =>
      (LiquidityService.recordTreasuryTransaction poolId type amount externalRef
        stellarTxHash).thread

/-- The customers in whose name a call is made: a user's request is made in his own, unless he is an
administrator, quotes are nobody's, and what the system does by itself is done for everyone.
-/
def actsFor : SystemCall → Id → Prop
  | .makingQuote _ _ _, _ | .readingQuote _, _ | .usingQuote _, _ => False
  | .creatingOrder userId _, user | .creatingPayment userId _ _, user => user = userId
  | .attachingWallet _ userId _ isAdmin, user | .verifyingPayment _ userId isAdmin _, user
  | .requestingRefund userId _ isAdmin _, user => isAdmin = true ∨ user = userId
  | _, _ => True

end SystemCall

/-- A quote that `createQuote` may make. -/
def Offered (quotes : QuotesConfig) (quote : Quote) : Prop :=
  ∃ provider replies input data,
    QuoteService.createQuote quotes provider replies input = .ok data ∧ quote = data.row

-----------------------------------------------------------------------------------------
-- Webhooks
-----------------------------------------------------------------------------------------

namespace Foresight

variable {F : Foresight} {t : Tid}

/-- A payment only succeeds in an event of Paystack's if Paystack has reported it. -/
theorem learns_parseWebhookEvent (crypto : Crypto) (config : Config) (request : WebhookRequest)
    (provider : Provider)
    : F.discipline.Learns t (provider.parseWebhookEvent crypto config request) fun event =>
        provider = .PAYSTACK_NGN_BANK_TRANSFER → event.status = .SUCCEEDED
          → ∀ name ∈ event.providerPaymentId, F.reported name := by
  by_cases paystack : provider = .PAYSTACK_NGN_BANK_TRANSFER
  · subst paystack
    refine Discipline.Learns.bind ((keeps t).learns within_throwIf) fun _ _ => ?_
    dsimp only
    split
    · rename_i reference _ named
      refine Discipline.Learns.bind (Discipline.Learns.emit (p := F.reported reference) (keeps t)
        (reports.reported _) fun world inv => inv.1.reported List.mem_cons_self)
        fun _ reported => ?_
      refine Discipline.Learns.pure fun _ _ name same => ?_
      obtain rfl := Option.some.inj (named.symm.trans same)
      exact reported
    · rename_i unnamed
      exact Discipline.Learns.pure fun _ succeeded name same => absurd same (unnamed name succeeded)
  · exact (keeps t).learns ((within_parseWebhookEvent reports crypto config request provider).weaken
      fun _ _ given => absurd given paystack)

theorem paystack_of_providerId {provider : Provider}
    (same : provider.providerId = Provider.PAYSTACK_NGN_BANK_TRANSFER.providerId)
    : provider = .PAYSTACK_NGN_BANK_TRANSFER := by
  cases provider with
  | PAYSTACK_NGN_BANK_TRANSFER => rfl
  | _ => simp [Provider.providerId] at same

theorem within_claimEvent (provider : Provider) (event : WebhookEventPayload)
    : Within (Step (F.footprint t) t) t (WebhookService.claimEvent provider event) := by
  refine Within.tryCatch ?_ fun error => ?_
  · exact Within.bind (within_insert (by simp [footprint, Event.owner, Vouches])
      WritesBy.webhookEvent) fun _ _ => Within.pure trivial
  · split
    · refine Within.bind within_findUnique fun existing _ => ?_
      split
      · exact Within.pure trivial
      · exact Within.pure trivial
    · exact Within.throw error

theorem within_applyEventInTx [F.System t] {x : TxId} (own : x.owner = t) {paymentId : Id}
    {payment : Payment} (stored : F.Stored paymentId payment) {status : PaymentStatus}
    (received : status = .SUCCEEDED → F.Received paymentId)
    : Within (Step (F.footprint t) t) t
        (WebhookService.applyEventInTx x paymentId payment status) := by
  have mine : ∀ y ∈ some x, y.owner = t := by simpa using own
  refine Within.bind (within_updateMany mine fun row _ => by
    exact WritesBy.payment (ownPayment _) received) fun count _ => ?_
  split
  · exact Within.pure trivial
  · exact Within.bind (within_updateProviderTransaction mine (ownPayment _) _) fun _ _ =>
      within_followUp mine (ownOrder _) fun succeeded => stored.paid (received succeeded)

/-- An event is applied to a payment of its provider that goes by its name. -/
theorem learns_applyEvent [F.System t] (provider : Provider) {event : WebhookEventPayload}
    (reported : provider = .PAYSTACK_NGN_BANK_TRANSFER → event.status = .SUCCEEDED
      → ∀ name ∈ event.providerPaymentId, F.reported name)
    : F.discipline.Learns t (WebhookService.applyEvent provider event) := by
  unfold WebhookService.applyEvent
  cases named : event.providerPaymentId with
  | none => exact Discipline.Learns.pure trivial
  | some name =>
      refine Discipline.Learns.bind ((keeps t).findFirst (Q := fun found =>
        F.Stored found.1 found.2 ∧ found.2.provider = provider.providerId
          ∧ (found.2.providerPaymentId = some name ∨ found.2.reference = name))
        fun world inv found member => (mem_paymentsNamed.mp member).imp_left fun found =>
          stored_of_lookup inv found) fun found listed => ?_
      cases found with
      | none => exact Discipline.Learns.pure trivial
      | some found =>
          obtain ⟨stored, of_provider, goes⟩ := listed found rfl
          have received (succeeded : event.status = .SUCCEEDED) : F.Received found.1 := by
            refine stored.received fun paystack => ⟨name, ?_, reported ?_ succeeded name named⟩
            · exact goes.elim (fun held => Or.inr (Or.inl held)) fun refers => Or.inl refers.symm
            · exact paystack_of_providerId (of_provider.symm.trans paystack)
          dsimp only
          split
          · exact (keeps t).learns (within_transaction fun _ own =>
              within_applyEventInTx own stored received)
          · exact Discipline.Learns.pure trivial

theorem learns_processWebhook [F.System t] (crypto : Crypto) (config : Config)
    (providerName : String) (request : WebhookRequest)
    : F.discipline.Learns t
        (WebhookService.processWebhook crypto config providerName request) := by
  refine Discipline.Learns.bind ((keeps t).learns (within_get config _)) fun provider _ => ?_
  refine Discipline.Learns.bind ((keeps t).learns within_throwIf) fun _ _ => ?_
  refine Discipline.Learns.bind (learns_parseWebhookEvent crypto config request provider)
    fun event reported => ?_
  refine Discipline.Learns.bind ((keeps t).learns (within_claimEvent provider event))
    fun claimed _ => ?_
  cases claimed with
  | some duplicate => exact Discipline.Learns.pure trivial
  | none =>
      refine Discipline.Learns.bind (learns_applyEvent provider reported) fun _ _ => ?_
      refine (keeps t).learns (Within.bind within_now fun time _ => ?_)
      exact Within.bind (within_updateNow fun row => WritesBy.webhookEvent) fun _ _ =>
        Within.pure trivial

-----------------------------------------------------------------------------------------
-- Liquidity
-----------------------------------------------------------------------------------------

theorem within_recordTreasuryTransaction (poolId : Id) (type : TreasuryTransactionType)
    (amount : Int) (externalRef stellarTxHash : Option String)
    : Within (Step (F.footprint t) t) t
        (LiquidityService.recordTreasuryTransaction poolId type amount externalRef
          stellarTxHash) := by
  refine Within.bind within_throwIf fun _ _ => within_transaction fun x own => ?_
  refine Within.bind (within_selectForUpdate own) fun _ _ => ?_
  refine Within.bind within_findUniqueOrThrow fun pool _ => ?_
  refine Within.bind within_throwIf fun _ _ => Within.bind within_throwIf fun _ _ => ?_
  refine Within.bind (within_updateIn own fun row => WritesBy.pool) fun _ _ => ?_
  refine Within.bind within_randomText fun id _ => Within.bind within_now fun time _ => ?_
  refine within_create (by simpa using own) (fun entry member => ?_) trivial
  obtain rfl := List.mem_singleton.mp member
  exact WritesBy.treasury

variable [F.System t]

theorem within_processSingleReservation (orderId : Id)
    : Within (Step (F.footprint t) t) t
        (ReservationCleanupWorker.processSingleReservation orderId) := by
  refine Within.bind within_findUnique fun found _ => ?_
  cases found with
  | none => exact Within.pure trivial
  | some reservation =>
      dsimp only
      split
      · exact Within.pure trivial
      refine Within.bind (Q := fun _ => True)
        (within_releaseReservation (ownOrder orderId) (by simp)) fun expired _ => ?_
      cases expired with
      | none => exact Within.pure trivial
      | some _ =>
          refine Within.bind within_findUnique fun order _ => ?_
          cases order with
          | none => exact Within.pure trivial
          | some order =>
              dsimp only
              split
              · refine Within.bind
                  (within_emit (by simp [footprint, Event.owner, Vouches])) fun _ _ => ?_
                exact Within.bind (within_updateNow fun row => by
                  exact WritesBy.order (ownOrder _) (by simp)) fun _ _ => Within.pure trivial
              · exact Within.pure trivial

theorem within_processExpiredReservations (config : Config) (batchSize : Nat)
    : Within (Step (F.footprint t) t) t
        (ReservationCleanupWorker.processExpiredReservations config batchSize) := by
  refine Within.bind (within_acquire config _) fun lock own => ?_
  split
  · exact Within.pure trivial
  · refine within_finally' ?_ (within_releaseAny own)
    refine Within.bind within_now fun time _ => ?_
    refine Within.bind (within_select (Q := fun _ => True) fun _ => trivial) fun expired _ => ?_
    exact Within.forM fun found _ => within_processSingleReservation found.1

end Foresight

-----------------------------------------------------------------------------------------
-- The system
-----------------------------------------------------------------------------------------

namespace Foresight

variable {F : Foresight} {t : Tid}

/-- Every call keeps the discipline if the quotes of the deployment count as offered. -/
theorem safe_systemCall {deployment : Deployment} {world : World}
    (configured : F.config = deployment.config)
    (offers : ∀ quote, Offered deployment.quotes quote → F.offered quote) (paired : F.Paired t)
    (call : SystemCall) (acts : ∀ user, call.actsFor user → F.actsFor t user)
    (holds : F.discipline.accountable.inv world)
    : F.discipline.accountable.Safe t (fun _ _ => True) (call.thread deployment) world := by
  have system (all : ∀ user, call.actsFor user) : F.System t := ⟨fun user => acts user (all user)⟩
  cases call with
  | makingQuote provider rates input =>
      exact Service.thread_safe (learns_requestQuote fun replies data made =>
        offers _ ⟨provider, replies, input, data, made, rfl⟩) holds trivial
  | readingQuote quoteId =>
      exact Service.thread_safe (learns_getQuoteById quoteId) holds trivial
  | usingQuote quoteId =>
      exact Service.thread_safe (learns_validateAndUseQuote quoteId) holds trivial
  | creatingOrder userId dto =>
      exact Service.thread_safe (learns_createOrder (acts userId rfl) dto) holds trivial
  | attachingWallet orderId userId walletAddress isAdmin =>
      exact Service.thread_safe (learns_updateOrderWallet orderId walletAddress acts) holds trivial
  | creatingPayment userId input idempotencyKey =>
      exact Service.thread_safe
        (learns_createPayment deployment.config (acts userId rfl) input idempotencyKey) holds
        trivial
  | verifyingPayment paymentId userId isAdmin params =>
      exact Service.thread_safe
        (learns_verifyPayment paired deployment.config paymentId acts params) holds trivial
  | webhook providerName request =>
      have := system fun _ => trivial
      exact Service.thread_safe (learns_processWebhook deployment.crypto deployment.config
        providerName request) holds trivial
  | requestingRefund userId input isAdmin header =>
      exact Service.thread_safe
        (learns_requestRefund paired deployment.config input acts header) holds trivial
  | executingRefund refundId =>
      have := system fun _ => trivial
      exact Service.thread_safe
        (learns_executeRefund paired deployment.config (Or.inl System.all)) holds trivial
  | refundingAutomatically orderId paymentId reason =>
      have := system fun _ => trivial
      exact Service.thread_safe
        (learns_processAutomaticRefund deployment.config orderId paymentId reason) holds trivial
  | creatingSettlement orderId =>
      have := system fun _ => trivial
      exact Service.thread_safe (learns_createSettlementForOrder deployment.config orderId) holds
        trivial
  | settlingOrder orderId stopAtSubmitting =>
      have := system fun _ => trivial
      simp only [SystemCall.thread, ← configured]
      exact Service.thread_safe (learns_processSingleOrder deployment.sdk orderId stopAtSubmitting)
        holds trivial
  | settlingOrders batchSize stopAtSubmitting =>
      have := system fun _ => trivial
      simp only [SystemCall.thread, ← configured]
      exact Service.thread_safe (learns_processPendingOrders deployment.sdk batchSize
        stopAtSubmitting) holds trivial
  | reconcilingSettlements batchSize maxStaleAgeHours =>
      have := system fun _ => trivial
      exact Service.thread_safe (learns_processReconciliation deployment.config batchSize
        maxStaleAgeHours) holds trivial
  | reconcilingPayments batchSize minPendingAgeMinutes =>
      have := system fun _ => trivial
      exact Service.thread_safe (learns_processPaymentReconciliation deployment.config batchSize
        minPendingAgeMinutes) holds trivial
  | cleaningReservations batchSize =>
      have := system fun _ => trivial
      exact Service.thread_safe ((keeps t).learns
        (within_processExpiredReservations deployment.config batchSize)) holds trivial
  | adjustingPool poolId type amount externalRef stellarTxHash =>
      have := system fun _ => trivial
      exact Service.thread_safe ((keeps t).learns (within_recordTreasuryTransaction poolId type
        amount externalRef stellarTxHash)) holds trivial

end Foresight

-----------------------------------------------------------------------------------------
-- Terms over a run
-----------------------------------------------------------------------------------------

section

variable {deployment : Deployment} {calls : Tid → SystemCall} {rows : AList Row}
  {pool last : Pool World Input}

/-- The calls on a database that has just been started. -/
def startOf (deployment : Deployment) (calls : Tid → SystemCall) (rows : AList Row)
    : Pool World Input :=
  ⟨World.start rows, fun t => (calls t).thread deployment⟩

/-- Nothing is known of the run. -/
def Foresight.blind (config : Config) : Foresight where
  config := config
  offered _ := True
  passed _ := True
  known _ _ := True
  sent _ _ := True
  succeeded _ := True
  completed _ := True
  reported _ := True
  receivedBefore _ := True
  paidBefore _ := True
  consumedBefore _ := True
  actsFor _ _ := True

instance (config : Config) (t : Tid) : (Foresight.blind config).System t := ⟨fun _ => trivial⟩

theorem Foresight.foretells_blind (config : Config) (world : World)
    : (Foresight.blind config).Foretells world :=
  ⟨trivial, fun _ => trivial, fun _ => trivial, fun _ => trivial, fun _ => trivial⟩

theorem Foresight.backed_blind (config : Config) {key : Key} (row : Row key)
    : (Foresight.blind config).Backed key row := by
  cases key with
  | order id => exact ⟨fun _ => Or.inl trivial, fun _ => Or.inl trivial⟩
  | payment id => exact fun _ => Or.inl trivial
  | settlement id => exact ⟨fun _ _ => trivial, fun _ => Or.inl trivial⟩
  | liquidityReservation id => exact ⟨fun _ => Or.inl trivial, fun _ => Or.inl trivial⟩
  | _ => trivial

/-- In a run that is foreseen the calls keep the discipline. -/
theorem Foresight.verified {F : Foresight} (configured : F.config = deployment.config)
    (begins : F.discipline.inv (World.start rows))
    (offers : ∀ quote, Offered deployment.quotes quote → F.offered quote)
    (paired : ∀ t, F.Paired t) (acts : ∀ t user, (calls t).actsFor user → F.actsFor t user)
    (run : Run (machine anyExpiry) F.discipline.allowed (startOf deployment calls rows) pool)
    : pool.Verified F.discipline.accountable := by
  refine Discipline.accountable_verified Foresight.observable rfl begins (fun t => ?_) run
  exact Foresight.safe_systemCall configured offers (paired t) (calls t) (acts t)
    ⟨begins, Server.AllJustified.start rows⟩

/-- Between any two points of a run rows are only replaced by rows of the same terms, none is
removed, and no event is forgotten.
-/
theorem Run.terms (reached : AnyRun (machine anyExpiry) (startOf deployment calls rows) pool)
    (run : AnyRun (machine anyExpiry) pool last)
    : Server.Evolves (Foresight.blind deployment.config).Writes pool.state.db.committed
        last.state.db.committed
      ∧ ∀ event ∈ pool.state.trace, event ∈ last.state.trace := by
  have foretells := Foresight.foretells_blind deployment.config
  have begins : (Foresight.blind deployment.config).discipline.inv (World.start rows) :=
    ⟨foretells _, fun _ row _ => Foresight.backed_blind _ row, by simp [World.start]⟩
  have verified : pool.Verified (Foresight.blind deployment.config).discipline.accountable :=
    Foresight.verified rfl begins (fun _ _ => trivial) (fun _ => Foresight.paired)
      (fun _ _ _ => trivial) (reached.mono fun _ _ after _ => foretells after)
  exact (Discipline.run_evolves Foresight.observable
    (Foresight.blind deployment.config).discipline.transitive verified
    (run.mono fun _ _ after _ => foretells after)).2

/-- Whatever calls run, in whatever order they act, fail and crash: a record that is stored at
some point of a run is stored at every later point under the same terms. By what the steps of
the run may write in place of a row.
-/
theorem record_keeps_its_terms
    (reached : AnyRun (machine anyExpiry) (startOf deployment calls rows) pool)
    (run : AnyRun (machine anyExpiry) pool last) {key : Key} {row : Row key}
    (stored : pool.state.db.committed.lookup key = some row)
    : ∃ later, last.state.db.committed.lookup key = some later ∧ OfSameTerms key row later := by
  obtain ⟨evolved, _⟩ := Run.terms reached run
  exact Foresight.kept_terms evolved stored

/-- A deployment with one signer, one wallet and two contracts, where an envelope pays 50 USDC. -/
def testnet : Deployment where
  crypto := ⟨fun _ body => body, id⟩
  sdk :=
    { fromXDR := fun _ passphrase => some ⟨passphrase,
        [.invokeHostFunction (.invokeContract "CVAULT" "create_settlement"
          [{ number := some (parseSettlementIdToU64 "STL_0_" : Int) },
            { address := some "GSIGNER" }, { address := some "GWALLET" },
            { address := some "CUSDC" }, { number := some 500000000 }])]⟩
      toXDR := fun _ => "envelope"
      signXDR := fun xdr _ => xdr
      isValidEd25519PublicKey := fun key => key = "GSIGNER" || key = "GWALLET"
      isValidContract := fun key => key = "CVAULT" || key = "CUSDC"
      publicKeyOf := fun _ => some "GSIGNER"
      kmsPublicKey := "GSIGNER" }
  config :=
    { stellar :=
        { usdcContractId := some "CUSDC"
          settlementVaultContractId := "CVAULT"
          signerSecretKey := some "SSIGNER"
          signerPublicKey := some "GSIGNER" } }
  quotes := {}

/-- An order of 50 USDC that has been paid. -/
def paid : Order :=
  { userId := "user", quoteId := "quote", status := .SETTLEMENT_PENDING,
    sourceCurrency := "NGN", destinationAsset := "USDC", sourceAmount := 20000,
    destinationAmount := 500000000, walletAddress := some "GWALLET" }

/-- The order with its payment and its reservation. -/
def paidRows : AList Row :=
  (((∅ : AList Row).insert (.order "order") paid).insert (.payment "payment")
    ({ orderId := "order", userId := "user", amount := 20000, currency := "NGN",
       status := .SUCCEEDED, reference := "reference" } : Payment)).insert
    (.liquidityReservation "order")
    ({ poolId := "pool", amount := 500000000, status := .CONFIRMED, expiresAt := 900000 }
      : LiquidityReservation)

/-- The worker settles the order. -/
def settlesOrder (_ : Tid) : SystemCall := .settlingOrder "order" false

/-- Whether the order is COMPLETED. -/
def isCompleted (pool : Pool World Input) : Bool :=
  (pool.state.db.committed.lookup (.order "order")).any fun (order : Order) =>
    order.status = .COMPLETED

/-- The transaction is simulated, sent and confirmed. -/
def settlingInputs : List Input :=
  let quiet : Input := {}
  List.replicate 18 quiet ++ [{ reply := .simulationSuccess }] ++ List.replicate 10 quiet
    ++ [{ reply := .sent false "HASH" }] ++ List.replicate 10 quiet
    ++ [{ reply := .transactionStatus .SUCCESS 7 }] ++ List.replicate 14 quiet

theorem settled
    : ∃ last, AnyRun (machine anyExpiry) (startOf testnet settlesOrder paidRows) last
      ∧ isCompleted last = true := by
  have went : ((startOf testnet settlesOrder paidRows).schedule (machine anyExpiry)
      (settlingInputs.map (.run 0))).map isCompleted = some true := by
    decide +kernel
  exact AnyRun.of_schedule_map went

/-- The order is COMPLETED under its terms. -/
theorem record_keeps_its_terms_settled
    : ∃ last, AnyRun (machine anyExpiry) (startOf testnet settlesOrder paidRows) last
      ∧ ∃ order : Order, last.state.db.committed.lookup (.order "order") = some order
        ∧ order.status = .COMPLETED ∧ OfSameTerms (.order "order") paid order := by
  obtain ⟨last, run, completed⟩ := settled
  obtain ⟨order, stored, same⟩ := record_keeps_its_terms (.refl _) run
    (show (startOf testnet settlesOrder paidRows).state.db.committed.lookup (.order "order")
      = some paid by rfl)
  refine ⟨last, run, order, stored, ?_, same⟩
  simpa [isCompleted, stored] using completed

-----------------------------------------------------------------------------------------
-- Links over a run
-----------------------------------------------------------------------------------------

/-- A transaction that an order's settlement was stored with when the run began. -/
def StoredWith (rows : AList Row) (orderId : Id) (transactionHash : String) : Prop :=
  ∃ settlement : Settlement, rows.lookup (.settlement orderId) = some settlement
    ∧ settlement.stellarTransactionHash = some transactionHash

/-- An order or settlement that was COMPLETED when the run began. -/
def BegunCompleted (rows : AList Row) (orderId : Id) : Prop :=
  (∃ order : Order, rows.lookup (.order orderId) = some order ∧ order.status = .COMPLETED)
    ∨ ∃ settlement : Settlement, rows.lookup (.settlement orderId) = some settlement
      ∧ settlement.status = .COMPLETED

/-- A payment that has succeeded. -/
def PaymentSucceeded (rows : AList Row) (paymentId : Id) : Prop :=
  ∃ payment : Payment, rows.lookup (.payment paymentId) = some payment
    ∧ payment.status = .SUCCEEDED

/-- An order that is confirmed as paid, by itself or by its reservation. -/
def OrderConfirmed (rows : AList Row) (orderId : Id) : Prop :=
  (∃ order : Order, rows.lookup (.order orderId) = some order
      ∧ (order.status = .PAYMENT_CONFIRMED ∨ order.status = .SETTLEMENT_PENDING))
    ∨ ∃ reservation : LiquidityReservation,
      rows.lookup (.liquidityReservation orderId) = some reservation
        ∧ reservation.status = .CONFIRMED

/-- A reservation that has been consumed. -/
def ReservationConsumed (rows : AList Row) (orderId : Id) : Prop :=
  ∃ reservation : LiquidityReservation,
    rows.lookup (.liquidityReservation orderId) = some reservation
      ∧ reservation.status = .CONSUMED

/-- What the database has held at some point on the way to `last`. -/
def HasHeld (deployment : Deployment) (calls : Tid → SystemCall) (rows : AList Row)
    (last : Pool World Input) (held : AList Row) : Prop :=
  ∃ pool, AnyRun (machine anyExpiry) (startOf deployment calls rows) pool
    ∧ AnyRun (machine anyExpiry) pool last ∧ pool.state.db.committed = held

/-- What the end of a run knows of the run. -/
def Foresight.hindsight (deployment : Deployment) (calls : Tid → SystemCall) (rows : AList Row)
    (last : Pool World Input) (actsFor : Tid → Id → Prop := fun _ _ => True) : Foresight where
  config := deployment.config
  offered := Offered deployment.quotes
  passed := HasHeld deployment calls rows last
  known key row :=
    ∃ later, last.state.db.committed.lookup key = some later ∧ OfSameTerms key row later
  sent orderId transactionHash :=
    .broadcast orderId transactionHash ∈ last.state.trace
      ∨ StoredWith rows orderId transactionHash
  succeeded transactionHash := .statusAnswered transactionHash .SUCCESS ∈ last.state.trace
  completed := BegunCompleted rows
  reported name := .paymentReported name ∈ last.state.trace
  receivedBefore := PaymentSucceeded rows
  paidBefore := OrderConfirmed rows
  consumedBefore := ReservationConsumed rows
  actsFor := actsFor

instance (t : Tid) : (Foresight.hindsight deployment calls rows last).System t :=
  ⟨fun _ => trivial⟩

section

variable {actsFor : Tid → Id → Prop}

/-- Whatever a run passes through is known in hindsight. -/
theorem Run.foretells
    (reached : AnyRun (machine anyExpiry) (startOf deployment calls rows) pool)
    (rest : AnyRun (machine anyExpiry) pool last)
    : (Foresight.hindsight deployment calls rows last actsFor).Foretells pool.state :=
  ⟨⟨pool, reached, rest, rfl⟩, Foresight.kept_terms (Run.terms reached rest).1,
    fun member => Or.inl ((Run.terms reached rest).2 _ member),
    fun member => (Run.terms reached rest).2 _ member,
    fun member => (Run.terms reached rest).2 _ member⟩

/-- In hindsight every part of a run has been foreseen. -/
theorem Run.foreseen
    (reached : AnyRun (machine anyExpiry) (startOf deployment calls rows) pool)
    (rest : AnyRun (machine anyExpiry) pool last)
    : Run (machine anyExpiry)
        (Foresight.hindsight deployment calls rows last actsFor).discipline.allowed
        (startOf deployment calls rows) pool := by
  refine reached.hindsight.mono fun _ _ after passed => ?_
  obtain ⟨_, between, early, late, rfl⟩ := passed
  exact Run.foretells early (late.trans rest)

/-- In hindsight every part of a run has kept the discipline. -/
theorem Run.accountable
    (paired : ∀ t, (Foresight.hindsight deployment calls rows last actsFor).Paired t)
    (acts : ∀ t user, (calls t).actsFor user → actsFor t user)
    (reached : AnyRun (machine anyExpiry) (startOf deployment calls rows) pool)
    (rest : AnyRun (machine anyExpiry) pool last)
    : pool.Verified
        (Foresight.hindsight deployment calls rows last actsFor).discipline.accountable := by
  have quiet : ∀ event ∈ (World.start rows).trace,
      (Foresight.hindsight deployment calls rows last actsFor).Vouches event := by
    simp [World.start]
  refine Foresight.verified rfl ⟨Run.foretells (.refl _) (reached.trans rest), ?_, quiet⟩
    (fun _ => id) paired acts (Run.foreseen reached rest)
  intro key row stored
  cases key with
  | order id =>
      exact ⟨fun completed => Or.inl (Or.inl ⟨row, stored, completed⟩),
        fun paid => Or.inl (Or.inl ⟨row, stored, paid⟩)⟩
  | payment id => exact fun succeeded => Or.inl ⟨row, stored, succeeded⟩
  | liquidityReservation id =>
      exact ⟨fun confirmed => Or.inl (Or.inr ⟨row, stored, confirmed⟩),
        fun consumed => Or.inl ⟨row, stored, consumed⟩⟩
  | settlement id =>
      exact ⟨fun _ sent => Or.inr ⟨row, stored, sent⟩,
        fun completed => Or.inl (Or.inr ⟨row, stored, completed⟩)⟩
  | _ => trivial

end

/-- In hindsight the run has kept the discipline. -/
theorem Run.in_hindsight
    (run : AnyRun (machine anyExpiry) (startOf deployment calls rows) last)
    : (Foresight.hindsight deployment calls rows last).discipline.inv last.state
      ∧ Server.Evolves (Foresight.hindsight deployment calls rows last).Writes rows
          last.state.db.committed := by
  have verified := Run.accountable (fun _ => Foresight.paired) (fun _ _ _ => trivial) (.refl _) run
  obtain ⟨ended, evolved, _⟩ := Discipline.run_evolves Foresight.observable
    (Foresight.hindsight deployment calls rows last).discipline.transitive verified
    (Run.foreseen run (.refl _))
  exact ⟨ended.inv.1, evolved⟩

/-- What the records refer to is stored, and they have taken their terms from there. -/
def AllLinked (quotes : QuotesConfig) (rows : AList Row) : Prop :=
  ∀ key row, rows.lookup key = some row
    → Linked (Offered quotes) (fun key row => rows.lookup key = some row) key row

/-- Rows that are linked are so after every run: an old one has kept its terms, and a new one is
linked to what is known at the end.
-/
theorem AllLinked.after_run (linked : AllLinked deployment.quotes rows)
    (run : AnyRun (machine anyExpiry) (startOf deployment calls rows) last)
    : AllLinked deployment.quotes last.state.db.committed := by
  intro key row stored
  obtain ⟨_, evolved⟩ := Run.in_hindsight run
  have kept {key : Key} {row : Row key} (begun : rows.lookup key = some row) :=
    Foresight.kept_terms evolved begun
  cases begun : rows.lookup key with
  | some old =>
      obtain ⟨later, found, same⟩ := kept begun
      obtain rfl := Option.some.inj (stored.symm.trans found)
      exact (linked key old begun).ofSameTerms same fun _ _ => kept
  | none =>
      rcases evolved.rows stored with same | written
      · simp [begun] at same
      · exact (written.linked begun).ofSameTerms (OfSameTerms.refl key row) fun _ _ known => known

/-- Whatever calls run, in whatever order they act, fail and crash: records that are linked stay
so, and those that are made are linked. By what may be written, as it is known in hindsight.
-/
theorem records_stay_linked (linked : AllLinked deployment.quotes rows)
    (run : AnyRun (machine anyExpiry) (startOf deployment calls rows) last)
    : AllLinked deployment.quotes last.state.db.committed :=
  linked.after_run run

/-- A quote is made, then ordered. -/
def ordersQuote (t : Tid) : SystemCall :=
  if t = 0 then
    .makingQuote .mock .aborted
      { sourceCurrency := "NGN", destinationAsset := "USDC", amount := some 100000 }
  else
    .creatingOrder "user" { quoteId := "quote" }

/-- An order of an empty database is linked to its quote. -/
theorem records_stay_linked_ordered
    : ∃ last, AnyRun (machine anyExpiry) (startOf testnet ordersQuote ∅) last
      ∧ (last.state.db.committed.lookup (.order "quote")).isSome
      ∧ AllLinked testnet.quotes last.state.db.committed := by
  have went : ((startOf testnet ordersQuote ∅).schedule (machine anyExpiry)
      (List.replicate 6 (.run 0 { text := "quote" })
        ++ List.replicate 17 (.run 1 { text := "quote" }))).map
        (fun pool => (pool.state.db.committed.lookup (.order "quote")).isSome) = some true := by
    decide +kernel
  obtain ⟨last, run, stored⟩ := AnyRun.of_schedule_map went
  exact ⟨last, run, stored, records_stay_linked (by intro key row stored; simp at stored) run⟩

-----------------------------------------------------------------------------------------
-- Completions over a run
-----------------------------------------------------------------------------------------

/-- A transaction of the order was broadcast, or had been when the run began, and the network has
answered that it has succeeded.
-/
def Succeeded (rows : AList Row) (trace : List Event) (orderId : Id) : Prop :=
  ∃ transactionHash,
    (.broadcast orderId transactionHash ∈ trace ∨ StoredWith rows orderId transactionHash)
      ∧ .statusAnswered transactionHash .SUCCESS ∈ trace

/-- Whatever calls run, in whatever order they act, fail and crash: an order or settlement that
was not COMPLETED when the run began becomes so only after a transaction of that very order has
been reported to be successful. By the invariant that a completed row is backed, at the end of
the run.
-/
theorem completed_after_success (unfinished : ¬BegunCompleted rows orderId)
    (run : AnyRun (machine anyExpiry) (startOf deployment calls rows) last)
    (completed : BegunCompleted last.state.db.committed orderId)
    : Succeeded rows last.state.trace orderId := by
  obtain ⟨⟨_, backed, _⟩, _⟩ := Run.in_hindsight run
  have landed : (Foresight.hindsight deployment calls rows last).Landed orderId := by
    rcases completed with ⟨order, stored, completed⟩ | ⟨settlement, stored, completed⟩
    · exact (backed (.order orderId) order stored).1 completed
    · exact (backed (.settlement orderId) settlement stored).2 completed
  exact landed.resolve_left unfinished

/-- The order that the worker settles is COMPLETED after the success of its transaction. -/
theorem completed_after_success_settled
    : ∃ last, AnyRun (machine anyExpiry) (startOf testnet settlesOrder paidRows) last
      ∧ Succeeded paidRows last.state.trace "order" := by
  obtain ⟨last, run, completed⟩ := settled
  refine ⟨last, run, completed_after_success ?_ run ?_⟩
  · rintro (⟨order, stored, completed⟩ | ⟨settlement, stored, -⟩)
    · have unfinished : paidRows.lookup (.order "order") = some paid := rfl
      obtain rfl := Option.some.inj (unfinished.symm.trans stored)
      simp [paid] at completed
    · have absent : paidRows.lookup (.settlement "order") = none := rfl
      simp [absent] at stored
  · obtain ⟨order, stored, status⟩ := (Option.any_eq_true _ _).mp completed
    exact Or.inl ⟨order, stored, of_decide_eq_true status⟩

/-- Whatever calls run, in whatever order they act, fail and crash: a reservation that was not
CONSUMED when the run began becomes so only for an order that was completed by then or of which
a transaction has been reported to be successful. By the invariant that a consumed reservation
is backed, at the end of the run.
-/
theorem consumed_after_success (unconsumed : ¬ReservationConsumed rows orderId)
    (run : AnyRun (machine anyExpiry) (startOf deployment calls rows) last)
    (consumed : ReservationConsumed last.state.db.committed orderId)
    : BegunCompleted rows orderId ∨ Succeeded rows last.state.trace orderId := by
  obtain ⟨⟨_, backed, _⟩, _⟩ := Run.in_hindsight run
  obtain ⟨reservation, stored, consumed⟩ := consumed
  have landed := (backed (.liquidityReservation orderId) reservation stored).2 consumed
  exact landed.resolve_left unconsumed

/-- The order with its payment and its reservation, and the pool of the reservation. -/
def fundedRows : AList Row :=
  paidRows.insert (.liquidityPool "pool")
    ({ totalBalance := 1000000000, reservedBalance := 500000000, availableBalance := 500000000 }
      : LiquidityPool)

/-- The reservation of the order that the worker settles is CONSUMED after the success of its
transaction.
-/
theorem consumed_after_success_settled
    : ∃ last, AnyRun (machine anyExpiry) (startOf testnet settlesOrder fundedRows) last
      ∧ (BegunCompleted fundedRows "order" ∨ Succeeded fundedRows last.state.trace "order") := by
  have went : ((startOf testnet settlesOrder fundedRows).schedule (machine anyExpiry)
      ((settlingInputs ++ List.replicate 3 ({} : Input)).map (.run 0))).map (fun pool =>
        (pool.state.db.committed.lookup (.liquidityReservation "order")).any
          fun (reservation : LiquidityReservation) => reservation.status = .CONSUMED)
        = some true := by
    decide +kernel
  obtain ⟨last, run, consumed⟩ := AnyRun.of_schedule_map went
  refine ⟨last, run, consumed_after_success ?_ run ?_⟩
  · intro begun
    obtain ⟨reservation, stored, consumed⟩ := begun
    have held : fundedRows.lookup (.liquidityReservation "order")
        = some ⟨"pool", 500000000, .CONFIRMED, 900000⟩ := rfl
    obtain rfl := Option.some.inj (held.symm.trans stored)
    simp at consumed
  · obtain ⟨reservation, stored, status⟩ := (Option.any_eq_true _ _).mp consumed
    exact ⟨reservation, stored, of_decide_eq_true status⟩

-----------------------------------------------------------------------------------------
-- Payments over a run
-----------------------------------------------------------------------------------------

/-- Paystack has reported the payment as successful, if it is one of Paystack's: under its
reference, under the name that Paystack has given it or, if it has no reference, under the
idempotency key of its order.
-/
def PaymentReported (rows : AList Row) (trace : List Event) (payment : Payment) : Prop :=
  payment.provider = Provider.PAYSTACK_NGN_BANK_TRANSFER.providerId
    → ∃ name, .paymentReported name ∈ trace ∧ (name = payment.reference
      ∨ payment.providerPaymentId = some name
      ∨ (payment.reference = "" ∧ ∃ order : Order,
        rows.lookup (.order payment.orderId) = some order ∧ order.idempotencyKey = some name))

/-- The payment has been reported by a name that it had at some point of the run. -/
def ReportedInRun (deployment : Deployment) (calls : Tid → SystemCall) (rows : AList Row)
    (last : Pool World Input) (paymentId : Id) : Prop :=
  ∃ held, HasHeld deployment calls rows last held ∧ ∃ payment : Payment,
    held.lookup (.payment paymentId) = some payment
      ∧ PaymentReported last.state.db.committed last.state.trace payment

theorem Run.reported {payment : Payment}
    (reported : (Foresight.hindsight deployment calls rows last).Reported payment)
    : PaymentReported last.state.db.committed last.state.trace payment := by
  intro paystack
  obtain ⟨name, named, told⟩ := reported paystack
  refine ⟨name, told, ?_⟩
  rcases named with refers | held | ⟨unreferenced, order, ⟨later, found, same⟩, keyed⟩
  · exact Or.inl refers
  · exact Or.inr (Or.inl held)
  · have terms : Order.terms later = Order.terms order := same
    have kept : later.idempotencyKey = order.idempotencyKey := by
      simpa [Order.terms] using congrArg Order.idempotencyKey terms
    exact Or.inr (Or.inr ⟨unreferenced, later, found, kept.trans keyed⟩)

theorem Run.received {paymentId : Id}
    (received : (Foresight.hindsight deployment calls rows last).Received paymentId)
    : PaymentSucceeded rows paymentId ∨ ReportedInRun deployment calls rows last paymentId := by
  rcases received with before | ⟨held, passed, payment, stored, reported⟩
  · exact Or.inl before
  · exact Or.inr ⟨held, passed, payment, stored, Run.reported reported⟩

/-- Whatever calls run, in whatever order they act, fail and crash: a payment of Paystack's that
had not succeeded when the run began becomes SUCCEEDED only after Paystack has reported it. By
the invariant that a successful payment is backed, at the end of the run.
-/
theorem succeeded_after_report (unpaid : ¬PaymentSucceeded rows paymentId)
    (run : AnyRun (machine anyExpiry) (startOf deployment calls rows) last)
    (succeeded : PaymentSucceeded last.state.db.committed paymentId)
    : ReportedInRun deployment calls rows last paymentId := by
  obtain ⟨⟨_, backed, _⟩, _⟩ := Run.in_hindsight run
  obtain ⟨payment, stored, succeeded⟩ := succeeded
  exact (Run.received (backed (.payment paymentId) payment stored succeeded)).resolve_left unpaid

/-- Payments go through Paystack. -/
def paystackDeployment : Deployment := { testnet with config := paystackConfig }

/-- The customer has his payment verified. -/
def verifiesPayment (_ : Tid) : SystemCall := .verifyingPayment "payment" "user" false {}

theorem verified_by_paystack
    : ∃ last, AnyRun (machine anyExpiry)
        (startOf paystackDeployment verifiesPayment (awaitingPayment none)) last
      ∧ PaymentSucceeded last.state.db.committed "payment"
      ∧ OrderConfirmed last.state.db.committed "order" := by
  have went : ((startOf paystackDeployment verifiesPayment (awaitingPayment none)).schedule
      (machine anyExpiry) (List.replicate 12 (.run 0 verifiedPayment))).map (fun pool =>
        (pool.state.db.committed.lookup (.payment "payment")).any
            (fun (payment : Payment) => payment.status = .SUCCEEDED)
          && (pool.state.db.committed.lookup (.order "order")).any
            fun (order : Order) => order.status = .PAYMENT_CONFIRMED) = some true := by
    decide +kernel
  obtain ⟨last, run, paid⟩ := AnyRun.of_schedule_map went
  obtain ⟨succeeded, confirmed⟩ := (Bool.and_eq_true _ _).mp paid
  obtain ⟨payment, stored, succeeded⟩ := (Option.any_eq_true _ _).mp succeeded
  obtain ⟨order, found, confirmed⟩ := (Option.any_eq_true _ _).mp confirmed
  exact ⟨last, run, ⟨payment, stored, of_decide_eq_true succeeded⟩,
    Or.inl ⟨order, found, Or.inl (of_decide_eq_true confirmed)⟩⟩

/-- The payment that is verified has been reported. -/
theorem succeeded_after_report_verified
    : ∃ last, AnyRun (machine anyExpiry)
        (startOf paystackDeployment verifiesPayment (awaitingPayment none)) last
      ∧ ReportedInRun paystackDeployment verifiesPayment (awaitingPayment none) last
        "payment" := by
  obtain ⟨last, run, succeeded, _⟩ := verified_by_paystack
  refine ⟨last, run, succeeded_after_report ?_ run succeeded⟩
  intro begun
  obtain ⟨payment, stored, succeeded⟩ := begun
  have pending : (awaitingPayment none).lookup (.payment "payment")
      = some paidThroughPaystack := rfl
  obtain rfl := Option.some.inj (pending.symm.trans stored)
  simp [paidThroughPaystack] at succeeded

/-- Whatever calls run, in whatever order they act, fail and crash: an order that was not
confirmed as paid when the run began is confirmed only after a payment of that very order had
succeeded or has been reported. By the invariant that a confirmed order is backed, at the end of
the run.
-/
theorem confirmed_after_report (unconfirmed : ¬OrderConfirmed rows orderId)
    (run : AnyRun (machine anyExpiry) (startOf deployment calls rows) last)
    (confirmed : OrderConfirmed last.state.db.committed orderId)
    : ∃ paymentId, ∃ payment : Payment,
      last.state.db.committed.lookup (.payment paymentId) = some payment
        ∧ payment.orderId = orderId
        ∧ (PaymentSucceeded rows paymentId
          ∨ ReportedInRun deployment calls rows last paymentId) := by
  obtain ⟨⟨_, backed, _⟩, _⟩ := Run.in_hindsight run
  have paid : (Foresight.hindsight deployment calls rows last).Paid orderId := by
    rcases confirmed with ⟨order, stored, confirmed⟩ | ⟨reservation, stored, confirmed⟩
    · exact (backed (.order orderId) order stored).2 confirmed
    · exact (backed (.liquidityReservation orderId) reservation stored).1 confirmed
  obtain ⟨paymentId, payment, ⟨later, found, same⟩, of_order, received⟩ :=
    paid.resolve_left unconfirmed
  have terms : Payment.terms later = Payment.terms payment := same
  have kept : later.orderId = payment.orderId := by
    simpa [Payment.terms] using congrArg Payment.orderId terms
  exact ⟨paymentId, later, found, kept.trans of_order, Run.received received⟩

/-- The order is confirmed after the report of its payment. -/
theorem confirmed_after_report_verified
    : ∃ last, AnyRun (machine anyExpiry)
        (startOf paystackDeployment verifiesPayment (awaitingPayment none)) last
      ∧ ∃ paymentId, ∃ payment : Payment,
        last.state.db.committed.lookup (.payment paymentId) = some payment
          ∧ payment.orderId = "order"
          ∧ (PaymentSucceeded (awaitingPayment none) paymentId
            ∨ ReportedInRun paystackDeployment verifiesPayment (awaitingPayment none) last
              paymentId) := by
  obtain ⟨last, run, _, confirmed⟩ := verified_by_paystack
  refine ⟨last, run, confirmed_after_report ?_ run confirmed⟩
  rintro (⟨order, stored, confirmed⟩ | ⟨reservation, stored, confirmed⟩)
  · have waiting : (awaitingPayment none).lookup (.order "order")
        = some (awaitingOrder none) := rfl
    obtain rfl := Option.some.inj (waiting.symm.trans stored)
    simp [awaitingOrder] at confirmed
  · have reserved : (awaitingPayment none).lookup (.liquidityReservation "order")
        = some ⟨"pool", 500000000, .RESERVED, 900000⟩ := rfl
    obtain rfl := Option.some.inj (reserved.symm.trans stored)
    simp at confirmed

/-- Whatever calls run, in whatever order they act, fail and crash: a transaction is broadcast
only where the configuration is safe, and for an order that has been found fit to be paid out.
Each of the conditions on the order had held at a moment before, not necessarily all at the same
one. By the invariant that every broadcast is vouched for.
-/
theorem broadcast_was_cleared
    (run : AnyRun (machine anyExpiry) (startOf deployment calls rows) last)
    (sent : .broadcast orderId transactionHash ∈ last.state.trace)
    : MaySend deployment.config
      ∧ Cleared deployment.config (HasHeld deployment calls rows last) orderId := by
  obtain ⟨⟨_, _, vouched⟩, _⟩ := Run.in_hindsight run
  exact vouched _ sent

/-- The order that the worker settles has been found fit to be paid out. -/
theorem broadcast_was_cleared_settled
    : ∃ last, AnyRun (machine anyExpiry) (startOf testnet settlesOrder paidRows) last
      ∧ MaySend testnet.config
      ∧ Cleared testnet.config (HasHeld testnet settlesOrder paidRows last) "order" := by
  have went : ((startOf testnet settlesOrder paidRows).schedule (machine anyExpiry)
      (settlingInputs.map (.run 0))).map
        (fun pool => decide (.broadcast "order" "HASH" ∈ pool.state.trace)) = some true := by
    decide +kernel
  obtain ⟨last, run, sent⟩ := AnyRun.of_schedule_map went
  exact ⟨last, run, broadcast_was_cleared run (of_decide_eq_true sent)⟩

end

end LuminaRail
