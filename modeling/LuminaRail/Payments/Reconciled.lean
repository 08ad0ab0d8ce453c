import LuminaRail.Model.Hearing
import LuminaRail.Payments.Verdicts
import LuminaRail.Services.Quiet
import LuminaRail.Workers.Footprints

/-! What the reconciliation of an order does when it runs alone, together with the payment that it has
found and the answers that it has been given. It settles the payment that it finds, unless it leaves
the order alone or gets no verdict.
-/

namespace LuminaRail

open Concurrency Database Service Exclusive

variable {t : Tid} {s : Snapshot} {x : TxId} {writes : List (Sigma Row)}

/-- The reservation of an order follows the verdict on its payment; apart from pools everything
else stays as it is.
-/
structure ReservationSettled (orderId : Id) (verdict : PaymentStatus) (before after : AList Row)
    : Prop where
  reservation : (after.lookup (.liquidityReservation orderId)).map LiquidityReservation.status
    = ((before.lookup (.liquidityReservation orderId)).map LiquidityReservation.status).map
      (settledStatus verdict)
  others : ∀ key, key ≠ .liquidityReservation orderId → (∀ id, key ≠ .liquidityPool id)
    → after.lookup key = before.lookup key

theorem ReservationSettled.of_settle {orderId : Id} {verdict : PaymentStatus}
    {before after : AList Row}
    (settled : tableOf after = settleReservation orderId verdict (tableOf before))
    : ReservationSettled orderId verdict before after := by
  refine ⟨?_, fun key different unpooled => ?_⟩
  · have reservation := congrFun settled (.liquidityReservation orderId)
    simp only [tableOf] at reservation
    rw [reservation]
    simp [settleReservation, tableOf, Function.comp_def]
  · have kept := congrFun settled key
    simp only [tableOf] at kept
    rw [kept]
    cases key with
    | liquidityReservation id =>
        have other : id ≠ orderId := by simpa using different
        simp [settleReservation, other, tableOf]
    | liquidityPool id => exact absurd rfl (unpooled id)
    | _ => rfl

/-- What becomes of an order, of one of its payments and of its reservation. -/
structure PaymentSettled (orderId paymentId : Id) (status : OrderStatus) (verdict : PaymentStatus)
    (before after : AList Row) : Prop where
  order : (after.lookup (.order orderId)).map Order.status = some status
  payment : (after.lookup (.payment paymentId)).map Payment.status = some verdict
  others : ∀ id, id ≠ paymentId → after.lookup (.payment id) = before.lookup (.payment id)
  reservation : (after.lookup (.liquidityReservation orderId)).map LiquidityReservation.status
    = ((before.lookup (.liquidityReservation orderId)).map LiquidityReservation.status).map
      (settledStatus verdict)

/-- What was there before only matters for the other payments and the reservation. -/
theorem PaymentSettled.since {orderId paymentId : Id} {status : OrderStatus}
    {verdict : PaymentStatus} {first before after : AList Row}
    (settled : PaymentSettled orderId paymentId status verdict before after)
    (payments : ∀ id, id ≠ paymentId → before.lookup (.payment id) = first.lookup (.payment id))
    (reservation : before.lookup (.liquidityReservation orderId)
      = first.lookup (.liquidityReservation orderId))
    : PaymentSettled orderId paymentId status verdict first after where
  order := settled.order
  payment := settled.payment
  others id other := (settled.others id other).trans (payments id other)
  reservation := by rw [settled.reservation, reservation]

theorem PaymentSettled.agree {orderId paymentId : Id} {status : OrderStatus}
    {verdict : PaymentStatus} {before after rows : AList Row}
    (settled : PaymentSettled orderId paymentId status verdict before after)
    (agree : Agree (fun _ => True) after rows)
    : PaymentSettled orderId paymentId status verdict before rows where
  order := by rw [agree _ trivial, settled.order]
  payment := by rw [agree _ trivial, settled.payment]
  others id other := by rw [agree _ trivial, settled.others id other]
  reservation := by rw [agree _ trivial, settled.reservation]

/-- Other tables do not matter to it. -/
theorem PaymentSettled.insert {orderId paymentId : Id} {status : OrderStatus}
    {verdict : PaymentStatus} {before after : AList Row} {key : Key} {row : Row key}
    (settled : PaymentSettled orderId paymentId status verdict before after)
    (order : key ≠ .order orderId) (payment : ∀ id, key ≠ .payment id)
    (reservation : key ≠ .liquidityReservation orderId)
    : PaymentSettled orderId paymentId status verdict before (after.insert key row) where
  order := by rw [AList.lookup_insert_ne order.symm, settled.order]
  payment := by rw [AList.lookup_insert_ne (payment _).symm, settled.payment]
  others id other := by rw [AList.lookup_insert_ne (payment _).symm, settled.others id other]
  reservation := by rw [AList.lookup_insert_ne reservation.symm, settled.reservation]
namespace ReconciliationDaemon

/-- The reference by which the provider is asked about a payment of the order. -/
def askedAs (order : Order) (payment : Payment) : String :=
  ((truthy (some payment.reference)).or (truthy order.idempotencyKey)).getD ""

/-- The daemon does not leave the order alone. -/
def considers (order : Order) (payment : Payment) (refund : Option Refund)
    (reservation : Option LiquidityReservation) : Bool :=
  askedAs order payment ≠ "" && !(refund.any fun refund => refund.status.isActive)
    && !(reservation.any released)

/-- What a payment is taken for that was reported as successful or failed. -/
def judged (order : Order) (response : NormalizedPaymentResponse) : PaymentStatus :=
  if matchesOrder order response then response.status else .FAILED

theorem judged_of_verdict {order : Order} {response : NormalizedPaymentResponse}
    {verdict : PaymentStatus} (decided : verdict = .SUCCEEDED ∨ verdict = .FAILED)
    (same : response.status = verdict) (amount : verdict = .SUCCEEDED → matchesOrder order response)
    : judged order response = verdict := by
  rcases decided with rfl | rfl
  · rw [judged, if_pos (amount rfl), same]
  · rw [judged, same, ite_self]

/-- The status that the daemon gives to an order. -/
def reconciledStatus : PaymentStatus → OrderStatus
  | .SUCCEEDED => .PAYMENT_CONFIRMED
  | _ => .FAILED

end ReconciliationDaemon

open ReconciliationDaemon

/-- The reservation is settled last. -/
theorem ReservationSettled.paymentSettled {orderId paymentId : Id} {status : OrderStatus}
    {verdict : PaymentStatus} {first before after : AList Row} {order : Order} {payment : Payment}
    (settled : ReservationSettled orderId verdict before after)
    (written : ∀ key, key ≠ .order orderId → key ≠ .payment paymentId
      → before.lookup key = first.lookup key)
    (moved : before.lookup (.order orderId) = some order) (reached : order.status = status)
    (paid : before.lookup (.payment paymentId) = some payment)
    (decided : payment.status = verdict)
    : PaymentSettled orderId paymentId status verdict first after where
  order := by rw [settled.others _ (by simp) (by simp), moved, Option.map_some, reached]
  payment := by rw [settled.others _ (by simp) (by simp), paid, Option.map_some, decided]
  others id other := by
    rw [settled.others _ (by simp) (by simp), written _ (by simp) (by simpa using other)]
  reservation := by rw [settled.reservation, written _ (by simp) (by simp)]

section

variable {orderId paymentId : Id} {payment : Payment} (opened : s.pending x = some writes)
include opened

theorem yields_markPaymentFailed
    : (exclusiveAlone t).Yields s (markPaymentFailed x orderId (some (paymentId, payment))) fun _ last =>
        PaymentSettled orderId paymentId .FAILED .FAILED (s.visible (some x))
          (last.visible (some x)) := by
  refine Yields.bind (yields_update trivial) fun _ next given => ?_
  obtain ⟨order, _, _, rfl⟩ := given
  have moved := Snapshot.visible_save opened
    (show Row (.order orderId) from { order with status := .FAILED })
  have opened := Snapshot.save_pending opened [⟨.order orderId, { order with status := .FAILED }⟩]
  refine Yields.bind (R := fun _ last => ∃ row : Payment, last = (s.save (some x)
      [⟨.order orderId, { order with status := .FAILED }⟩]).save (some x)
        [⟨.payment paymentId, { row with status := .FAILED }⟩]) ?_ fun _ next given => ?_
  · refine Yields.bind (yields_update trivial) fun _ next given => Yields.pure ?_
    obtain ⟨row, _, _, rfl⟩ := given
    exact ⟨row, rfl⟩
  · obtain ⟨row, rfl⟩ := given
    have paid := Snapshot.visible_save opened
      (show Row (.payment paymentId) from { row with status := .FAILED })
    refine Yields.bind (yields_releaseReservationInTx (fun _ _ => trivial)
      (Snapshot.save_pending opened _) orderId)
      fun _ last drafted => Yields.pure ?_
    have settled := ReservationSettled.of_settle drafted.done
    rw [paid, moved] at settled
    refine settled.paymentSettled (fun key unordered unpaid => ?_)
      ((AList.lookup_insert_ne (by simp)).trans (AList.lookup_insert _)) rfl
      (AList.lookup_insert _) rfl
    rw [AList.lookup_insert_ne unpaid, AList.lookup_insert_ne unordered]

theorem yields_confirmPayment (config : Config) (order : Order) (paymentReference : String)
    (response : NormalizedPaymentResponse)
    : (exclusiveAlone t).Yields s (confirmPayment config x orderId order (some (paymentId, payment))
        paymentReference response) fun _ last =>
          PaymentSettled orderId paymentId .PAYMENT_CONFIRMED .SUCCEEDED (s.visible (some x))
            (last.visible (some x)) := by
  refine Yields.bind (R := fun _ last => ∃ row : Payment, row.status = .SUCCEEDED
    ∧ last = s.save (some x) [⟨.payment paymentId, row⟩]) ?_ fun _ next given => ?_
  · refine Yields.bind (yields_update trivial) fun _ next given => Yields.pure ?_
    obtain ⟨row, _, _, rfl⟩ := given
    exact ⟨_, rfl, rfl⟩
  obtain ⟨paid, decided, rfl⟩ := given
  have seen := Snapshot.visible_save opened (show Row (.payment paymentId) from paid)
  have opened := Snapshot.save_pending opened [⟨.payment paymentId, paid⟩]
  generalize s.save (some x) [⟨.payment paymentId, paid⟩] = next at seen opened
  refine Yields.bind (yields_update trivial) fun _ between given => ?_
  obtain ⟨row, _, _, rfl⟩ := given
  have moved := Snapshot.visible_save opened
    (show Row (.order orderId) from { row with status := .PAYMENT_CONFIRMED })
  have opened := Snapshot.save_pending opened
    [⟨.order orderId, { row with status := .PAYMENT_CONFIRMED }⟩]
  refine Yields.bind (yields_confirmReservationInTx (fun _ _ => trivial) opened orderId)
    fun _ last drafted => ?_
  obtain ⟨writes, opened⟩ := Option.isSome_iff_exists.mp drafted.opened
  have settled := ReservationSettled.of_settle drafted.done
  rw [moved, seen] at settled
  have settled : PaymentSettled orderId paymentId .PAYMENT_CONFIRMED .SUCCEEDED
      (s.visible (some x)) (last.visible (some x)) := by
    refine settled.paymentSettled (fun key unordered unpaid => ?_) (AList.lookup_insert _) rfl
      ((AList.lookup_insert_ne (by simp)).trans (AList.lookup_insert _)) decided
    rw [AList.lookup_insert_ne unordered, AList.lookup_insert_ne unpaid]
  -- a new settlement does not matter to them
  refine Yields.bind (yields_findUnique trivial) fun existing _ given => ?_
  obtain ⟨_, rfl⟩ := given
  cases existing with
  | some settlement => exact Yields.pure settled
  | none =>
      refine Yields.bind yields_now fun time _ same => ?_
      subst same
      refine Yields.bind yields_randomText fun suffix _ same => ?_
      subst same
      refine Yields.bind (yields_create fun _ _ => trivial) fun _ after given => Yields.pure ?_
      obtain ⟨_, rfl, _⟩ := given
      rw [Snapshot.visible_save_all opened]
      exact (settled.insert (by simp) (by simp) (by simp)).insert (by simp) (by simp) (by simp)

/-- What the daemon makes of a verdict. -/
theorem yields_applyVerdict (config : Config) {order : Order} (paymentReference : String)
    {response : NormalizedPaymentResponse}
    (decided : response.status = .SUCCEEDED ∨ response.status = .FAILED)
    : (exclusiveAlone t).Yields s (applyVerdict config x orderId order (some (paymentId, payment))
        paymentReference response) fun _ last =>
          PaymentSettled orderId paymentId (reconciledStatus (judged order response))
            (judged order response) (s.visible (some x)) (last.visible (some x)) := by
  unfold applyVerdict
  rcases decided with status | status
  · by_cases amount : matchesOrder order response = true
    · simp only [status, amount, if_true, judged]
      exact yields_confirmPayment opened config order paymentReference response
    · simp only [status, amount, judged]
      exact yields_markPaymentFailed opened
  · simp only [status, judged, ite_self]
    exact yields_markPaymentFailed opened

end

-----------------------------------------------------------------------------------------
-- What is heard of a reconciliation
-----------------------------------------------------------------------------------------

/-- The payment that is found, and the answers about payments. -/
def Event.ofReconciliation : Event → Bool
  | .paymentPicked _ _ _ _ | .paymentAnswered _ _ _ _ _ | .transactionVerified _ _ _ _ => true
  | _ => false

/-- No payment has been found. -/
def Unpicked (events : List Event) : Prop :=
  ∀ t orderId payment refund, .paymentPicked t orderId payment refund ∉ events

/-- What has been heard by the time that a provider answers the verification of a payment. -/
def Verified (name : String) (params : VerifyParams) (response : NormalizedPaymentResponse)
    (events : List Event) : Provider → Prop
  | .PAYSTACK_NGN_BANK_TRANSFER => ∃ result : PaystackVerifyResult,
      events = [.transactionVerified name result.status result.amountInKobo result.currency]
        ∧ response.status = paystackStatus params result
        ∧ response.amount = koboToFixed result.amountInKobo ∧ response.currency = result.currency
  | _ => events = []

variable {heard : List Event}

theorem hears_verifyTransaction (config : Config) (reference : String)
    : Hears Event.ofReconciliation t s heard (verifyTransaction config reference)
        (fun result last now => last = s ∧ now
          = .transactionVerified reference result.status result.amountInKobo result.currency :: heard)
        fun _ last now => last = s ∧ now = heard := by
  refine Hears.bind ((Hears.of_stays stays_throwIf within_throwIf).mono (fun _ _ _ given => given)
    fun _ _ _ given => given) fun _ next now given => ?_
  obtain ⟨⟨rfl, _⟩, rfl⟩ := given
  refine Hears.external (fun input value events answered => ?_) fun input error events answered => ?_
  · split at answered
    · simp at answered
    · split at answered
      · obtain ⟨same, rfl⟩ := Prod.mk.inj (Option.some.inj answered)
        obtain rfl := Except.ok.inj same
        refine ⟨rfl, ?_⟩
        rename_i status _ _ _ _
        by_cases success : toLowerCase status = "success"
        · rw [if_pos success]
          rfl
        · rw [if_neg success]
          rfl
      · simp at answered
  · split at answered
    · obtain ⟨_, rfl⟩ := Prod.mk.inj (Option.some.inj answered)
      exact ⟨rfl, rfl⟩
    · split at answered
      · simp at answered
      · simp at answered

theorem hears_verify (config : Config) (name : String) (params : VerifyParams) (provider : Provider)
    : Hears Event.ofReconciliation t s heard (provider.verify config name params)
        (fun response last now => last = s
          ∧ ∃ events, now = events ++ heard ∧ Verified name params response events provider)
        fun _ last now => last = s ∧ now = heard := by
  cases provider with
  | MOCK =>
      change Hears _ t s heard (verifyMockPayment name) _ _
      refine (Hears.of_stays (W := fun _ => True) stays_onMock within_onMock).mono ?_
        fun _ _ _ given => given
      exact fun _ _ _ given => ⟨given.1.1, [], given.2, rfl⟩
  | NGN_BANK_TRANSFER =>
      change Hears _ t s heard (verifyNgnPayment name params) _ _
      refine (Hears.of_stays (W := fun _ => True) stays_onNgn within_onNgn).mono ?_
        fun _ _ _ given => given
      exact fun _ _ _ given => ⟨given.1.1, [], given.2, rfl⟩
  | PAYSTACK_NGN_BANK_TRANSFER =>
      refine Hears.bind (hears_verifyTransaction config name) fun result next now given => ?_
      obtain ⟨rfl, rfl⟩ := given
      exact Hears.pure ⟨rfl, [_], rfl, result, rfl, rfl, rfl, rfl⟩

theorem hears_verifyPayment (config : Config) (name : String) (params : VerifyParams)
    (provider : Provider)
    : Hears Event.ofReconciliation t s heard (provider.verifyPayment config name params)
        (fun response last now => last = s ∧ ∃ events,
          now = .paymentAnswered t name response.status response.amount response.currency
              :: events ++ heard
            ∧ Verified name params response events provider)
        fun _ last now => last = s ∧ now = heard := by
  refine Hears.bind (hears_verify config name params provider) fun response next now given => ?_
  obtain ⟨rfl, events, rfl, verified⟩ := given
  refine Hears.bind (Hears.emit rfl) fun _ last now given => ?_
  obtain ⟨rfl, rfl⟩ := given
  exact Hears.pure ⟨rfl, events, rfl, verified⟩

theorem Verified.unpicked {name : String} {params : VerifyParams}
    {response : NormalizedPaymentResponse} {events : List Event} {provider : Provider}
    (verified : Verified name params response events provider)
    : Unpicked events := by
  cases provider with
  | PAYSTACK_NGN_BANK_TRANSFER =>
      obtain ⟨result, rfl, _⟩ := verified
      simp [Unpicked]
  | _ =>
      obtain rfl : events = [] := verified
      simp [Unpicked]

/-- The answer of a provider, and what has been heard of it. -/
structure AnsweredBy (config : Config) (t : Tid) (providerId name : String) (params : VerifyParams)
    (response : NormalizedPaymentResponse) (provider : Provider) (verifications events : List Event)
    : Prop where
  resolved : PaymentProviderRegistry.resolve config providerId = some provider
  verified : Verified name params response verifications provider
  answered : events
    = .paymentAnswered t name response.status response.amount response.currency :: verifications

/-- The daemon has the answer of the provider, or none, and has found nothing meanwhile. -/
theorem hears_askProvider (config : Config) (providerId name : String) (order : Order)
    : Hears Event.ofReconciliation t s heard (askProvider config providerId name order)
        (fun answer last now => last = s ∧ ∃ events, now = events ++ heard ∧ Unpicked events
          ∧ ∀ response ∈ answer, ∃ provider verifications, AnsweredBy config t providerId name
            { expectedAmount := some (some (money order.sourceAmount)) } response provider
            verifications events)
        fun _ _ _ => True := by
  refine Hears.tryCatch (F := fun _ last now => last = s ∧ now = heard) ?_ fun _ next now given => ?_
  · refine Hears.bind ((Hears.of_stays (stays_get config providerId)
      (within_get config providerId)).mono (fun _ _ _ given => given) fun _ _ _ given => given)
      fun provider next now given => Hears.map ?_
    obtain ⟨⟨rfl, resolved⟩, rfl⟩ := given
    refine (hears_verifyPayment config name _ provider).mono (fun response last now given => ?_)
      fun _ _ _ given => given
    obtain ⟨same, verifications, rfl, verified⟩ := given
    refine ⟨same, .paymentAnswered t name response.status response.amount response.currency
      :: verifications, rfl, ?_, fun answer member => ?_⟩
    · intro u orderId payment refund member
      rcases List.mem_cons.mp member with same | member
      · cases same
      · exact verified.unpicked u orderId payment refund member
    · obtain rfl := Option.some.inj member
      exact ⟨provider, verifications, resolved, verified, rfl⟩
  · obtain ⟨rfl, rfl⟩ := given
    exact Hears.pure ⟨rfl, [], rfl, by simp [Unpicked], nofun⟩

-----------------------------------------------------------------------------------------
-- The daemon
-----------------------------------------------------------------------------------------

/-- How the reconciliation of an order ends, given the payment and the refund that it has found and
what has been heard since.
-/
inductive Reconciled (config : Config) (t : Tid) (orderId : Id) (order : Order)
    (payment : Id × Payment) (refund : Option Refund) (before after : AList Row)
    (events : List Event) : ReconciliationAction → Prop
  | skipped
      : considers order payment.2 refund (before.lookup (.liquidityReservation orderId)) = false
        → after = before
        → Reconciled config t orderId order payment refund before after events .SKIPPED
  | deferred
      : after = before
        → Reconciled config t orderId order payment refund before after events .DEFERRED
  | judged {action : ReconciliationAction} {response : NormalizedPaymentResponse}
      {provider : Provider} {verifications : List Event}
      : considers order payment.2 refund (before.lookup (.liquidityReservation orderId)) = true
        → AnsweredBy config t (verifyingProvider config (some payment)) (askedAs order payment.2)
          { expectedAmount := some (some (money order.sourceAmount)) } response provider
          verifications events
        → response.status = .SUCCEEDED ∨ response.status = .FAILED
        → PaymentSettled orderId payment.1 (reconciledStatus (judged order response))
          (judged order response) before after
        → Reconciled config t orderId order payment refund before after events action

/-- What has been found of an order by the reconciliation, and how that ended. -/
def Reconciliation (config : Config) (t : Tid) (orderId : Id) (order : Order) (heard : List Event)
    (before after : AList Row) (action : ReconciliationAction) (now : List Event) : Prop :=
  ∃ payment ∈ paymentsOf orderId before, ∃ refund : Option (Id × Refund), ∃ events,
    (∀ found ∈ refund, before.lookup (.refund found.1) = some found.2)
      ∧ now = events ++ .paymentPicked t orderId (some payment.1) (refund.map Prod.fst) :: heard
      ∧ Unpicked events
      ∧ Reconciled config t orderId order payment (refund.map Prod.snd) before after events action

/-- Verdicts may be applied unheard. -/
theorem unheard_allowsVerdicts : (unheard Event.ofReconciliation).AllowsVerdicts where
  pool _ _ _ := trivial
  reservation _ _ _ := trivial
  treasury _ _ _ := trivial
  payment _ _ _ _ _ _ _ := trivial
  order _ _ _ _ := trivial
  settlement _ _ _ := trivial
  settlementNumber _ _ := trivial

/-- The daemon settles the payment that it finds, or leaves everything alone. -/
theorem hears_reconcileInTx (config : Config) {orderId : Id} {order : Order} (own : x.owner = t)
    (opened : s.pending x = some [])
    (found : s.committed.lookup (.order orderId) = some order) (waits : reconcilable order.status)
    (some_payment : paymentsOf orderId s.committed ≠ [])
    : Hears Event.ofReconciliation t s heard (reconcileInTx config x orderId) (fun action last now =>
        Reconciliation config t orderId order heard s.committed (last.visible (some x)) action now)
        fun _ _ _ => True := by
  have seen : s.visible (some x) = s.committed := Snapshot.visible_of_pending opened
  refine Hears.follow yields_selectForUpdate (within_selectForUpdate own) fun _ _ same => ?_
  subst same
  refine Hears.follow (yields_findUnique trivial) within_findUnique fun read _ given => ?_
  obtain ⟨read_eq, rfl⟩ := given
  rw [seen, found] at read_eq
  subst read_eq
  refine Hears.follow (yields_findFirst fun agree value => ?_)
    (within_findFirst (R := fun _ => True) (by simp)) fun payment _ given => ?_
  · obtain ⟨id, row⟩ := value
    rw [mem_paymentsOf, mem_paymentsOf, agree _ trivial]
  obtain ⟨rfl, listed, missing⟩ := given
  refine Hears.follow (yields_findFirst fun agree value => ?_)
    (within_findFirst (R := fun _ => True) (by simp)) fun refund _ given => ?_
  · obtain ⟨id, row⟩ := value
    rw [mem_refundsOf, mem_refundsOf, agree _ trivial]
  obtain ⟨rfl, refunds, _⟩ := given
  rw [seen] at listed missing refunds
  cases payment with
  | none => exact absurd (missing rfl) some_payment
  | some payment =>
  refine Hears.bind (Hears.emit rfl) fun _ next now given => ?_
  obtain ⟨same, rfl⟩ := given
  subst same
  have reconciled {last : Snapshot} {action : ReconciliationAction} {events : List Event}
      (unpicked : Unpicked events)
      (ended : Reconciled config t orderId order payment (refund.map Prod.snd) next.committed
        (last.visible (some x)) events action)
      : Reconciliation config t orderId order heard next.committed (last.visible (some x)) action
          (events ++ .paymentPicked t orderId (some payment.1) (refund.map Prod.fst) :: heard) :=
    ⟨payment, listed payment rfl, refund, events,
      fun found member => (mem_refundsOf.mp (refunds found member)).1, rfl, unpicked, ended⟩
  have nothing : Unpicked [] := by simp [Unpicked]
  -- every rule for leaving the order alone keeps `considers` from holding
  have skips (unconsidered : considers order payment.2 (refund.map Prod.snd)
      (next.committed.lookup (.liquidityReservation orderId)) = false)
      : Hears Event.ofReconciliation t next
          (.paymentPicked t orderId (some payment.1) (refund.map Prod.fst) :: heard)
          (pure ReconciliationAction.SKIPPED) (fun action last now => Reconciliation config t orderId
            order heard next.committed (last.visible (some x)) action now) fun _ _ _ => True :=
    Hears.pure (reconciled nothing (.skipped unconsidered seen))
  dsimp only
  split
  · rename_i unnamed
    have unnamed : askedAs order payment.2 = "" := unnamed
    exact skips (by simp [considers, unnamed])
  rename_i named
  have named : askedAs order payment.2 ≠ "" := named
  split
  · rename_i unwaiting
    simp [waits] at unwaiting
  split
  · rename_i refunded
    refine skips ?_
    have active : (refund.map Prod.snd).any fun refund => refund.status.isActive := by
      simpa [Option.any_map, Function.comp_def] using refunded
    simp [considers, active]
  rename_i unrefunded
  refine Hears.follow (yields_findUnique trivial) within_findUnique fun reservation last given => ?_
  obtain ⟨read, same⟩ := given
  subst same
  rw [seen] at read
  subst read
  split
  · rename_i gone
    exact skips (by simp [considers, gone])
  rename_i there
  have considered : considers order payment.2 (refund.map Prod.snd)
      (last.committed.lookup (.liquidityReservation orderId)) = true := by
    have inactive : (refund.map Prod.snd).any (fun refund => refund.status.isActive) = false := by
      simpa [Option.any_map, Function.comp_def] using unrefunded
    simp_all [considers]
  refine Hears.bind (hears_askProvider config _ _ order) fun answer after now given => ?_
  obtain ⟨same, events, rfl, unpicked, answers⟩ := given
  subst same
  cases answer with
  | none => exact Hears.pure (reconciled unpicked (.deferred seen))
  | some response =>
      obtain ⟨provider, verifications, answered⟩ := answers response rfl
      dsimp only
      by_cases decided : response.status = .SUCCEEDED ∨ response.status = .FAILED
      · refine (Hears.of_yields (yields_applyVerdict opened config _ decided)
          (within_applyVerdict own unheard_allowsVerdicts config orderId order
            (fun _ _ _ => trivial) _ response)).mono (fun action ended now given => ?_)
          fun _ _ _ given => given
        obtain ⟨settled, rfl⟩ := given
        rw [seen] at settled
        exact reconciled unpicked (.judged considered answered decided settled)
      · unfold applyVerdict
        split
        · exact absurd (Or.inl ‹_›) decided
        · exact absurd (Or.inr ‹_›) decided
        · exact Hears.pure (reconciled unpicked (.deferred seen))

theorem hears_reconcile (config : Config) {orderId : Id} {order : Order}
    (found : s.committed.lookup (.order orderId) = some order) (waits : reconcilable order.status)
    (some_payment : paymentsOf orderId s.committed ≠ [])
    : Hears Event.ofReconciliation t s heard (reconcileSinglePaymentOrder config orderId)
        (fun action last now =>
          Reconciliation config t orderId order heard s.committed last.committed action now)
        fun _ _ _ => True := by
  refine Hears.transaction (R := fun x action last now =>
    Reconciliation config t orderId order heard s.committed (last.visible (some x)) action now)
    (G := fun _ _ _ _ => True) (fun x own new => ?_) (fun x action last now _ given => given)
    (fun _ _ _ _ _ _ => trivial) (fun _ _ => trivial) fun _ _ _ _ _ _ _ _ => trivial
  exact hears_reconcileInTx config own Snapshot.begin_pending found waits some_payment

/-- What a lone reconciliation of an order has found, and how it ended. -/
theorem reconciled_alone {config : Config} {start last : World} {rows : AList Row} {orderId : Id}
    {order : Order} {action : ReconciliationAction} (fresh : start.db = Server.start rows)
    (unobserved : start.trace = []) (found : rows.lookup (.order orderId) = some order)
    (waits : reconcilable order.status) (some_payment : paymentsOf orderId rows ≠ [])
    (reconciles : Program.Alone t (reconcileSinglePaymentOrder config orderId).run start (.ok action)
      last)
    : ∃ payment ∈ paymentsOf orderId rows, ∃ refundId events,
        (∀ event, event.ofReconciliation = true → (event ∈ last.trace
          ↔ event ∈ events ∨ event = .paymentPicked t orderId (some payment.1) refundId))
        ∧ Unpicked events
        ∧ ∃ after, Agree (fun _ => True) after last.db.committed
          ∧ Reconciled config t orderId order payment
            (refundId.bind fun id => rows.lookup (.refund id)) rows after events action := by
  have rows_eq : start.db.committed = rows := by rw [fresh]; rfl
  subst rows_eq
  obtain ⟨after, there, payment, listed, refund, events, refunds, heard, unpicked, ended⟩ :=
    (hears_reconcile (s := .of t start) config found waits some_payment).alone reconciles
  refine ⟨payment, listed, refund.map Prod.fst, events, fun event kind => ?_, unpicked, _,
    there.committed, ?_⟩
  · have nothing : start.trace.filter Event.ofReconciliation = [] := by simp [unobserved]
    have filtered : event ∈ last.trace ↔ event ∈ last.trace.filter Event.ofReconciliation := by
      simp [kind]
    rw [filtered, heard, nothing]
    simp
  · have read : (refund.map Prod.fst).bind (fun id => start.db.committed.lookup (.refund id))
        = refund.map Prod.snd := by
      cases refund with
      | none => rfl
      | some refund => exact refunds refund rfl
    rw [read]
    exact ended

end LuminaRail
