import LuminaRail.Payments.Verdicts
import LuminaRail.Services.Quiet
import LuminaRail.Webhooks.Deliveries
import LuminaRail.Workers.PaymentReconciliation

/-! Whether a payment that fails undoes another payment of the same order that has succeeded. What
follows a FAILED verdict looks at the failed payment only.
-/

namespace LuminaRail

open Concurrency Database Service Exclusive

-----------------------------------------------------------------------------------------
-- Verdicts
-----------------------------------------------------------------------------------------

/-- The calls that learn of a verdict on a payment. A webhook brings it in its event. -/
inductive VerdictCall
  | webhook (provider : Provider) (event : WebhookEventPayload)
  | verifying (paymentId userId : Id) (isAdmin : Bool) (params : VerifyParams)
  | reconciling (orderId : Id)

inductive VerdictAnswer
  | processed (result : WebhookResult)
  | verified (payment : Payment)
  | reconciled (action : ReconciliationAction)

def VerdictCall.service (config : Config) : VerdictCall → Service VerdictAnswer
  | .webhook provider event => .processed <$> WebhookService.handleEvent provider event
  | .verifying paymentId userId isAdmin params =>
      .verified <$> PaymentService.verifyPayment config paymentId userId isAdmin params
  | .reconciling orderId =>
      .reconciled <$> ReconciliationDaemon.reconcileSinglePaymentOrder config orderId

/-- A verdict that has been delivered: the call, its answer and the database before and after. -/
structure DeliveredVerdict where
  call : VerdictCall
  answer : Except AppError VerdictAnswer
  before : AList Row
  after : AList Row

/-- Verdicts are delivered one after another. -/
inductive Verdicts (config : Config) : World → List DeliveredVerdict → World → Prop
  | none (world : World) : Verdicts config world [] world
  | next {start world after : World} {delivered : List DeliveredVerdict} {t : Tid}
    {call : VerdictCall} {answer : Except AppError VerdictAnswer}
    (earlier : Verdicts config start delivered world)
    (run : Program.Alone t (call.service config).run world answer after)
    : Verdicts config start
        (delivered ++ [⟨call, answer, world.db.committed, after.db.committed⟩]) after

/-- A payment of the order has succeeded. -/
def PaidBy (orderId paymentId : Id) (rows : AList Row) : Prop :=
  ∃ payment, rows.lookup (.payment paymentId) = some payment ∧ payment.orderId = orderId
    ∧ payment.status = .SUCCEEDED

namespace DeliveredVerdict

/-- The verdict on a payment of the order is FAILED. -/
def Fails (orderId paymentId : Id) (delivered : DeliveredVerdict) : Prop :=
  ∃ payment, delivered.before.lookup (.payment paymentId) = some payment
    ∧ payment.orderId = orderId
    ∧ match delivered.call, delivered.answer with
      | .webhook provider event, .ok (.processed _) =>
          event.status = .FAILED ∧ Names provider event paymentId payment delivered.before
      | .verifying id _ _ _, .ok (.verified verified) =>
          id = paymentId ∧ verified.status = .FAILED
      | .reconciling id, .ok (.reconciled action) =>
          id = orderId ∧ action = .MARKED_FAILED
      | _, _ => False

/-- The verdict on a payment is FAILED while another payment of the order is SUCCEEDED. -/
def FailsAnother (orderId : Id) (delivered : DeliveredVerdict) : Prop :=
  ∃ failed succeeded, failed ≠ succeeded ∧ delivered.Fails orderId failed
    ∧ PaidBy orderId succeeded delivered.before ∧ PaidBy orderId succeeded delivered.after

/-- The status of the order and its reservation stay as they are. -/
structure Spares (orderId : Id) (delivered : DeliveredVerdict) : Prop where
  order : (delivered.after.lookup (.order orderId)).map Order.status
    = (delivered.before.lookup (.order orderId)).map Order.status
  reservation : delivered.after.lookup (.liquidityReservation orderId)
    = delivered.before.lookup (.liquidityReservation orderId)

end DeliveredVerdict

/-- The order has failed already or is beyond failing, and nothing is reserved for it any more. -/
structure BeyondFailing (orderId : Id) (rows : AList Row) : Prop where
  order : ∀ order, rows.lookup (.order orderId) = some order
    → order.status = .FAILED ∨ order.status.ignoresFailure
  reservation : ∀ reservation, rows.lookup (.liquidityReservation orderId) = some reservation
    → reservation.status = .CONSUMED ∨ reservation.status = .EXPIRED_RELEASED
      ∨ reservation.status = .CANCELLED_RELEASED

/-- The event has come in before, or the payment that it is about cannot fail any more. -/
def DeliveredVerdict.Ignored (delivered : DeliveredVerdict) : Prop :=
  match delivered.call with
  | .webhook provider event =>
      (delivered.before.lookup (.webhookEvent provider.providerId event.eventId)).isSome
        ∨ ∀ paymentId payment, Names provider event paymentId payment delivered.before
          → PaymentStateMachine.canTransition payment.status event.status = false
  | _ => False

-----------------------------------------------------------------------------------------
-- The effect of a failure
-----------------------------------------------------------------------------------------

section

variable {orderId paymentId : Id} {before after : AList Row}

/-- Where a failure has its effect, the order and the reservation stay as they are exactly if there
is nothing left to fail.
-/
theorem spares_iff_of_settle {call : VerdictCall} {answer : Except AppError VerdictAnswer}
    (settled : ∀ key : Key, key.lasting
      → after.lookup key = settle orderId paymentId .FAILED (tableOf before) key)
    : DeliveredVerdict.Spares orderId ⟨call, answer, before, after⟩
      ↔ BeyondFailing orderId before := by
  have order : after.lookup (.order orderId)
      = (before.lookup (.order orderId)).map fun (row : Order) =>
        { row with status := row.statusAfter .FAILED } := by
    rw [settled _ (by trivial)]
    simp [settle, settleOrder, settleReservation, settlePayment, tableOf]
  have reservation : after.lookup (.liquidityReservation orderId)
      = (before.lookup (.liquidityReservation orderId)).map fun (row : LiquidityReservation) =>
        { row with status := settledStatus .FAILED row.status } := by
    rw [settled _ (by trivial)]
    simp [settle, settleOrder, settleReservation, settlePayment, tableOf]
  constructor
  · intro spared
    refine ⟨fun row found => ?_, fun row found => ?_⟩
    · have same := spared.order
      rw [order, found] at same
      have same : row.statusAfter .FAILED = row.status := by simpa using same
      by_cases ignored : row.status.ignoresFailure
      · exact Or.inr ignored
      · refine Or.inl ?_
        simpa [Order.statusAfter, ignored] using same.symm
    · have same := spared.reservation
      rw [reservation, found] at same
      have same := congrArg LiquidityReservation.status (Option.some.inj same)
      cases status : row.status <;> simp_all [settledStatus]
  · intro beyond
    refine ⟨?_, ?_⟩
    · cases found : before.lookup (.order orderId) with
      | none => simp [order, found]
      | some row =>
          rcases beyond.order row found with failed | ignored
          · simp [order, found, Order.statusAfter, failed]
          · simp [order, found, Order.statusAfter, ignored]
    · cases found : before.lookup (.liquidityReservation orderId) with
      | none => simp [reservation, found]
      | some row =>
          have kept : settledStatus .FAILED row.status = row.status := by
            rcases beyond.reservation row found with status | status | status <;>
              simp [status, settledStatus]
          simp [reservation, found, kept]

end

section

variable {t : Tid} {s : Snapshot} {α : Type}

theorem stays_askProvider (config : Config) (providerId name : String) (order : Order)
    : Stays t s (ReconciliationDaemon.askProvider config providerId name order) :=
  Protocol.Spec.tryCatch (Stays.bind (stays_get config _) fun provider =>
    Protocol.Spec.map (stays_providerVerifyPayment config _ _ provider)) fun _ => Stays.pure none

end

-----------------------------------------------------------------------------------------
-- The webhook
-----------------------------------------------------------------------------------------

section

variable {t : Tid} {s : Snapshot}

/-- An event of which the payment does not allow the status is not applied. -/
theorem yields_ignoredEvent {paymentId : Id} {payment : Payment} {provider : Provider}
    {event : WebhookEventPayload} (names : Names provider event paymentId payment s.committed)
    (refused : PaymentStateMachine.canTransition payment.status event.status = false)
    : (exclusiveAlone t).Yields s (WebhookService.applyEvent provider event)
        fun _ last => last = s := by
  obtain ⟨name, same_name, _, only⟩ := names.named
  unfold WebhookService.applyEvent
  rw [same_name]
  refine Yields.bind (yields_findFirst fun agree value => ?_) fun found last given => ?_
  · obtain ⟨id, found⟩ := value
    rw [mem_paymentsNamed, mem_paymentsNamed, agree _ trivial]
  obtain ⟨rfl, listed, _⟩ := given
  cases found with
  | none => exact Yields.pure rfl
  | some entry =>
      obtain ⟨id, chosen⟩ := entry
      obtain ⟨shown, _⟩ := mem_paymentsNamed.mp (listed _ rfl)
      obtain rfl : id = paymentId := only _ (listed _ rfl)
      obtain rfl := Option.some.inj (names.stored.symm.trans shown)
      dsimp only
      rw [if_neg (by simp [refused])]
      exact Yields.pure rfl

/-- A webhook settles the payment with its verdict, unless it is ignored. -/
theorem yields_reportedEvent {paymentId : Id} {payment : Payment} {provider : Provider}
    {event : WebhookEventPayload}
    (names : Names provider event paymentId payment s.committed)
    : (exclusiveAlone t).Yields s (WebhookService.handleEvent provider event) fun _ last =>
        if (s.committed.lookup (.webhookEvent provider.providerId event.eventId)).isSome
            ∨ PaymentStateMachine.canTransition payment.status event.status = false then
          ∀ key : Key, key.lasting → last.committed.lookup key = s.committed.lookup key
        else
          ∀ key : Key, key.lasting → last.committed.lookup key
            = settle payment.orderId paymentId event.status (tableOf s.committed) key := by
  refine Yields.bind (yields_claimEvent provider event) fun claimed next given => ?_
  rcases given with ⟨duplicate, taken, rfl⟩ | ⟨rfl, new, row, rfl⟩
  · obtain ⟨result, rfl⟩ := Option.isSome_iff_exists.mp duplicate
    refine Yields.pure ?_
    rw [if_pos (Or.inl taken)]
    exact fun _ _ => rfl
  have lasts := Lasting.claimed s.committed provider.providerId event.eventId row
  have names' := names.lasting lasts
  refine Yields.bind (R := fun _ last =>
    if PaymentStateMachine.canTransition payment.status event.status = false then
      ∀ key : Key, key.lasting → last.committed.lookup key = s.committed.lookup key
    else
      ∀ key : Key, key.lasting → last.committed.lookup key
        = settle payment.orderId paymentId event.status (tableOf s.committed) key) ?_
    fun _ applying applied => ?_
  · split
    · rename_i refused
      exact (yields_ignoredEvent names' refused).mono fun _ _ same => same ▸ lasts
    · rename_i allowed
      refine (yields_applyEvent (fun _ _ => trivial) (fun _ _ _ => trivial) (fun _ _ _ => trivial)
        names' (by simpa using allowed) rfl).mono fun _ last settled key lasting => ?_
      exact (congrFun settled key).trans (lasts.settle key lasting)
  · refine Yields.bind yields_now fun time last same => ?_
    subst same
    refine Yields.bind (yields_updateNow trivial fun _ _ => trivial) fun _ after given =>
      Yields.pure ?_
    obtain ⟨_, _, _, rfl⟩ := given
    have unwritten {key : Key} (lasting : key.lasting) (row : WebhookEvent)
        : (last.save none [⟨.webhookEvent provider.providerId event.eventId, row⟩]).committed.lookup
            key = last.committed.lookup key :=
      AList.lookup_insert_ne fun same => by simp [same, Key.lasting] at lasting
    simp only [new, Option.isSome_none, Bool.false_eq_true, false_or]
    split
    · rename_i refused
      rw [if_pos refused] at applied
      exact fun key lasting => (unwritten lasting _).trans (applied key lasting)
    · rename_i allowed
      rw [if_neg allowed] at applied
      exact fun key lasting => (unwritten lasting _).trans (applied key lasting)

end

-----------------------------------------------------------------------------------------
-- Verifying a payment
-----------------------------------------------------------------------------------------

section

variable {t : Tid} {s : Snapshot}

/-- The order takes its status outside any transaction. -/
theorem yields_moveOrderNow {orderId : Id} (verdict : PaymentStatus) {order : Order}
    {status : OrderStatus} (found : s.committed.lookup (.order orderId) = some order)
    (moves : order.statusAfter verdict = status)
    : (exclusiveAlone t).Yields s
        (update none (.order orderId) fun row => { row with status := status })
        fun _ last => tableOf last.committed
          = settleOrder orderId verdict (tableOf s.committed) := by
  refine (yields_updateNow trivial fun _ _ => trivial).mono fun _ last given => ?_
  obtain ⟨row, stored, _, rfl⟩ := given
  obtain rfl := Option.some.inj (found.symm.trans stored)
  refine (tableOf_insert _).trans ?_
  have found : tableOf s.committed (.order orderId) = some order := found
  funext key
  cases key with
  | order id =>
      by_cases same : id = orderId
      · subst same
        simp [settleOrder, found, moves]
      · simp [settleOrder, same]
  | _ => simp [settleOrder]

/-- What follows a verdict outside any transaction. -/
theorem yields_followUpNow (orderId : Id) (verdict : PaymentStatus)
    : (exclusiveAlone t).Yields s (PaymentService.followUp none orderId verdict) fun _ last =>
        tableOf last.committed = settleOrder orderId verdict
          (settleReservation orderId verdict (tableOf s.committed)) := by
  cases verdict with
  | SUCCEEDED =>
      refine Yields.bind (yields_confirmReservation (fun _ _ => trivial) orderId
        fun _ _ _ => trivial) fun _ next given => ?_
      rw [← given.2]
      refine Yields.bind (yields_findUnique trivial) fun found last given => ?_
      obtain ⟨seen, rfl⟩ := given
      cases found with
      | none =>
          refine Yields.pure (settleOrder_idle fun order found => ?_).symm
          simp [tableOf, ← show _ = last.committed.lookup _ from seen] at found
      | some order =>
          dsimp only
          split
          · rename_i ignored
            refine Yields.pure (settleOrder_idle fun stored found => ?_).symm
            obtain rfl := Option.some.inj (seen.trans found)
            simp [Order.statusAfter, ignored]
          · rename_i moved
            refine Yields.bind yields_checked fun _ _ same => ?_
            subst same
            exact Yields.bind (yields_moveOrderNow .SUCCEEDED seen.symm
              (by simp [Order.statusAfter, moved])) fun _ _ moved => Yields.pure moved
  | FAILED =>
      refine Yields.bind (yields_releaseReservation (fun _ _ => trivial) orderId
        fun _ _ _ => trivial) fun _ next given => ?_
      rw [← given.2]
      refine Yields.bind (yields_findUnique trivial) fun found last given => ?_
      obtain ⟨seen, rfl⟩ := given
      cases found with
      | none =>
          refine Yields.pure (settleOrder_idle fun order found => ?_).symm
          simp [tableOf, ← show _ = last.committed.lookup _ from seen] at found
      | some order =>
          dsimp only
          split
          · rename_i ignored
            refine Yields.pure (settleOrder_idle fun stored found => ?_).symm
            obtain rfl := Option.some.inj (seen.trans found)
            simp [Order.statusAfter, ignored]
          · rename_i moved
            refine Yields.bind yields_checked fun _ _ same => ?_
            subst same
            exact Yields.bind (yields_moveOrderNow .FAILED seen.symm
              (by simp [Order.statusAfter, moved])) fun _ _ moved => Yields.pure moved
  | _ => exact Yields.pure (settle_undecided (by simp)).symm

/-- The record of the provider follows the payment. -/
theorem yields_recordVerdict {paymentId : Id} {payment : Payment} {verdict : PaymentStatus}
    {before : Table} (stored : before (.payment paymentId) = some payment)
    (paid : tableOf s.committed = Function.update before (.payment paymentId)
      (some { payment with status := verdict }))
    : (exclusiveAlone t).Yields s
        (PaymentService.updateProviderTransaction none paymentId verdict)
        fun _ last => tableOf last.committed = settlePayment paymentId verdict before := by
  have same : s.committed.lookup (.providerTransaction paymentId)
      = before (.providerTransaction paymentId) := by
    change tableOf s.committed _ = _
    simp [paid]
  refine Yields.bind yields_updateManyNow fun count last given => Yields.pure ?_
  rcases given with ⟨row, found, _, _, rfl⟩ | ⟨missing, _, rfl⟩
  · refine (tableOf_insert _).trans ?_
    change Function.update (tableOf s.committed) _ _ = _
    rw [paid]
    exact eq_settlePayment stored (by simp) (by simp [← same, found])
      fun key unpaid unrecorded => by simp [unpaid, unrecorded]
  · have absent : before (.providerTransaction paymentId) = none :=
      Option.eq_none_iff_forall_ne_some.mpr fun row found =>
        absurd (missing row (same.trans found)) (by simp)
    rw [paid]
    exact eq_settlePayment stored (by simp) (by simp [absent]) fun key unpaid _ => by simp [unpaid]

/-- What follows once the payment and its record have their status. -/
theorem yields_answerVerdict {paymentId : Id} {payment : Payment} {verdict : PaymentStatus}
    {before : Table} (stored : before (.payment paymentId) = some payment)
    (paid : tableOf s.committed = settlePayment paymentId verdict before)
    : (exclusiveAlone t).Yields s (do
        PaymentService.followUp none payment.orderId verdict
        findUniqueOrThrow none (.payment paymentId)) fun paid last =>
          paid.status = verdict
            ∧ tableOf last.committed = settle payment.orderId paymentId verdict before := by
  refine Yields.bind (yields_followUpNow payment.orderId verdict) fun _ next settled => ?_
  rw [paid] at settled
  refine (yields_findUniqueOrThrow trivial).mono fun row last given => ?_
  obtain ⟨found, rfl⟩ := given
  have found : tableOf last.committed (.payment paymentId) = some row := found
  rw [settled] at found
  have same : { payment with status := verdict } = row := by
    simpa [settleOrder, settleReservation, settlePayment, stored] using found
  exact ⟨by rw [← same], by rw [settled, settle]⟩

/-- `verifyPayment`, given how the provider is asked. -/
def PaymentService.verifyAsking (ask : String → Provider → Service NormalizedPaymentResponse)
    (config : Config) (paymentId userId : Id) (isAdmin : Bool) : Service Payment := do
  let payment ← getPaymentById paymentId userId isAdmin
  let providerTransaction ← findUnique none (.providerTransaction paymentId)
  let provider ← PaymentProviderRegistry.get config payment.provider
  let verificationResponse ←
    ask ((truthy payment.providerPaymentId).getD payment.reference) provider
  PaymentStateMachine.validateTransition payment.status verificationResponse.status
  let count ← updateMany none (.payment paymentId) (fun row => row.status = payment.status)
    fun row => { row with status := verificationResponse.status }
  if count = 0 then
    let concurrent := AppError.invalidPaymentState
      s!"Concurrent status modification detected for payment {paymentId}."
    match ← findUnique none (.payment paymentId) with
    | none => throw concurrent
    | some currentPayment =>
        throwIf (currentPayment.status ≠ verificationResponse.status) concurrent
        pure currentPayment
  else
    if providerTransaction.isSome then
      updateProviderTransaction none paymentId verificationResponse.status
    followUp none payment.orderId verificationResponse.status
    findUniqueOrThrow none (.payment paymentId)

theorem PaymentService.verifyPayment_eq (config : Config) (paymentId userId : Id) (isAdmin : Bool)
    (params : VerifyParams)
    : verifyPayment config paymentId userId isAdmin params
      = verifyAsking (fun id provider => provider.verifyPayment config id params) config paymentId
          userId isAdmin :=
  rfl

theorem yields_getPaymentById (paymentId userId : Id) (isAdmin : Bool)
    : (exclusiveAlone t).Yields s (PaymentService.getPaymentById paymentId userId isAdmin)
        fun payment last =>
          s.committed.lookup (.payment paymentId) = some payment ∧ last = s := by
  refine Yields.bind (yields_findUnique trivial) fun found last given => ?_
  obtain ⟨seen, rfl⟩ := given
  cases found with
  | none => exact Yields.throw
  | some payment =>
      exact Yields.bind yields_throwIf fun _ _ given => Yields.pure ⟨seen.symm, given.2⟩

/-- A payment of which the provider is asked for a verdict is settled with it, and it is answered. -/
theorem yields_verifyAsking {ask : String → Provider → Service NormalizedPaymentResponse}
    {R : NormalizedPaymentResponse → Prop}
    (asks : ∀ id provider, (exclusiveAlone t).Yields s (ask id provider) fun response last =>
      R response ∧ last = s)
    (config : Config) (paymentId userId : Id) (isAdmin : Bool)
    : (exclusiveAlone t).Yields s
        (PaymentService.verifyAsking ask config paymentId userId isAdmin) fun paid last =>
          ∃ payment response, s.committed.lookup (.payment paymentId) = some payment ∧ R response
            ∧ PaymentStateMachine.canTransition payment.status response.status = true
            ∧ paid.status = response.status
            ∧ tableOf last.committed
              = settle payment.orderId paymentId response.status (tableOf s.committed) := by
  refine Yields.bind (yields_getPaymentById paymentId userId isAdmin) fun payment last given => ?_
  obtain ⟨stored, rfl⟩ := given
  refine Yields.bind (yields_findUnique trivial) fun record last given => ?_
  obtain ⟨known, rfl⟩ := given
  refine Yields.bind (stays_get config _).yields fun provider last same => ?_
  subst same
  refine Yields.bind (asks _ provider) fun response last given => ?_
  obtain ⟨answered, rfl⟩ := given
  refine Yields.bind yields_throwIf fun _ last given => ?_
  obtain ⟨permitted, rfl⟩ := given
  refine Yields.bind yields_updateManyNow fun count next given => ?_
  rcases given with ⟨row, found, _, rfl, rfl⟩ | ⟨changed, _⟩
  · obtain rfl := Option.some.inj (stored.symm.trans found)
    rw [if_neg (by simp)]
    have paid : tableOf (last.committed.insert (.payment paymentId)
        { payment with status := response.status }) = _ := tableOf_insert _
    have answers {next : Snapshot}
        (paid : tableOf next.committed
          = settlePayment paymentId response.status (tableOf last.committed))
        : (exclusiveAlone t).Yields next (do
            PaymentService.followUp none payment.orderId response.status
            findUniqueOrThrow none (.payment paymentId)) fun paid after =>
              ∃ payment response, last.committed.lookup (.payment paymentId) = some payment
                ∧ R response
                ∧ PaymentStateMachine.canTransition payment.status response.status = true
                ∧ paid.status = response.status
                ∧ tableOf after.committed
                  = settle payment.orderId paymentId response.status (tableOf last.committed) :=
      (yields_answerVerdict stored paid).mono fun _ _ settled =>
        ⟨payment, response, stored, answered, by simpa using permitted, settled⟩
    split
    · exact Yields.bind (yields_recordVerdict stored paid) fun _ next recorded => answers recorded
    · rename_i absent
      have absent : record = none := by simpa using absent
      have absent : tableOf last.committed (.providerTransaction paymentId) = none :=
        known.symm.trans absent
      refine answers (paid.trans ?_)
      exact eq_settlePayment stored (by simp) (by simp [absent]) fun key unpaid _ => by
        simp [unpaid]
  · exact absurd (changed payment stored) (by simp)

/-- Verifying a payment settles it with the provider's verdict, which is answered. -/
theorem yields_verifyPayment (config : Config) (paymentId userId : Id) (isAdmin : Bool)
    (params : VerifyParams)
    : (exclusiveAlone t).Yields s
        (PaymentService.verifyPayment config paymentId userId isAdmin params) fun paid last =>
          ∃ payment, s.committed.lookup (.payment paymentId) = some payment
            ∧ tableOf last.committed
              = settle payment.orderId paymentId paid.status (tableOf s.committed) := by
  rw [PaymentService.verifyPayment_eq]
  refine (yields_verifyAsking (R := fun _ => True) (fun id provider =>
    (stays_providerVerifyPayment config id params provider).yields.mono
      fun _ _ same => ⟨trivial, same⟩) config paymentId userId isAdmin).mono
    fun paid last given => ?_
  obtain ⟨payment, response, stored, _, _, answered, settled⟩ := given
  exact ⟨payment, stored, answered ▸ settled⟩

end

-----------------------------------------------------------------------------------------
-- The daemon
-----------------------------------------------------------------------------------------

namespace ReconciliationDaemon

variable {t : Tid} {s : Snapshot} {x : TxId} {writes : List (Sigma Row)} {α : Type}

/-- What a program that runs alone answers, wherever it ends. -/
theorem yields_answer {service : Service α} {Q : α → Prop}
    (answers : Within (fun _ _ => True) t service Q)
    : (exclusiveAlone t).Yields s service fun value _ => Q value := by
  refine (Protocol.Spec.of_within (P := fun _ => True) answers
    (fun _ _ _ _ _ _ => ⟨trivial, fun other => absurd rfl other, trivial⟩)
    (Protocol.Stable.const True)).conseq (fun _ _ _ => trivial)
    (fun value world _ ends => ⟨.of t world, at_alone t world, ends.1⟩) fun _ _ _ _ => trivial

theorem answers_confirmPayment (config : Config) (orderId : Id) (order : Order)
    (payment : Option (Id × Payment)) (paymentReference : String)
    (response : NormalizedPaymentResponse)
    : Within (fun _ _ => True) t
        (confirmPayment config x orderId order payment paymentReference response)
        fun action => action = .CONFIRMED_AND_SETTLED := by
  refine Within.bind Within.any fun _ _ => Within.bind Within.any fun _ _ => ?_
  refine Within.bind Within.any fun _ _ => Within.bind Within.any fun settlement _ => ?_
  cases settlement with
  | some settlement => exact Within.pure rfl
  | none =>
      refine Within.bind Within.any fun _ _ => Within.bind Within.any fun _ _ => ?_
      exact Within.bind Within.any fun _ _ => Within.pure rfl

/-- The order has failed in the transaction. -/
def FailedOrder (orderId : Id) (rows : AList Row) : Prop :=
  (rows.lookup (.order orderId)).map Order.status = some .FAILED

theorem yields_failPayment (opened : s.pending x = some writes) (orderId : Id)
    (payment : Option (Id × Payment))
    : (exclusiveAlone t).Yields s (markPaymentFailed x orderId payment) fun _ last =>
        FailedOrder orderId (last.visible (some x)) := by
  refine Yields.bind (yields_update trivial) fun _ next given => ?_
  obtain ⟨order, _, _, rfl⟩ := given
  have moved := Snapshot.visible_save opened
    (show Row (.order orderId) from { order with status := .FAILED })
  have opened := Snapshot.save_pending opened [⟨.order orderId, { order with status := .FAILED }⟩]
  generalize s.save (some x) _ = next at moved opened
  have failed : FailedOrder orderId (next.visible (some x)) := by
    simp [FailedOrder, moved]
  refine Yields.bind (R := fun _ last => (last.pending x).isSome
    ∧ FailedOrder orderId (last.visible (some x))) ?_ fun _ last given => ?_
  · cases payment with
    | none => exact Yields.pure ⟨by simp [opened], failed⟩
    | some payment =>
        refine Yields.bind (yields_update trivial) fun _ last given => Yields.pure ?_
        obtain ⟨row, _, _, rfl⟩ := given
        refine ⟨by simp [Snapshot.save_pending opened], ?_⟩
        rw [FailedOrder, Snapshot.visible_save opened, AList.lookup_insert_ne (by simp)]
        exact failed
  obtain ⟨still, failed⟩ := given
  obtain ⟨_, opened⟩ := Option.isSome_iff_exists.mp still
  refine Yields.bind (yields_releaseReservationInTx (fun _ _ => trivial) opened orderId)
    fun _ after drafted => Yields.pure ?_
  have same : (after.visible (some x)).lookup (.order orderId)
      = (last.visible (some x)).lookup (.order orderId) :=
    congrFun drafted.done (.order orderId)
  rw [FailedOrder, same]
  exact failed

/-- What the daemon marks as failed is an order that waited for its payment. -/
theorem yields_reconcile (config : Config) (orderId : Id)
    : (exclusiveAlone t).Yields s (reconcileSinglePaymentOrder config orderId) fun action last =>
        action = .MARKED_FAILED → ∃ order, s.committed.lookup (.order orderId) = some order
          ∧ reconcilable order.status ∧ FailedOrder orderId last.committed := by
  refine yields_transaction (R := fun x action last => action = .MARKED_FAILED
    → ∃ order, s.committed.lookup (.order orderId) = some order
      ∧ reconcilable order.status ∧ FailedOrder orderId (last.visible (some x)))
    (fun x _ _ => ?_) (fun _ _ _ _ _ => trivial) fun _ _ _ _ held => held
  have opened : (s.begin x).pending x = some [] := Snapshot.begin_pending
  have seen : (s.begin x).visible (some x) = s.committed := Snapshot.visible_of_pending opened
  generalize s.begin x = first at opened seen
  refine Yields.bind yields_selectForUpdate fun _ _ same => ?_
  subst same
  refine Yields.bind (yields_findUnique trivial) fun read next given => ?_
  obtain ⟨read_eq, rfl⟩ := given
  rw [seen] at read_eq
  cases read with
  | none => exact Yields.pure nofun
  | some order =>
      refine Yields.bind (yields_findFirst fun agree value => ?_) fun payment last given => ?_
      · obtain ⟨id, found⟩ := value
        rw [mem_paymentsOf, mem_paymentsOf, agree _ trivial]
      obtain ⟨rfl, _⟩ := given
      refine Yields.bind (yields_findFirst fun agree value => ?_) fun refund last given => ?_
      · obtain ⟨id, found⟩ := value
        rw [mem_refundsOf, mem_refundsOf, agree _ trivial]
      obtain ⟨rfl, _⟩ := given
      refine Yields.bind stays_emit.yields fun _ _ same => ?_
      subst same
      dsimp only
      split
      · exact Yields.pure nofun
      split
      · exact Yields.pure nofun
      rename_i waits
      split
      · exact Yields.pure nofun
      refine Yields.bind (yields_findUnique trivial) fun reservation last given => ?_
      obtain ⟨_, rfl⟩ := given
      split
      · exact Yields.pure nofun
      refine Yields.bind (stays_askProvider config _ _ order).yields fun answer last same => ?_
      subst same
      have failing : (exclusiveAlone t).Yields last (markPaymentFailed x orderId payment)
          fun action last => action = .MARKED_FAILED
            → ∃ order, s.committed.lookup (.order orderId) = some order
              ∧ reconcilable order.status ∧ FailedOrder orderId (last.visible (some x)) :=
        (yields_failPayment opened orderId payment).mono fun _ _ failed _ =>
          ⟨order, read_eq.symm, by simpa using waits, failed⟩
      cases answer with
      | none => exact Yields.pure nofun
      | some response =>
          dsimp only
          unfold applyVerdict
          split
          · split
            · refine (yields_answer (answers_confirmPayment config orderId order payment _
                response)).mono fun action _ same failed => ?_
              exact absurd (same.symm.trans failed) (by simp)
            · exact failing
          · exact failing
          · exact Yields.pure nofun

end ReconciliationDaemon

-----------------------------------------------------------------------------------------
-- Sequences of verdicts
-----------------------------------------------------------------------------------------

section

variable {config : Config} {t : Tid} {world after : World} {orderId paymentId : Id}

/-- A webhook that reports a failure. -/
theorem spares_iff_of_webhook {provider : Provider} {event : WebhookEventPayload}
    {result : WebhookResult} {payment : Payment} (failed : event.status = .FAILED)
    (names : Names provider event paymentId payment world.db.committed)
    (run : Program.Alone t ((VerdictCall.webhook provider event).service config).run world
      (.ok (.processed result)) after)
    : DeliveredVerdict.Spares payment.orderId ⟨.webhook provider event, .ok (.processed result),
          world.db.committed, after.db.committed⟩
      ↔ DeliveredVerdict.Ignored ⟨.webhook provider event, .ok (.processed result),
          world.db.committed, after.db.committed⟩
        ∨ BeyondFailing payment.orderId world.db.committed := by
  have ended := Yields.alone (Q := fun _ last =>
    if (world.db.committed.lookup (.webhookEvent provider.providerId event.eventId)).isSome
        ∨ PaymentStateMachine.canTransition payment.status event.status = false then
      ∀ key : Key, key.lasting → last.lookup key = world.db.committed.lookup key
    else
      ∀ key : Key, key.lasting → last.lookup key
        = settle payment.orderId paymentId event.status (tableOf world.db.committed) key)
    (Yields.map ((yields_reportedEvent (s := .of t world) names).mono
      fun _ _ ended _ agree => by
        split at ended
        · rename_i ignored
          exact (if_pos ignored).mpr fun key lasting =>
            (agree key trivial).trans (ended key lasting)
        · rename_i applied
          exact (if_neg applied).mpr fun key lasting =>
            (agree key trivial).trans (ended key lasting))) run
  have only {id : Id} {other : Payment} (named : Names provider event id other world.db.committed)
      : other = payment := by
    obtain ⟨name, same_name, of_name, only⟩ := names.named
    obtain ⟨name', same_name', of_name', _⟩ := named.named
    obtain rfl := Option.some.inj (same_name.symm.trans same_name')
    obtain rfl : id = paymentId :=
      only (id, other) (mem_paymentsNamed.mpr ⟨named.stored, named.ofProvider, of_name'⟩)
    exact Option.some.inj (named.stored.symm.trans names.stored)
  by_cases ignored : (world.db.committed.lookup
      (.webhookEvent provider.providerId event.eventId)).isSome
    ∨ PaymentStateMachine.canTransition payment.status event.status = false
  · rw [if_pos ignored] at ended
    refine iff_of_true ⟨?_, ended _ (by trivial)⟩ (Or.inl (ignored.imp_right fun refused id other
      named => only named ▸ refused))
    rw [ended _ (by trivial)]
  · rw [if_neg ignored] at ended
    rw [spares_iff_of_settle (failed ▸ ended), or_iff_right]
    exact fun ignores => ignored (ignores.imp_right fun refused => refused paymentId payment names)

/-- The provider's verdict, asked for, is a failure. -/
theorem spares_iff_of_verifying {userId : Id} {isAdmin : Bool} {params : VerifyParams}
    {verified payment : Payment} (failed : verified.status = .FAILED)
    (stored : world.db.committed.lookup (.payment paymentId) = some payment)
    (run : Program.Alone t ((VerdictCall.verifying paymentId userId isAdmin params).service
      config).run world (.ok (.verified verified)) after)
    : DeliveredVerdict.Spares payment.orderId
        ⟨.verifying paymentId userId isAdmin params, .ok (.verified verified),
          world.db.committed, after.db.committed⟩
      ↔ BeyondFailing payment.orderId world.db.committed := by
  have ended := Yields.alone (Q := fun answer last => ∀ verified, answer = .verified verified
      → ∃ payment, world.db.committed.lookup (.payment paymentId) = some payment
        ∧ tableOf last = settle payment.orderId paymentId verified.status
          (tableOf world.db.committed))
    (Yields.map ((yields_verifyPayment (s := .of t world) config paymentId userId isAdmin
      params).mono fun _ _ ended _ agree _ same => by
        obtain rfl := VerdictAnswer.verified.inj same
        obtain ⟨payment, stored, settled⟩ := ended
        exact ⟨payment, stored, (funext fun key => agree key trivial).trans settled⟩)) run
  obtain ⟨_, same, settled⟩ := ended verified rfl
  obtain rfl := Option.some.inj (stored.symm.trans same)
  exact spares_iff_of_settle fun key _ => failed ▸ congrFun settled key

/-- What the daemon marks as failed was not beyond that. -/
theorem spares_iff_of_reconciling {action : ReconciliationAction} (failed : action = .MARKED_FAILED)
    (run : Program.Alone t ((VerdictCall.reconciling orderId).service config).run world
      (.ok (.reconciled action)) after)
    : DeliveredVerdict.Spares orderId
        ⟨.reconciling orderId, .ok (.reconciled action), world.db.committed, after.db.committed⟩
      ↔ BeyondFailing orderId world.db.committed := by
  have ended := Yields.alone (Q := fun answer last => answer = .reconciled .MARKED_FAILED
      → ∃ order, world.db.committed.lookup (.order orderId) = some order
        ∧ ReconciliationDaemon.reconcilable order.status
        ∧ ReconciliationDaemon.FailedOrder orderId last)
    (Yields.map ((ReconciliationDaemon.yields_reconcile (s := .of t world) config orderId).mono
      fun _ _ ended _ agree same => by
        obtain ⟨order, found, waits, marked⟩ := ended (VerdictAnswer.reconciled.inj same)
        rw [ReconciliationDaemon.FailedOrder, ← agree _ trivial] at marked
        exact ⟨order, found, waits, marked⟩)) run
  obtain ⟨order, found, waits, marked⟩ := ended (failed ▸ rfl)
  refine iff_of_false (fun spared => ?_) fun beyond => ?_
  · have same := marked.symm.trans spared.order
    simp only [found, Option.map_some, Option.some.injEq] at same
    simp [← same, ReconciliationDaemon.reconcilable] at waits
  · rcases beyond.order order found with status | ignored
    · simp [status, ReconciliationDaemon.reconcilable] at waits
    · cases status : order.status <;>
        simp_all [ReconciliationDaemon.reconcilable, OrderStatus.ignoresFailure]

/-- A failure spares the order exactly if it is ignored or there is nothing left to fail. -/
theorem spares_iff_beyondFailing {call : VerdictCall} {answer : Except AppError VerdictAnswer}
    (run : Program.Alone t (call.service config).run world answer after)
    (fails : DeliveredVerdict.Fails orderId paymentId
      ⟨call, answer, world.db.committed, after.db.committed⟩)
    : DeliveredVerdict.Spares orderId ⟨call, answer, world.db.committed, after.db.committed⟩
      ↔ DeliveredVerdict.Ignored ⟨call, answer, world.db.committed, after.db.committed⟩
        ∨ BeyondFailing orderId world.db.committed := by
  obtain ⟨payment, stored, rfl, verdict⟩ := fails
  dsimp only at verdict
  split at verdict
  · exact spares_iff_of_webhook verdict.1 verdict.2 run
  · obtain ⟨rfl, failed⟩ := verdict
    exact (spares_iff_of_verifying failed stored run).trans (or_iff_right id).symm
  · obtain ⟨rfl, failed⟩ := verdict
    exact (spares_iff_of_reconciling failed run).trans (or_iff_right id).symm
  · exact verdict.elim

end

/-- A payment fails while another one of its order is SUCCEEDED: this leaves the status and the
reservation of the order alone exactly where the webhook of the failure is ignored, or the order
has failed already or is beyond failing and its reservation is consumed or released. By
induction over the verdicts that are delivered.
-/
theorem failed_attempt_spares_paid_order {config : Config} {start last : World}
    {delivered : List DeliveredVerdict} (verdicts : Verdicts config start delivered last)
    (orderId : Id)
    : (∀ verdict ∈ delivered, verdict.FailsAnother orderId → verdict.Spares orderId)
      ↔ ∀ verdict ∈ delivered, verdict.FailsAnother orderId
        → verdict.Ignored ∨ BeyondFailing orderId verdict.before := by
  have each : ∀ verdict ∈ delivered, verdict.FailsAnother orderId
      → (verdict.Spares orderId ↔ verdict.Ignored ∨ BeyondFailing orderId verdict.before) := by
    induction verdicts with
    | none => exact fun _ member => absurd member List.not_mem_nil
    | next earlier run ih =>
        intro verdict member another
        rcases List.mem_append.mp member with before | new
        · exact ih verdict before another
        · obtain rfl := List.mem_singleton.mp new
          obtain ⟨_, _, _, fails, _⟩ := another
          exact spares_iff_beyondFailing run fails
  exact forall_congr' fun verdict => forall_congr' fun member => forall_congr' fun another =>
    each verdict member another

/-- An order with a payment that has succeeded and one that is still pending. -/
def paidOnce (status : OrderStatus) (reserved : LiquidityReservationStatus) : AList Row :=
  (((((∅ : AList Row).insert (.order "order") { awaitingOrder none with status := status }).insert
    (.payment "payment") paidThroughPaystack).insert
    (.payment "paid")
      { paidThroughPaystack with status := .SUCCEEDED, reference := "PAY_2" }).insert
    (.liquidityReservation "order")
      (⟨"pool", 500000000, reserved, 900000⟩ : LiquidityReservation)).insert
    (.liquidityPool "pool") (⟨1000000000, 500000000, 500000000⟩ : LiquidityPool)

/-- The webhook that reports the failure of the pending payment. -/
def chargeFailed : WebhookEventPayload :=
  parsePaystackEvent plainCrypto { id := some "evt_2", event := some "charge.failed",
                                   data := { reference := some "PAY_1", status := some "failed" } }

def paidStatus (rows : AList Row) : Option (Id × PaymentStatus) :=
  (rows.lookup (.payment "paid")).map fun (payment : Payment) => (payment.orderId, payment.status)

theorem paidBy_of_status {rows : AList Row} (found : paidStatus rows = some ("order", .SUCCEEDED))
    : PaidBy "order" "paid" rows := by
  obtain ⟨payment, stored, same⟩ := Option.map_eq_some_iff.mp found
  obtain ⟨of_order, succeeded⟩ := Prod.mk.inj same
  exact ⟨payment, stored, of_order, succeeded⟩

/-- The webhook alone is the run of verdicts, and it fails another payment than the paid one. -/
theorem delivers_chargeFailed {status : OrderStatus} {reserved : LiquidityReservationStatus}
    {seen : Option OrderStatus}
    (pending : (paidOnce status reserved).lookup (.payment "payment") = some paidThroughPaystack)
    (named : WebhookService.paymentsNamed "PAYSTACK_NGN_BANK_TRANSFER" "PAY_1"
      (paidOnce status reserved) = [("payment", paidThroughPaystack)])
    (before : paidStatus (paidOnce status reserved) = some ("order", .SUCCEEDED))
    (went : ((WebhookService.handleEvent .PAYSTACK_NGN_BANK_TRANSFER chargeFailed).run.evalAlone 0
        (World.start (paidOnce status reserved)) (List.replicate 20 {})).map (fun last =>
          (last.1.isOk, statusOfOrder last.2, paidStatus last.2.db.committed))
      = some (true, seen, some ("order", .SUCCEEDED)))
    : ∃ verdict last,
        Verdicts paystackConfig (World.start (paidOnce status reserved)) [verdict] last
        ∧ verdict.FailsAnother "order" ∧ verdict.before = paidOnce status reserved
        ∧ (verdict.after.lookup (.order "order")).map Order.status = seen := by
  obtain ⟨⟨answer, last⟩, ran, found⟩ := Option.map_eq_some_iff.mp went
  obtain ⟨answered, found⟩ := Prod.mk.inj found
  obtain ⟨ordered, paid⟩ := Prod.mk.inj found
  cases answer with
  | error error => simp [Except.isOk, Except.toBool] at answered
  | ok result =>
      have run : Program.Alone 0 ((VerdictCall.webhook .PAYSTACK_NGN_BANK_TRANSFER
          chargeFailed).service paystackConfig).run (World.start (paidOnce status reserved))
          (.ok (.processed result)) last :=
        Program.alone_bind_iff.mpr ⟨_, _, Program.alone_of_evalAlone ran, .done _ _⟩
      have only : ∀ found ∈ WebhookService.paymentsNamed "PAYSTACK_NGN_BANK_TRANSFER" "PAY_1"
          (paidOnce status reserved), found.1 = "payment" := by
        simp [named]
      refine ⟨_, last, .next (.none _) run, ⟨"payment", "paid", by decide, ?_,
        paidBy_of_status before, paidBy_of_status paid⟩, rfl, ordered⟩
      exact ⟨paidThroughPaystack, pending, rfl, by decide +kernel, pending, rfl, "PAY_1", rfl,
        Or.inr rfl, only⟩

/-- The order fails with the second payment. -/
theorem paid_order_fails
    : ∃ delivered last, Verdicts paystackConfig
          (World.start (paidOnce .PAYMENT_CONFIRMED .CONFIRMED)) delivered last
        ∧ ∃ verdict ∈ delivered, verdict.FailsAnother "order" ∧ ¬verdict.Spares "order" := by
  obtain ⟨verdict, last, verdicts, another, before, after⟩ :=
    @delivers_chargeFailed .PAYMENT_CONFIRMED .CONFIRMED (some .FAILED) (by decide +kernel)
      (by decide +kernel) (by decide +kernel) (by decide +kernel)
  refine ⟨[verdict], last, verdicts, verdict, List.mem_singleton_self _, another, fun spared => ?_⟩
  have same := spared.order
  rw [after, before] at same
  exact absurd same (by decide +kernel)

/-- An order that has been completed is spared. -/
theorem failed_attempt_spares_completed_order
    : ∃ verdict last, Verdicts paystackConfig (World.start (paidOnce .COMPLETED .CONSUMED))
          [verdict] last
        ∧ verdict.FailsAnother "order" ∧ verdict.Spares "order" := by
  obtain ⟨verdict, last, verdicts, another, before, _⟩ :=
    @delivers_chargeFailed .COMPLETED .CONSUMED (some .COMPLETED) (by decide +kernel)
      (by decide +kernel) (by decide +kernel) (by decide +kernel)
  refine ⟨verdict, last, verdicts, another, (failed_attempt_spares_paid_order verdicts "order").mpr
    (fun other member _ => Or.inr ?_) verdict (List.mem_singleton_self _) another⟩
  obtain rfl := List.mem_singleton.mp member
  rw [before]
  refine ⟨fun order found => Or.inr ?_, fun reservation found => Or.inl ?_⟩
  · have completed : (paidOnce .COMPLETED .CONSUMED).lookup (.order "order")
        = some { awaitingOrder none with status := .COMPLETED } := by
      decide +kernel
    rw [← Option.some.inj (completed.symm.trans found)]
    rfl
  · have consumed : (paidOnce .COMPLETED .CONSUMED).lookup (.liquidityReservation "order")
        = some (⟨"pool", 500000000, .CONSUMED, 900000⟩ : LiquidityReservation) := by
      decide +kernel
    rw [← Option.some.inj (consumed.symm.trans found)]

end LuminaRail
