import LuminaRail.Model.Discipline
import LuminaRail.Workers.Footprints

/-! Whether payments follow their state machine. Verifying a payment and processing a webhook
compare the status they have read with the stored one when they write; creating, reconciling and
refunding a payment write over whatever status it has by then.
-/

namespace LuminaRail

open Concurrency Database Service

/-- The calls that write the status of a payment. -/
inductive PaymentCall
  | creating (userId : Id) (input : CreatePaymentInput) (idempotencyKey : Option String)
  | verifying (paymentId userId : Id) (isAdmin : Bool) (params : VerifyParams)
  | webhook (providerName : String) (request : WebhookRequest)
  | reconciling (orderId : Id)
  | refunding (refundId : Id)

namespace PaymentCall

def thread (crypto : Crypto) (config : Config) : PaymentCall → Program World Input Unit
  | .creating userId input idempotencyKey =>
      (PaymentService.createPayment config userId input idempotencyKey).thread
  | .verifying paymentId userId isAdmin params =>
      (PaymentService.verifyPayment config paymentId userId isAdmin params).thread
  | .webhook providerName request =>
      (WebhookService.processWebhook crypto config providerName request).thread
  | .reconciling orderId =>
      (ReconciliationDaemon.reconcileSinglePaymentOrder config orderId).thread
  | .refunding refundId => (RefundService.executeRefund config refundId).thread

/-- The statuses in which a call that compares nothing is meant to find its payment: as
`createPayment` has inserted it, not yet settled, or paid.
-/
def expects : PaymentCall → PaymentStatus → Bool
  | .creating _ _ _, status => status = .CREATED
  | .reconciling _, status => status = .CREATED || status = .PENDING || status = .PROCESSING
  | .refunding _, status => status = .SUCCEEDED
  | _, _ => true

/-- What a call may write over the status of a payment. -/
def MovesPayment : PaymentCall → PaymentStatus → PaymentStatus → Prop
  | .creating _ _ _, _, new => new ≠ .REFUNDED
  | .reconciling _, _, new => new = .SUCCEEDED ∨ new = .FAILED
  | .refunding _, _, new => new = .REFUNDED
  | _, old, new => PaymentStateMachine.canTransition old new ∧ new ≠ .REFUNDED

def Writes (call : PaymentCall) : Server.Replaces Row
  | .payment _, old, new => ∀ row ∈ old, call.MovesPayment row.status new.status
  | _, _, _ => True

end PaymentCall

open PaymentCall

/-- A payment that a call moves is in a status that the call expects. -/
def FindsExpected (calls : Tid → PaymentCall) (t : Tid) (before after : World) : Prop :=
  ∀ id old new, before.db.committed.lookup (.payment id) = some old
    → after.db.committed.lookup (.payment id) = some new → old.status ≠ new.status
    → (calls t).expects old.status

/-- A stored payment changes its status as the state machine allows. -/
def PaymentsFollow : Server.Replaces Row
  | .payment _, old, new => ∀ row ∈ old, PaymentStateMachine.canTransition row.status new.status
  | _, _, _ => True

/-- Without refunds, the state machine allows whatever it allows in several steps. -/
theorem canTransition_trans {a b c : PaymentStatus}
    (first : PaymentStateMachine.canTransition a b) (second : PaymentStateMachine.canTransition b c)
    (unrefunded : c ≠ .REFUNDED)
    : PaymentStateMachine.canTransition a c := by
  cases a <;> cases b <;> simp_all [PaymentStateMachine.canTransition,
    PaymentStateMachine.allowedTransitions] <;> grind

theorem PaymentCall.moves_trans (call : PaymentCall) {a b c : PaymentStatus}
    (first : call.MovesPayment a b) (second : call.MovesPayment b c)
    : call.MovesPayment a c := by
  cases call with
  | creating | reconciling | refunding => exact second
  | verifying | webhook => exact ⟨canTransition_trans first.1 second.1 second.2, second.2⟩

theorem PaymentCall.writes_transitive (call : PaymentCall) : call.Writes.Transitive := by
  intro key old row next first second
  cases key with
  | payment id => exact fun before found => call.moves_trans (first before found) (second row rfl)
  | _ => trivial

/-- A move of a payment that was expected follows the state machine. -/
theorem PaymentCall.follows (call : PaymentCall) {old new : PaymentStatus}
    (moves : call.MovesPayment old new) (expected : old ≠ new → call.expects old)
    : PaymentStateMachine.canTransition old new := by
  by_cases same : old = new
  · simp [PaymentStateMachine.canTransition, same]
  have expected := expected same
  cases call with
  | creating =>
      simp only [expects, decide_eq_true_eq] at expected
      subst expected
      cases new <;> simp_all [MovesPayment, PaymentStateMachine.canTransition,
        PaymentStateMachine.allowedTransitions]
  | reconciling =>
      cases old <;> simp_all [expects]
      all_goals rcases moves with rfl | rfl <;> rfl
  | refunding =>
      simp only [expects, decide_eq_true_eq] at expected
      subst expected
      rw [moves]
      rfl
  | verifying | webhook => exact moves.1

-----------------------------------------------------------------------------------------
-- Runs
-----------------------------------------------------------------------------------------

/-- Any number of calls that write payments. -/
def paymentDiscipline (calls : Tid → PaymentCall) : Discipline where
  rows _ _ _ := True
  changes := PaymentsFollow
  promised _ _ _ _ := trivial
  transitive _ _ _ _ _ _ := trivial
  writes t := (calls t).Writes
  inv _ := True
  allowed := FindsExpected calls

/-- A call and its own events. -/
def PaymentCall.footprint (call : PaymentCall) (t : Tid) : Footprint :=
  ⟨call.Writes, fun event => ∀ u ∈ event.owner, u = t⟩

section

variable {calls : Tid → PaymentCall} {call : PaymentCall} {t : Tid} {world after : World}

theorem PaymentCall.allowsLiquidity : (call.footprint t).AllowsLiquidity :=
  ⟨fun _ _ _ => trivial, fun _ _ _ => trivial, fun _ _ _ => trivial⟩

theorem PaymentCall.allowsCreation {userId : Id} {input : CreatePaymentInput}
    {idempotencyKey : Option String}
    : ((creating userId input idempotencyKey).footprint t).AllowsCreation t where
  requested _ := by simp [footprint, Event.owner]
  stored _ _ _ := nofun
  reference _ _ := trivial
  idempotencyKey _ _ := trivial
  answered _ _ _ _ unrefunded := fun _ _ => unrefunded
  record _ _ := trivial
  recordId _ _ _ := trivial
  order _ _ := trivial

/-- The calls that compare before they write. -/
theorem PaymentCall.allowsNews
    (compares : ∀ old new, call.MovesPayment old new
      ↔ PaymentStateMachine.canTransition old new ∧ new ≠ .REFUNDED)
    : (call.footprint t).AllowsNews t where
  toAllowsLiquidity := allowsLiquidity
  reports := .of_own fun _ own => own
  checks := .of_own fun _ own => own
  transition _ row status _ allowed unrefunded := by
    intro old same
    obtain rfl := Option.some.inj same
    exact (compares _ _).mpr ⟨allowed, unrefunded⟩
  record _ _ _ := trivial
  order _ _ _ _ := trivial
  event _ _ _ _ := trivial
  claimed _ _ := by simp [footprint, Event.owner]

theorem PaymentCall.allowsReconciliation {orderId : Id}
    : ((reconciling orderId).footprint t).AllowsPaymentReconciliation t where
  toAllowsLiquidity := allowsLiquidity
  reports := .of_own fun _ own => own
  picked _ _ _ := by simp [footprint, Event.owner]
  payment _ _ _ _ _ _ settled := fun _ _ => settled
  order _ _ _ _ := trivial
  settlement _ _ _ := trivial
  settlementNumber _ _ := trivial

theorem PaymentCall.allowsRefund {refundId : Id}
    : ((refunding refundId).footprint t).AllowsRefund t where
  toAllowsLiquidity := allowsLiquidity
  refund _ _ _ _ _ := trivial
  payment _ _ _ := fun _ _ => rfl
  order _ _ _ _ := trivial
  checked _ _ _ _ := by simp [footprint, Event.owner]

theorem payment_observable : Observable (paymentDiscipline calls).inv :=
  ⟨fun _ _ _ _ holds => holds, fun _ _ holds => holds⟩

theorem payment_admits (t : Tid)
    : (paymentDiscipline calls).Admits ((calls t).footprint t) t where
  transitive := (calls t).writes_transitive
  writes := rfl
  events _ own := own

/-- What a call that finds its payments as expected does to them follows the state machine. -/
theorem payment_keeps (effect : Effect ((calls t).footprint t) t world after)
    (found : FindsExpected calls t world after)
    : Server.Evolves PaymentsFollow world.db.committed after.db.committed := by
  refine ⟨fun {key row} shown => ?_, effect.rows.kept⟩
  refine (effect.rows.rows shown).imp_right fun moved => ?_
  cases key with
  | payment id =>
      intro old stored
      exact (calls t).follows (moved old stored) (found id old row stored shown)
  | _ => trivial

theorem spec_payment {α : Type} {service : Service α} (same : calls t = call)
    (within : Within (Step (call.footprint t) t) t service)
    : (paymentDiscipline calls).protocol.Spec t (fun _ => True) service (fun _ _ => True)
        fun _ _ => True := by
  subst same
  exact (payment_admits t).spec
    (fun world after _ effect found => ⟨payment_keeps effect found, trivial⟩) within

/-- Every call is safe where it finds its payments as it expects them. -/
theorem PaymentCall.safe (crypto : Crypto) (config : Config) (same : calls t = call)
    (holds : (paymentDiscipline calls).protocol.inv world)
    : (paymentDiscipline calls).protocol.Safe t (fun _ _ => True) (call.thread crypto config)
        world := by
  cases call with
  | creating userId input idempotencyKey =>
      exact Service.thread_safe
        (spec_payment same (within_createPayment allowsCreation config userId input idempotencyKey))
        holds trivial
  | verifying paymentId userId isAdmin params =>
      exact Service.thread_safe (spec_payment same
        (within_verifyPayment (allowsNews fun _ _ => Iff.rfl) config paymentId userId isAdmin params))
        holds trivial
  | webhook providerName request =>
      exact Service.thread_safe (spec_payment same
        (within_processWebhook (allowsNews fun _ _ => Iff.rfl) crypto config providerName request))
        holds trivial
  | reconciling orderId =>
      exact Service.thread_safe (spec_payment same
        (ReconciliationDaemon.within_reconcileSinglePaymentOrder allowsReconciliation config orderId))
        holds trivial
  | refunding refundId =>
      exact Service.thread_safe
        (spec_payment same (within_executeRefund allowsRefund (.of_own fun _ own => own) config
          refundId)) holds trivial

end

/-- However the calls interleave, fail and crash: as long as those that compare nothing find
their payments in the statuses that they expect, each committed change of a payment's status is
one that the state machine allows. A SUCCEEDED payment can only become REFUNDED, and FAILED,
CANCELLED, EXPIRED and REFUNDED payments stay what they are. By what every step of a verified
run writes.
-/
theorem payment_follows_stateMachine {crypto : Crypto} {config : Config}
    {calls : Tid → PaymentCall} {rows : AList Row} {pool last : Pool World Input}
    {change : Move Input Chance}
    (run : Run (machine anyExpiry) (FindsExpected calls)
      ⟨World.start rows, fun t => (calls t).thread crypto config⟩ pool)
    (moved : pool.move (machine anyExpiry) change = some last)
    (found : ∀ t input, change = .run t input → FindsExpected calls t pool.state last.state)
    {id : Id} {old new : Payment}
    (before : pool.state.db.committed.lookup (.payment id) = some old)
    (after : last.state.db.committed.lookup (.payment id) = some new)
    : PaymentStateMachine.canTransition old.status new.status = true
      ∧ (old.status = .SUCCEEDED → new.status = .SUCCEEDED ∨ new.status = .REFUNDED)
      ∧ (old.status = .FAILED ∨ old.status = .CANCELLED ∨ old.status = .EXPIRED
          ∨ old.status = .REFUNDED → new.status = old.status) := by
  have verified := Discipline.verified payment_observable
    rfl trivial (fun t => PaymentCall.safe crypto config rfl
      ⟨trivial, Server.AllJustified.start rows⟩) run
  have follows : PaymentStateMachine.canTransition old.status new.status = true := by
    rcases (Discipline.evolves verified moved found).rows after with same | followed
    · obtain rfl := Option.some.inj (before.symm.trans same)
      simp [PaymentStateMachine.canTransition]
    · exact followed old before
  refine ⟨follows, fun paid => ?_, fun final => ?_⟩
  · rw [paid] at follows
    cases reached : new.status <;> simp_all [PaymentStateMachine.canTransition,
      PaymentStateMachine.allowedTransitions]
  · rcases final with status | status | status | status <;>
      simpa [status, PaymentStateMachine.canTransition, PaymentStateMachine.allowedTransitions,
        eq_comm] using follows

/-- An order of a user that waits for its payment. -/
def unpaidOrder : AList Row :=
  (∅ : AList Row).insert (.order "order")
    ({ userId := "user", quoteId := "quote", status := .CREATED,
       sourceCurrency := "NGN", destinationAsset := "USDC",
       sourceAmount := 1000000, destinationAmount := 500000000 } : Order)

/-- A payment is created with the mock provider while its webhook comes in. -/
def createdAndReported : Tid → PaymentCall
  | 0 => .creating "user" { orderId := "order" } none
  | _ => .webhook "MOCK"
      { headers := { mock := some "mock_valid_signature" }
        body := { event_id := some "evt_1",
                  data := { providerPaymentId := some "PAY_0_x", status := some "SUCCEEDED" } } }

def paymentStatus (pool : Pool World Input) : Option PaymentStatus :=
  (pool.state.db.committed.lookup (.payment "x")).map Payment.status

/-- The webhook finds the payment by its reference while `createPayment` waits for the provider,
and `createPayment` stores the provider's answer over what the webhook has stored.
-/
theorem succeeded_payment_pends
    : ∃ pool last, AnyRun (machine anyExpiry)
        ⟨World.start unpaidOrder,
          fun t => (createdAndReported t).thread ⟨fun _ body => body, id⟩ {}⟩ pool
      ∧ pool.move (machine anyExpiry) (.run 0 {}) = some last
      ∧ paymentStatus pool = some .SUCCEEDED ∧ paymentStatus last = some .PENDING
      ∧ PaymentStateMachine.canTransition .SUCCEEDED .PENDING = false := by
  have went : ((Pool.schedule (machine anyExpiry)
      ⟨World.start unpaidOrder,
        fun t => (createdAndReported t).thread ⟨fun _ body => body, id⟩ {}⟩
      (List.replicate 8 (.run 0 { text := "x" }) ++ List.replicate 15 (.run 1 {})
        ++ List.replicate 4 (.run 0 {}))).bind fun pool =>
      (pool.move (machine anyExpiry) (.run 0 {})).map fun last =>
        (paymentStatus pool, paymentStatus last))
      = some (some .SUCCEEDED, some .PENDING) := by
    decide +kernel
  obtain ⟨pool, reached, later⟩ := Option.bind_eq_some_iff.mp went
  obtain ⟨last, moved, statuses⟩ := Option.map_eq_some_iff.mp later
  obtain ⟨before, after⟩ := Prod.mk.inj statuses
  exact ⟨pool, last, .of_schedule reached, moved, before, after, rfl⟩

/-- Every payment that is moved is in a status that its call expects. -/
def findsExpected (calls : Tid → PaymentCall) (t : Tid) (before after : World) : Bool :=
  before.db.committed.entries.all fun entry =>
    match entry with
    | ⟨.payment id, (old : Payment)⟩ =>
        (after.db.committed.lookup (.payment id)).all fun (new : Payment) =>
          old.status = new.status || (calls t).expects old.status
    | _ => true

theorem findsExpected_of_check {calls : Tid → PaymentCall} {t : Tid} {before after : World}
    (check : findsExpected calls t before after = true)
    : FindsExpected calls t before after := by
  intro id old new stored written changed
  have held := List.all_eq_true.mp check ⟨.payment id, old⟩ (AList.mem_lookup_iff.mp stored)
  simpa [written, changed] using held

/-- Nobody interferes while the payment is created. -/
theorem payment_follows_stateMachine_created
    : ∃ pool last, Run (machine anyExpiry) (FindsExpected createdAndReported)
        ⟨World.start unpaidOrder,
          fun t => (createdAndReported t).thread ⟨fun _ body => body, id⟩ {}⟩ pool
      ∧ pool.move (machine anyExpiry) (.run 0 {}) = some last
      ∧ paymentStatus pool = some .CREATED ∧ paymentStatus last = some .PENDING
      ∧ PaymentStateMachine.canTransition .CREATED .PENDING = true := by
  have went : ((Pool.checkedSchedule (machine anyExpiry) (findsExpected createdAndReported)
      ⟨World.start unpaidOrder,
        fun t => (createdAndReported t).thread ⟨fun _ body => body, id⟩ {}⟩
      (List.replicate 8 (.run 0 { text := "x" }) ++ List.replicate 4 (.run 0 {}))).bind fun pool =>
      (pool.move (machine anyExpiry) (.run 0 {})).map fun last =>
        (paymentStatus pool, paymentStatus last,
          findsExpected createdAndReported 0 pool.state last.state))
      = some (some .CREATED, some .PENDING, true) := by
    decide +kernel
  obtain ⟨pool, reached, later⟩ := Option.bind_eq_some_iff.mp went
  obtain ⟨last, moved, found⟩ := Option.map_eq_some_iff.mp later
  obtain ⟨before, found⟩ := Prod.mk.inj found
  obtain ⟨after, check⟩ := Prod.mk.inj found
  obtain ⟨old, stored, old_status⟩ := Option.map_eq_some_iff.mp before
  obtain ⟨new, written, new_status⟩ := Option.map_eq_some_iff.mp after
  have run : Run (machine anyExpiry) (FindsExpected createdAndReported) _ pool :=
    Run.of_checkedSchedule (fun _ _ _ => findsExpected_of_check) reached
  have follows := payment_follows_stateMachine run moved (fun t input same => by
    obtain ⟨rfl, _⟩ := Move.run.inj same
    exact findsExpected_of_check check) stored written
  refine ⟨pool, last, run, moved, before, after, ?_⟩
  rw [← old_status, ← new_status]
  exact follows.1

end LuminaRail
