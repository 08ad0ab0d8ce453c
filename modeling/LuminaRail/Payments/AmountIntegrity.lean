import LuminaRail.Concurrency.Hindsight
import LuminaRail.Model.Phases
import LuminaRail.Payments.StateMachine
import LuminaRail.Webhooks.Deliveries
import Mathlib.Tactic.LinearCombination
import Mathlib.Tactic.Ring

/-! Whether a payment becomes SUCCEEDED only when its provider reports the amount of its order. The
reconciliation compares the two, verifying a payment compares what its caller expects, and a
webhook compares nothing.
-/

namespace LuminaRail

open Concurrency Database Service

/-- An amount is so many kobo: they are written so, or it is rounded to them. -/
def Decimal.IsKobo (amount : Decimal) (amountInKobo : Int) : Prop :=
  amount = koboToFixed amountInKobo ∨ amount.amountInKobo = amountInKobo

/-- The amount in kobo and the currency are those of the order. -/
def Order.Costs (order : Order) (amount : Decimal) (currency : String) : Prop :=
  amount.IsKobo (money order.sourceAmount).amountInKobo ∧ toUpperCase currency = "NGN"

/-- The body of a webhook reports the amount of the order. -/
def WebhookData.Reports (data : WebhookData) (order : Order) : Prop :=
  data.amount = some (ToString.toString (money order.sourceAmount).amountInKobo)
    ∧ data.currency = some "NGN"

/-- The names that the provider of a payment may use for it. -/
def Payment.Answers (payment : Payment) (name : String) : Prop :=
  payment.providerPaymentId = some name ∨ payment.reference = name

/-- A success that Paystack has signed. -/
def WebhookRequest.Confirms (crypto : Crypto) (config : Config) (request : WebhookRequest) : Prop :=
  verifyPaystackSignature crypto config request.headers request.rawBody = true
    ∧ (parsePaystackEvent crypto request.body).status = .SUCCEEDED

namespace PaymentCall

/-- The calls that learn from a provider whether a payment has succeeded. -/
def confirms (config : Config) : PaymentCall → Bool
  | .verifying _ _ _ _ | .reconciling _ => true
  | .webhook providerName _ =>
      PaymentProviderRegistry.resolve config providerName = some .PAYSTACK_NGN_BANK_TRANSFER
  | _ => false

/-- A call is about a payment, which it calls by this name. -/
def AsksFor (rows : AList Row) (id : Id) (name : String) (call : PaymentCall) : Prop :=
  ∃ payment, rows.lookup (.payment id) = some payment
    ∧ match call with
      | .verifying paymentId _ _ _ => paymentId = id ∧ payment.Answers name
      | .webhook _ _ => payment.Answers name
      | .reconciling orderId => payment.orderId = orderId ∧ (payment.reference = name
          ∨ (payment.reference = "" ∧ ∃ order, rows.lookup (.order orderId) = some order
            ∧ order.idempotencyKey = some name))
      | _ => False

/-- The provider has reported a success with the amount of the order under this name to the call. -/
def Heard (crypto : Crypto) (t : Tid) (world : World) (name : String) (order : Order)
    : PaymentCall → Prop
  | .webhook _ request =>
      (parsePaystackEvent crypto request.body).providerPaymentId = some name
        ∧ request.body.data.Reports order
  | _ => ∃ amount currency, .paymentAnswered t name .SUCCEEDED amount currency ∈ world.trace
      ∧ order.Costs amount currency

/-- The call was told the amount of the order, under a name that its payment had in the past. -/
def Told (crypto : Crypto) (past : World → Prop) (t : Tid) (world : World) (id : Id) (order : Order)
    (call : PaymentCall) : Prop :=
  ∃ name, (∃ earlier, past earlier ∧ call.AsksFor earlier.db.committed id name)
    ∧ call.Heard crypto t world name order

/-- The call compares the right amount: a webhook reports the amount of the order of whatever payment
it names, who verifies a payment of Paystack expects the amount of its order, and an order that is
reconciled is one in NGN.
-/
def Compares (crypto : Crypto) (config : Config) (rows : AList Row) : PaymentCall → Prop
  | .webhook _ request => request.Confirms crypto config → ∀ id payment name,
      (parsePaystackEvent crypto request.body).providerPaymentId = some name
      → rows.lookup (.payment id) = some payment → payment.Answers name
      → ∃ order, rows.lookup (.order payment.orderId) = some order
        ∧ request.body.data.Reports order
  | .verifying paymentId _ _ params => ∀ payment, rows.lookup (.payment paymentId) = some payment
      → PaymentProviderRegistry.resolve config payment.provider = some .PAYSTACK_NGN_BANK_TRANSFER
        ∧ ∃ order, rows.lookup (.order payment.orderId) = some order
          ∧ ∃ expected, params.expectedAmount = some (some expected)
            ∧ expected.amountInKobo = (money order.sourceAmount).amountInKobo
  | .reconciling orderId => ∀ order, rows.lookup (.order orderId) = some order
      → toUpperCase order.sourceCurrency = "NGN"
  | _ => True

end PaymentCall

open PaymentCall

/-- The payment becomes SUCCEEDED. -/
def Succeeds (before after : World) (id : Id) (payment : Payment) : Prop :=
  before.db.committed.lookup (.payment id) = some payment ∧ payment.status ≠ .SUCCEEDED
    ∧ ∃ paid, after.db.committed.lookup (.payment id) = some paid ∧ paid.status = .SUCCEEDED

/-- The calls are made for the right amounts. -/
def ComparesAmounts (crypto : Crypto) (config : Config) (calls : Tid → PaymentCall) (t : Tid)
    (before _after : World) : Prop :=
  (calls t).Compares crypto config before.db.committed

/-- Whoever makes a payment SUCCEEDED was told the amount of its order. -/
def ToldAmounts (crypto : Crypto) (config : Config) (past : World → Prop)
    (calls : Tid → PaymentCall) (t : Tid) (before after : World) : Prop :=
  (calls t).confirms config → ∀ id payment, Succeeds before after id payment
    → ∃ order, before.db.committed.lookup (.order payment.orderId) = some order
      ∧ (calls t).Told crypto past t after id order

/-- What is compared stays as it is. -/
def KeepsAmounts : Server.Replaces Row
  | .order _, old, new => ∀ row ∈ old, new.sourceAmount = row.sourceAmount
      ∧ new.sourceCurrency = row.sourceCurrency ∧ new.idempotencyKey = row.idempotencyKey
  | .payment _, old, new => ∀ row ∈ old, new.orderId = row.orderId ∧ new.provider = row.provider
  | _, _, _ => True

/-- Two writes that keep the amounts keep them together, by cases on the kind of row. -/
theorem KeepsAmounts.transitive : KeepsAmounts.Transitive := by
  intro key old row next first second
  cases key with
  | order id =>
      intro before found
      obtain ⟨amount, currency, key⟩ := first before found
      obtain ⟨amount', currency', key'⟩ := second row rfl
      exact ⟨amount'.trans amount, currency'.trans currency, key'.trans key⟩
  | payment id =>
      intro before found
      obtain ⟨order, provider⟩ := first before found
      obtain ⟨order', provider'⟩ := second row rfl
      exact ⟨order'.trans order, provider'.trans provider⟩
  | _ => trivial

/-- What the calls are told, judged by a past that is known. -/
structure Reporting where
  crypto : Crypto
  config : Config
  calls : Tid → PaymentCall
  past : World → Prop

namespace Reporting

/-- Any number of calls that write payments. -/
def discipline (reporting : Reporting) : Discipline where
  rows := KeepsAmounts
  transitive := KeepsAmounts.transitive
  writes _ := KeepsAmounts
  inv _ := True
  allowed t before after :=
    ComparesAmounts reporting.crypto reporting.config reporting.calls t before after
      ∧ reporting.past after

def protocol (reporting : Reporting) : Protocol World :=
  reporting.discipline.protocol.vowing
    (ToldAmounts reporting.crypto reporting.config reporting.past reporting.calls)

/-- The payment was asked about in the past, under this name. -/
def Asked (reporting : Reporting) (t : Tid) (id : Id) (name : String) : Prop :=
  ∃ earlier, reporting.past earlier ∧ (reporting.calls t).AsksFor earlier.db.committed id name

end Reporting

/-- A call and its own events. -/
def keeping (t : Tid) : Footprint := ⟨KeepsAmounts, fun event => ∀ u ∈ event.owner, u = t⟩

/-- A call that has not heard from its provider yet. -/
def asking (t : Tid) : Footprint := ⟨fun _ _ _ => False, fun event => ∀ u ∈ event.owner, u = t⟩

/-- Some payments may be given some statuses, and no payment is new. -/
def MovesOnly (may : Id → PaymentStatus → Prop) : Server.Replaces Row
  | .payment id, old, new => may id new.status ∧ old.isSome
  | _, _, _ => True

/-- A call that may give some payments some statuses. -/
def settling (may : Id → PaymentStatus → Prop) (t : Tid) : Footprint where
  writes key old new := KeepsAmounts key old new ∧ MovesOnly may key old new
  events event := ∀ u ∈ event.owner, u = t

/-- What is known tells the amounts of the payments that may become SUCCEEDED. -/
def Tells (reporting : Reporting) (t : Tid) (may : Id → PaymentStatus → Prop) (P : World → Prop)
    : Prop :=
  ∀ world after, P world → (∀ event ∈ world.trace, event ∈ after.trace)
    → ∀ id payment, world.db.committed.lookup (.payment id) = some payment
    → may id .SUCCEEDED
    → (reporting.calls t).Compares reporting.crypto reporting.config world.db.committed
    → ∃ order, world.db.committed.lookup (.order payment.orderId) = some order
      ∧ (reporting.calls t).Told reporting.crypto reporting.past t after id order

section

variable {reporting : Reporting} {call : PaymentCall} {t : Tid} {world after : World}
  {may : Id → PaymentStatus → Prop} {P : World → Prop}

/-- The invariant is about committed rows and events only. -/
theorem amount_observable : Observable reporting.discipline.inv :=
  ⟨fun _ _ _ _ holds => holds, fun _ _ holds => holds⟩

/-- What keeps the amounts is admitted for every call. -/
theorem amount_admits (t : Tid) : reporting.discipline.Admits (keeping t) t where
  transitive := KeepsAmounts.transitive
  writes := rfl
  events _ own := own

/-- What is not seen by others makes no payment SUCCEEDED. -/
theorem toldAmounts_calm (same : after.db.committed = world.db.committed)
    : ToldAmounts reporting.crypto reporting.config reporting.past reporting.calls t world
        after := by
  intro _ id payment succeeds
  obtain ⟨found, unpaid, paid, found', succeeded⟩ := succeeds
  rw [same, found] at found'
  exact absurd (Option.some.inj found' ▸ succeeded) unpaid

/-- Every call may read. -/
theorem amount_reading : Reading reporting.protocol t :=
  (Discipline.reading amount_observable).vowing fun same => toldAmounts_calm same

/-- What the changes of rows and later events leave true. -/
def Persists (P : World → Prop) : Prop :=
  ∀ world after, Server.Evolves KeepsAmounts world.db.committed after.db.committed
    → (∀ event ∈ world.trace, event ∈ after.trace) → P world → P after

/-- What persists is stable, since the others keep the amounts too. -/
theorem Persists.stable (persists : Persists P) : reporting.protocol.Stable t P :=
  fun world after _ _ relied given =>
    persists world after relied.2.1 (fun _ member => relied.2.2.mem.mpr (Or.inl member)) given

/-- Who may settle nothing may settle any payments. -/
theorem settling_of_never (key : Key) (old : Option (Row key)) (new : Row key)
    (replaces : (settling (fun _ _ => False) t).writes key old new)
    : (settling may t).writes key old new := by
  refine ⟨replaces.1, ?_⟩
  cases key with
  | payment id => exact replaces.2.1.elim
  | _ => trivial

/-- Two writes of a settlement are one, by cases on the kind of row. -/
theorem settling_transitive : (settling may t).writes.Transitive := by
  intro key old row next first second
  refine ⟨KeepsAmounts.transitive first.1 second.1, ?_⟩
  cases key with
  | payment id => exact ⟨second.2.1, first.2.2⟩
  | _ => trivial

/-- A call that may only make such payments SUCCEEDED of which it was told the amount. -/
theorem settling_respects (persists : Persists P) (tells : Tells reporting t may P)
    : reporting.protocol.Respects t (Step (settling may t) t) fun world =>
        Phased t (settling may t).writes world ∧ P world := by
  refine Protocol.Respects.vowing ((amount_admits t).respects_phase settling_transitive
    (fun _ _ _ replaces => replaces.1) (fun _ own => own) fun world after _ given effect _ => ?_) ?_
  · have rows : Server.Evolves KeepsAmounts world.db.committed after.db.committed :=
      effect.rows.mono fun _ _ _ replaces => replaces.1
    exact ⟨rows, trivial,
      persists world after rows (fun _ member => effect.trace.mem.mpr (Or.inl member)) given⟩
  · intro world after _ given step compared _ id payment succeeds
    have effect := given.1.effect step
    obtain ⟨found, unpaid, paid, found', succeeded⟩ := succeeds
    rcases effect.rows.rows found' with same | replaced
    · exact absurd (Option.some.inj (found.symm.trans same) ▸ succeeded) unpaid
    · have allowed : may id .SUCCEEDED := succeeded ▸ replaced.2.1
      exact tells world after given.2 (fun _ member => effect.trace.mem.mpr (Or.inl member)) id
        payment found allowed compared.1

variable {α : Type} {program : Service α} {Q : α → Prop}

/-- Before the provider has answered there is no write. -/
theorem asking_transitive : (asking t).writes.Transitive := fun _ _ _ _ never => never.elim

/-- Nothing is known in every world. -/
theorem unknown_persists : Persists fun _ => True := fun _ _ _ _ _ => trivial

/-- Nothing is written before the provider has answered. -/
theorem asking_respects (persists : Persists P)
    : reporting.protocol.Respects t (Step (asking t) t) fun world =>
        Phased t (asking t).writes world ∧ P world := by
  refine Protocol.Respects.vowing ((amount_admits t).respects_phase asking_transitive
    (fun _ _ _ never => never.elim) (fun _ own => own) fun world after _ given effect _ => ?_) ?_
  · have rows : Server.Evolves KeepsAmounts world.db.committed after.db.committed :=
      effect.rows.mono fun _ _ _ never => never.elim
    exact ⟨rows, trivial,
      persists world after rows (fun _ member => effect.trace.mem.mpr (Or.inl member)) given⟩
  · intro world after _ given step _ _ id payment succeeds
    obtain ⟨found, unpaid, paid, found', succeeded⟩ := succeeds
    rcases (given.1.effect step).rows.rows found' with same | never
    · exact absurd (Option.some.inj (found.symm.trans same) ▸ succeeded) unpaid
    · exact never.elim

/-- A fact that persists is stable in every phase of a call. -/
theorem stable_in_phase (persists : Persists P) (writes : Server.Replaces Row)
    : reporting.protocol.Stable t fun world => Phased t writes world ∧ P world :=
  Protocol.Stable.and (fun _ _ _ _ relied phased => phased.stable relied.1) persists.stable

/-- A part of a call that writes nothing keeps the phase and a fact that persists. -/
theorem spec_asked (persists : Persists P) (within : Within (Step (asking t) t) t program Q)
    : reporting.protocol.Spec t (fun world => Phased t (asking t).writes world ∧ P world)
        program (fun value world => Q value ∧ Phased t (asking t).writes world ∧ P world)
        fun _ world => Phased t (asking t).writes world ∧ P world :=
  Protocol.Spec.of_within within (asking_respects persists) (stable_in_phase persists _)

/-- The same, for a caller that does not look at what was thrown. -/
theorem spec_asking (persists : Persists P) (within : Within (Step (asking t) t) t program Q)
    : reporting.protocol.Spec t (fun world => Phased t (asking t).writes world ∧ P world)
        program (fun value world => Q value ∧ Phased t (asking t).writes world ∧ P world)
        fun _ _ => True :=
  (spec_asked persists within).conseq (fun _ _ given => given) (fun _ _ _ ends => ends)
    fun _ _ _ _ => trivial

/-- When the provider has answered, the call may settle the payments that the answer is about. -/
theorem spec_settling {writes : Server.Replaces Row} (persists : Persists P)
    (tells : Tells reporting t may P)
    (narrower : ∀ key old new, writes key old new → (settling may t).writes key old new)
    (within : Within (Step (settling may t) t) t program)
    : reporting.protocol.Spec t (fun world => Phased t writes world ∧ P world)
        program (fun _ world => Phased t (settling may t).writes world ∧ P world)
        fun _ _ => True :=
  (Protocol.Spec.of_within within (settling_respects persists tells)
    (stable_in_phase persists _)).conseq (fun _ _ given => ⟨given.1.mono narrower, given.2⟩)
    (fun _ _ _ ends => ends.2) fun _ _ _ _ => trivial

/-- The provider's answer to the call is known. -/
theorem spec_providerAnswer (persists : Persists P) (id : String) (params : VerifyParams)
    (provider : Provider)
    : reporting.protocol.Spec t (fun world => Phased t (asking t).writes world ∧ P world)
        (provider.verifyPayment reporting.config id params)
        (fun response world => (provider = .PAYSTACK_NGN_BANK_TRANSFER → response.Expected params)
          ∧ Phased t (asking t).writes world ∧ P world
          ∧ .paymentAnswered t id response.status response.amount response.currency ∈ world.trace)
        fun _ world => Phased t (asking t).writes world ∧ P world := by
  have reports : (asking t).Reports t := .of_own fun _ own => own
  refine Protocol.Spec.bind (spec_asked persists
    (within_providerVerify reports reporting.config id params provider)) fun response => ?_
  refine Protocol.Spec.assume fun expected => ?_
  have emits : reporting.protocol.Spec t
      (fun world => Phased t (asking t).writes world ∧ P world)
      (emit fun t => .paymentAnswered t id response.status response.amount response.currency)
      (fun _ world => Phased t (asking t).writes world ∧ P world
        ∧ .paymentAnswered t id response.status response.amount response.currency ∈ world.trace)
      fun _ world => Phased t (asking t).writes world ∧ P world := by
    refine Protocol.Spec.action (stable_in_phase persists _)
      fun world input result after inv given acted allowed => ?_
    obtain ⟨rfl, rfl⟩ := Prod.mk.inj (Option.some.inj acted)
    obtain ⟨kept, guaranteed, phased, known⟩ := asking_respects persists world _ inv given
      (.emit [_] (by simp [asking, Event.owner])) allowed
    exact ⟨kept, guaranteed, phased, known, List.mem_cons_self⟩
  refine Protocol.Spec.bind emits fun _ => Protocol.Spec.pure response fun world _ given => ?_
  exact ⟨expected, given⟩

-----------------------------------------------------------------------------------------
-- Verifying a payment
-----------------------------------------------------------------------------------------

/-- Settling a payment writes no reservation. -/
theorem settling_allowsLiquidity : (settling may t).AllowsLiquidity :=
  ⟨fun _ _ _ => ⟨trivial, trivial⟩, fun _ _ _ => ⟨trivial, trivial⟩,
    fun _ _ _ => ⟨trivial, trivial⟩⟩

/-- Settling a payment may write the news of the payments that it is allowed. -/
theorem settling_allowsNews : (settling may t).AllowsNews t may where
  toAllowsLiquidity := settling_allowsLiquidity
  reports := .of_own fun _ own => own
  checks := .of_own fun _ own => own
  transition _ row status moves _ _ := by
    refine ⟨fun old stored => ?_, moves, rfl⟩
    obtain rfl := Option.some.inj stored
    exact ⟨rfl, rfl⟩
  record _ _ _ := ⟨trivial, trivial⟩
  order _ row _ _ := by
    refine ⟨fun old stored => ?_, trivial⟩
    obtain rfl := Option.some.inj stored
    exact ⟨rfl, rfl, rfl⟩
  event _ _ _ _ := ⟨trivial, trivial⟩
  claimed _ _ := by simp [settling, Event.owner]

/-- The payment is one of a provider. -/
def PaidThrough (paymentId : Id) (provider : String) (world : World) : Prop :=
  ∃ row, world.db.committed.lookup (.payment paymentId) = some row ∧ row.provider = provider

/-- The provider of a payment never changes. -/
theorem paidThrough_persists (paymentId : Id) (provider : String)
    : Persists (PaidThrough paymentId provider) := by
  intro world after rows _ given
  obtain ⟨row, found, same⟩ := given
  obtain ⟨row', found'⟩ := Option.isSome_iff_exists.mp (rows.kept (by rw [found]; rfl))
  refine ⟨row', found', ?_⟩
  rcases rows.rows found' with unchanged | replaced
  · exact Option.some.inj (found.symm.trans unchanged) ▸ same
  · exact (replaced row found).2.trans same

/-- Two facts that persist do so together. -/
theorem Persists.and {P' : World → Prop} (first : Persists P) (second : Persists P')
    : Persists fun world => P world ∧ P' world :=
  fun world after rows events given =>
    ⟨first world after rows events given.1, second world after rows events given.2⟩

/-- An event stays in the trace. -/
theorem persists_event (event : Event) : Persists fun world => event ∈ world.trace :=
  fun _ _ _ events member => events event member

/-- Paystack has compared the amount that was expected. -/
theorem tells_verifying {paymentId userId : Id} {isAdmin : Bool} {params : VerifyParams}
    (same : reporting.calls t = .verifying paymentId userId isAdmin params) {providerId name : String}
    (asked : reporting.Asked t paymentId name) {provider : Provider}
    (resolved : PaymentProviderRegistry.resolve reporting.config providerId = some provider)
    {response : NormalizedPaymentResponse}
    (expected : provider = .PAYSTACK_NGN_BANK_TRANSFER → response.Expected params)
    : Tells reporting t (fun id status => id = paymentId ∧ status = response.status)
        fun world => PaidThrough paymentId providerId world
          ∧ .paymentAnswered t name response.status response.amount response.currency
            ∈ world.trace := by
  intro world after given events id payment found may compares
  obtain ⟨⟨row, stored, through⟩, answered⟩ := given
  obtain ⟨rfl, succeeded⟩ := may
  obtain rfl := Option.some.inj (stored.symm.trans found)
  rw [same] at compares
  obtain ⟨paystack, order, of_payment, amount, given, equal⟩ := compares row found
  rw [through, resolved] at paystack
  obtain ⟨right, currency⟩ := expected (Option.some.inj paystack) amount given succeeded.symm
  refine ⟨order, of_payment, name, asked, ?_⟩
  rw [same]
  refine ⟨_, _, succeeded ▸ events _ answered, Or.inl (right.trans (congrArg koboToFixed equal)), ?_⟩
  rw [currency]
  decide +kernel

/-- A payment is verified under one of its names. -/
theorem Payment.answers_verified (payment : Payment)
    : payment.Answers ((truthy payment.providerPaymentId).getD payment.reference) := by
  cases named : truthy payment.providerPaymentId with
  | none => exact Or.inr rfl
  | some name => exact Or.inl (of_truthy named)

/-- A verification only succeeds a payment whose amount was compared: it asks, decides, and then
settles.
-/
theorem spec_verifyPayment {paymentId userId : Id} {isAdmin : Bool} {params : VerifyParams}
    (same : reporting.calls t = .verifying paymentId userId isAdmin params)
    : reporting.protocol.Spec t (Phased t (asking t).writes)
        (PaymentService.verifyPayment reporting.config paymentId userId isAdmin params)
        (fun _ _ => True) fun _ _ => True := by
  refine Protocol.Spec.pre (P := fun world => Phased t (asking t).writes world ∧ True) ?_
    fun _ _ phased => ⟨phased, trivial⟩
  refine Protocol.Spec.bind (Q := fun (payment : Payment) world =>
    reporting.Asked t paymentId ((truthy payment.providerPaymentId).getD payment.reference)
      ∧ Phased t (asking t).writes world ∧ PaidThrough paymentId payment.provider world) ?_
    fun payment => ?_
  · refine Protocol.Spec.bind (Q := fun (found : Option Payment) world =>
      Phased t (asking t).writes world
        ∧ ∀ payment ∈ found, PaidThrough paymentId payment.provider world
        ∧ reporting.Asked t paymentId ((truthy payment.providerPaymentId).getD payment.reference))
      (spec_select_allowed amount_reading (stable_in_phase unknown_persists _)
        (fun world _ given _ allowed => ⟨given.1, fun payment found => ⟨⟨payment, found, rfl⟩, ?_⟩⟩)
        fun _ _ _ _ _ _ => trivial) fun found => ?_
    · refine ⟨world, allowed.2, payment, found, ?_⟩
      rw [same]
      exact ⟨rfl, payment.answers_verified⟩
    cases found with
    | none => exact Protocol.Spec.throw _ fun _ _ _ => trivial
    | some payment =>
        refine Protocol.Spec.bind (spec_throwIf fun _ _ _ => trivial) fun _ => ?_
        refine Protocol.Spec.pure payment fun _ _ given => ?_
        obtain ⟨_, phased, known⟩ := given
        exact ⟨(known payment rfl).2, phased, (known payment rfl).1⟩
  refine Protocol.Spec.assume fun asked => ?_
  have through := paidThrough_persists paymentId payment.provider
  refine Protocol.Spec.bind (spec_asking through within_findUnique) fun providerTransaction => ?_
  refine Protocol.Spec.assume fun _ => ?_
  refine Protocol.Spec.bind (spec_asking through (within_get reporting.config _)) fun provider => ?_
  refine Protocol.Spec.assume fun resolved => ?_
  refine Protocol.Spec.bind ((spec_providerAnswer through _ params provider).conseq
    (fun _ _ given => given) (fun _ _ _ ends => ends) fun _ _ _ _ => trivial) fun response => ?_
  refine Protocol.Spec.assume fun expected => ?_
  exact (spec_settling (through.and (persists_event _))
    (tells_verifying same asked resolved expected) (fun _ _ _ never => never.elim)
    (within_followVerification settling_allowsNews paymentId payment providerTransaction
      ⟨rfl, rfl⟩ response.unrefunded)).forget

-----------------------------------------------------------------------------------------
-- Reconciling an order
-----------------------------------------------------------------------------------------

/-- A settlement may write the verdict of a reconciliation. -/
theorem settling_allowsVerdicts : (settling may t).AllowsVerdicts may where
  toAllowsLiquidity := settling_allowsLiquidity
  payment _ row new settles order provider _ := by
    refine ⟨fun old stored => ?_, settles, rfl⟩
    obtain rfl := Option.some.inj stored
    exact ⟨order, provider⟩
  order _ row _ _ := by
    refine ⟨fun old stored => ?_, trivial⟩
    obtain rfl := Option.some.inj stored
    exact ⟨rfl, rfl, rfl⟩
  settlement _ _ _ := ⟨trivial, trivial⟩
  settlementNumber _ _ := ⟨trivial, trivial⟩

/-- The order has the amount, the currency and the key that were read. -/
def Priced (orderId : Id) (order : Order) (world : World) : Prop :=
  ∃ row, world.db.committed.lookup (.order orderId) = some row
    ∧ row.sourceAmount = order.sourceAmount ∧ row.sourceCurrency = order.sourceCurrency
    ∧ row.idempotencyKey = order.idempotencyKey

/-- The payment that was found, if any, is one of the order. -/
def PaysFor (orderId : Id) (payment : Option (Id × Payment)) (world : World) : Prop :=
  ∀ found ∈ payment, ∃ row, world.db.committed.lookup (.payment found.1) = some row
    ∧ row.orderId = orderId

/-- The price of an order never changes. -/
theorem priced_persists (orderId : Id) (order : Order) : Persists (Priced orderId order) := by
  intro world after rows _ given
  obtain ⟨row, found, same⟩ := given
  obtain ⟨row', found'⟩ := Option.isSome_iff_exists.mp (rows.kept (by rw [found]; rfl))
  refine ⟨row', found', ?_⟩
  rcases rows.rows found' with unchanged | replaced
  · exact Option.some.inj (found.symm.trans unchanged) ▸ same
  · obtain ⟨amount, currency, key⟩ := replaced row found
    exact ⟨amount.trans same.1, currency.trans same.2.1, key.trans same.2.2⟩

/-- The order of a payment never changes. -/
theorem paysFor_persists (orderId : Id) (payment : Option (Id × Payment))
    : Persists (PaysFor orderId payment) := by
  intro world after rows _ given found member
  obtain ⟨row, stored, same⟩ := given found member
  obtain ⟨row', stored'⟩ := Option.isSome_iff_exists.mp (rows.kept (by rw [stored]; rfl))
  refine ⟨row', stored', ?_⟩
  rcases rows.rows stored' with unchanged | replaced
  · exact Option.some.inj (stored.symm.trans unchanged) ▸ same
  · exact (replaced row stored).1.trans same

/-- Equal numbers are equal in kobo. -/
theorem amountInKobo_congr {d e : Decimal} (same : d.toNumber = e.toNumber)
    : d.amountInKobo = e.amountInKobo := by
  rw [Decimal.amountInKobo, same, Decimal.amountInKobo]

/-- An answer that matches an order in naira costs what the order does. -/
theorem costs_of_matchesOrder {order : Order} {response : NormalizedPaymentResponse}
    (fits : ReconciliationDaemon.matchesOrder order response)
    (currency : toUpperCase order.sourceCurrency = "NGN")
    : order.Costs response.amount response.currency := by
  obtain ⟨amount, same⟩ := Bool.and_eq_true_iff.mp fits
  exact ⟨Or.inr (amountInKobo_congr (of_decide_eq_true amount)),
    (of_decide_eq_true same).trans currency⟩

/-- The daemon has compared the amount of the order. -/
theorem tells_reconciling {orderId : Id} (same : reporting.calls t = .reconciling orderId)
    {order : Order} {payment : Option (Id × Payment)} {name : String}
    (asked : ∀ found ∈ payment, reporting.Asked t found.1 name)
    {response : NormalizedPaymentResponse} (succeeded : response.status = .SUCCEEDED)
    (fits : ReconciliationDaemon.matchesOrder order response)
    : Tells reporting t (fun id _ => ∃ found ∈ payment, found.1 = id) fun world =>
        (Priced orderId order world ∧ PaysFor orderId payment world)
          ∧ .paymentAnswered t name response.status response.amount response.currency
            ∈ world.trace := by
  intro world after given events id paid found may compares
  obtain ⟨⟨⟨row, stored, amount, currency, _⟩, pays⟩, answered⟩ := given
  obtain ⟨picked, member, rfl⟩ := may
  obtain ⟨row', stored', of_order⟩ := pays picked member
  obtain rfl := Option.some.inj (stored'.symm.trans found)
  rw [same] at compares
  rw [of_order]
  refine ⟨row, stored, name, asked picked member, ?_⟩
  rw [same]
  refine ⟨_, _, succeeded ▸ events _ answered, ?_⟩
  have costs := costs_of_matchesOrder fits (currency ▸ compares row stored)
  rw [Order.Costs, amount]
  exact costs

/-- A call that settles no payment as SUCCEEDED has nothing to be told. -/
theorem tells_nothing (never : ∀ id, ¬may id .SUCCEEDED) : Tells reporting t may P :=
  fun _ _ _ _ id _ _ allowed _ => absurd allowed (never id)

/-- The call may commit what it has written. -/
def MayCommit (reporting : Reporting) (t : Tid) (world : World) : Prop :=
  ∃ may P, Persists P ∧ Tells reporting t may P
    ∧ Phased t (settling may t).writes world ∧ P world

/-- Who has written nothing may commit that. -/
theorem mayCommit_of_asking (phased : Phased t (asking t).writes world)
    : MayCommit reporting t world :=
  ⟨fun _ _ => False, fun _ => True, fun _ _ _ _ _ => trivial, tells_nothing fun _ => id,
    phased.mono fun _ _ _ never => never.elim, trivial⟩

/-- Writes within a settlement that knows what it is told lead to a commit that is allowed. -/
theorem spec_settled (persists : Persists P) (tells : Tells reporting t may P)
    (within : Within (Step (settling may t) t) t program)
    : reporting.protocol.Spec t (fun world => Phased t (asking t).writes world ∧ P world)
        program (fun _ => MayCommit reporting t) fun _ _ => True :=
  (spec_settling persists tells (fun _ _ _ never => never.elim) within).conseq
    (fun _ _ given => given) (fun _ _ _ ends => ⟨may, P, persists, tells, ends⟩)
    fun _ _ _ ends => ends

/-- Whatever a call may still do, it does with what it may commit. -/
theorem spec_committed (within : ∀ {may}, Within (Step (settling may t) t) t program)
    : reporting.protocol.Spec t (MayCommit reporting t) program (fun _ _ => True)
        fun _ _ => True := by
  refine Protocol.Spec.exists fun may => Protocol.Spec.exists fun P => ?_
  refine Protocol.Spec.assume fun persists => Protocol.Spec.assume fun tells => ?_
  exact (Protocol.Spec.of_within within (settling_respects persists tells)
    (stable_in_phase persists _)).forget

/-- The provider's answer, if it could be had. -/
theorem spec_askProvider (persists : Persists P) (providerId name : String) (order : Order)
    : reporting.protocol.Spec t (fun world => Phased t (asking t).writes world ∧ P world)
        (ReconciliationDaemon.askProvider reporting.config providerId name order)
        (fun answer world => Phased t (asking t).writes world ∧ P world ∧ ∀ response ∈ answer,
          .paymentAnswered t name response.status response.amount response.currency ∈ world.trace)
        fun _ _ => True := by
  refine Protocol.Spec.tryCatch (Protocol.Spec.bind (spec_asked persists (within_get reporting.config _))
    fun provider => Protocol.Spec.assume fun _ => Protocol.Spec.map ?_) fun error => ?_
  · refine (spec_providerAnswer persists name _ provider).conseq (fun _ _ given => given)
      (fun response _ _ ends => ?_) fun _ _ _ ends => ends
    obtain ⟨_, phased, known, answered⟩ := ends
    refine ⟨phased, known, fun other same => ?_⟩
    obtain rfl := Option.some.inj same
    exact answered
  · exact Protocol.Spec.pure none fun _ _ given => ⟨given.1, given.2, nofun⟩

/-- A verdict is applied to the payment that was asked about, by cases on the answer. -/
theorem spec_applyReportedVerdict {orderId : Id} (same : reporting.calls t = .reconciling orderId)
    {x : TxId} (own : x.owner = t) (order : Order) (payment : Option (Id × Payment))
    {name : String} (asked : ∀ found ∈ payment, reporting.Asked t found.1 name)
    (response : NormalizedPaymentResponse)
    : reporting.protocol.Spec t
        (fun world => Phased t (asking t).writes world
          ∧ (Priced orderId order world ∧ PaysFor orderId payment world)
          ∧ .paymentAnswered t name response.status response.amount response.currency ∈ world.trace)
        (ReconciliationDaemon.applyVerdict reporting.config x orderId order payment name response)
        (fun _ => MayCommit reporting t) fun _ _ => True := by
  have known := ((priced_persists orderId order).and (paysFor_persists orderId payment)).and
    (persists_event (.paymentAnswered t name response.status response.amount response.currency))
  have nothing : Tells reporting t (fun _ status => status = .FAILED) fun world =>
      (Priced orderId order world ∧ PaysFor orderId payment world)
        ∧ .paymentAnswered t name response.status response.amount response.currency
          ∈ world.trace :=
    tells_nothing (by simp)
  have failed : Within (Step (settling (fun _ status => status = .FAILED) t) t) t
      (ReconciliationDaemon.markPaymentFailed x orderId payment) :=
    ReconciliationDaemon.within_markPaymentFailed own settling_allowsVerdicts orderId fun _ _ => rfl
  have failing := spec_settled known nothing failed
  unfold ReconciliationDaemon.applyVerdict
  cases verdict : response.status with
  | SUCCEEDED =>
      dsimp only
      split
      · rename_i fits
        rw [← verdict]
        exact spec_settled known (tells_reconciling same asked verdict fits)
          (ReconciliationDaemon.within_confirmPayment own settling_allowsVerdicts reporting.config
            orderId order (fun found member => ⟨found, member, rfl⟩) name response)
      · rw [← verdict]
        exact failing
  | FAILED =>
      dsimp only
      rw [← verdict]
      exact failing
  | _ => exact Protocol.Spec.pure _ fun _ _ given => mayCommit_of_asking given.1

/-- The daemon asks about a payment that it has found. -/
theorem asked_reconciling {orderId : Id} (same : reporting.calls t = .reconciling orderId)
    {order : Order} (priced : Priced orderId order world) (past : reporting.past world)
    {payment : Id × Payment}
    (stored : world.db.committed.lookup (.payment payment.1) = some payment.2)
    (of_order : payment.2.orderId = orderId) {name : String}
    (chosen : name = ((truthy (some payment.2.reference)).or (truthy order.idempotencyKey)).getD "")
    (named : name ≠ "")
    : reporting.Asked t payment.1 name := by
  obtain ⟨row, found, _, _, key⟩ := priced
  refine ⟨world, past, payment.2, stored, ?_⟩
  rw [same]
  refine ⟨of_order, (ReconciliationDaemon.reference_or_key chosen named).imp_right fun keyed => ?_⟩
  exact ⟨keyed.1, row, found, key.trans keyed.2⟩

/-- The transaction of a reconciliation asks first and writes what it is told. -/
theorem spec_reconcileReportedInTx {orderId : Id} (same : reporting.calls t = .reconciling orderId)
    {x : TxId} (own : x.owner = t)
    : reporting.protocol.Spec t
        (fun world => Phased t (asking t).writes world ∧ True)
        (ReconciliationDaemon.reconcileInTx reporting.config x orderId)
        (fun _ => MayCommit reporting t) fun _ _ => True := by
  have mine : ∀ y ∈ some x, y.owner = t := by simpa using own
  refine Protocol.Spec.bind (spec_asking unknown_persists (within_selectForUpdate own)) fun _ => ?_
  refine Protocol.Spec.assume fun _ => ?_
  refine Protocol.Spec.bind (Q := fun found world => Phased t (asking t).writes world
    ∧ ∀ order ∈ found, Priced orderId order world)
    (spec_findUnique amount_reading (stable_in_phase unknown_persists _)
      (fun world _ given _ => ⟨given.1, fun order found => ?_⟩)
      fun _ _ _ _ _ _ => trivial) fun found => ?_
  · rw [given.1.visible mine fun _ _ => id] at found
    exact ⟨order, found, rfl, rfl, rfl⟩
  cases found with
  | none => exact Protocol.Spec.pure _ fun _ _ given => mayCommit_of_asking given.1
  | some order =>
      refine Protocol.Spec.pre (P := fun world => Phased t (asking t).writes world
        ∧ Priced orderId order world) ?_ fun _ _ given => ⟨given.1, given.2 order rfl⟩
      have priced := priced_persists orderId order
      refine Protocol.Spec.bind (Q := fun payment world => (∀ found ∈ payment, ∀ name ≠ "",
          name = ((truthy (some found.2.reference)).or (truthy order.idempotencyKey)).getD ""
          → reporting.Asked t found.1 name)
        ∧ Phased t (asking t).writes world ∧ Priced orderId order world
        ∧ PaysFor orderId payment world)
        (spec_findFirst amount_reading (stable_in_phase priced _)
          (fun payment => (Protocol.Stable.const _).and
            (stable_in_phase (priced.and (paysFor_persists orderId payment)) _))
          (fun world payment _ given allowed listed _ => ?_)
          fun _ _ _ _ _ _ => trivial) fun payment => ?_
      · have shown (found : Id × Payment) (member : found ∈ payment)
            : world.db.committed.lookup (.payment found.1) = some found.2
              ∧ found.2.orderId = orderId := by
          obtain ⟨stored, of_order⟩ := mem_paymentsOf.mp (listed found member)
          rw [given.1.visible mine fun _ _ => id] at stored
          exact ⟨stored, of_order⟩
        refine ⟨fun found member name named chosen => ?_, given.1, given.2, fun found member => ?_⟩
        · exact asked_reconciling same given.2 allowed.2 (shown found member).1
            (shown found member).2 chosen named
        · exact ⟨found.2, shown found member⟩
      refine Protocol.Spec.assume fun asked => ?_
      have known := priced.and (paysFor_persists orderId payment)
      refine Protocol.Spec.bind (spec_asking known
        (within_findFirst (R := fun _ => True) (by simp)).forget) fun refund => ?_
      refine Protocol.Spec.assume fun _ => ?_
      refine Protocol.Spec.bind (spec_asking known (within_emit (by simp [asking, Event.owner])))
        fun _ => ?_
      refine Protocol.Spec.assume fun _ => ?_
      dsimp only
      split
      · exact Protocol.Spec.pure _ fun _ _ given => mayCommit_of_asking given.1
      rename_i named
      split
      · exact Protocol.Spec.pure _ fun _ _ given => mayCommit_of_asking given.1
      split
      · exact Protocol.Spec.pure _ fun _ _ given => mayCommit_of_asking given.1
      refine Protocol.Spec.bind (spec_asking known within_findUnique) fun reservation => ?_
      refine Protocol.Spec.assume fun _ => ?_
      split
      · exact Protocol.Spec.pure _ fun _ _ given => mayCommit_of_asking given.1
      refine Protocol.Spec.bind (spec_askProvider known _ _ order) fun answer => ?_
      cases answer with
      | none => exact Protocol.Spec.pure _ fun _ _ given => mayCommit_of_asking given.1
      | some response =>
          refine (spec_applyReportedVerdict same own order payment (fun found member => ?_)
            response).pre
            fun _ _ given => ⟨given.1, given.2.1, given.2.2 response rfl⟩
          obtain rfl := Option.mem_def.mp member
          exact asked found rfl _ named rfl

/-- A reconciliation reads the order and asks in its transaction, by the rule for transactions. -/
theorem spec_reconcileReported {orderId : Id} (same : reporting.calls t = .reconciling orderId)
    : reporting.protocol.Spec t (Phased t (asking t).writes)
        (ReconciliationDaemon.reconcileSinglePaymentOrder reporting.config orderId) (fun _ _ => True)
        fun _ _ => True := by
  refine Protocol.Spec.pre (P := fun world => Phased t (asking t).writes world ∧ True) ?_
    fun _ _ phased => ⟨phased, trivial⟩
  refine Protocol.Spec.bind (spec_asking unknown_persists within_begin) fun x => ?_
  refine Protocol.Spec.assume fun own => ?_
  refine Protocol.Spec.bind (Q := fun _ => MayCommit reporting t)
    (Protocol.Spec.tryCatch (spec_reconcileReportedInTx same own) fun error => ?_) fun action => ?_
  · refine Protocol.Spec.bind (Q := fun _ _ => True) (spec_rollback amount_reading own
      (Protocol.Stable.const True) fun _ _ _ => trivial) fun _ => ?_
    exact Protocol.Spec.throw error fun _ _ _ => trivial
  · exact Protocol.Spec.bind (spec_committed (within_commit own)) fun _ =>
      Protocol.Spec.pure action fun _ _ _ => trivial

-----------------------------------------------------------------------------------------
-- A webhook of Paystack
-----------------------------------------------------------------------------------------

/-- The body of a webhook reports the amount of the payment's order. -/
def Payable (paymentId : Id) (data : WebhookData) (world : World) : Prop :=
  ∃ row, world.db.committed.lookup (.payment paymentId) = some row
    ∧ ∃ order, world.db.committed.lookup (.order row.orderId) = some order ∧ data.Reports order

/-- What a webhook says of a payment stays said. -/
theorem payable_persists (paymentId : Id) (data : WebhookData)
    : Persists (Payable paymentId data) := by
  intro world after rows _ given
  obtain ⟨row, found, order, stored, reports⟩ := given
  obtain ⟨row', found'⟩ := Option.isSome_iff_exists.mp (rows.kept (by rw [found]; rfl))
  obtain ⟨order', stored'⟩ := Option.isSome_iff_exists.mp (rows.kept (by rw [stored]; rfl))
  have same_order : row'.orderId = row.orderId := by
    rcases rows.rows found' with unchanged | replaced
    · exact congrArg _ (Option.some.inj (unchanged.symm.trans found))
    · exact (replaced row found).1
  have same_amount : order'.sourceAmount = order.sourceAmount := by
    rcases rows.rows stored' with unchanged | replaced
    · exact congrArg _ (Option.some.inj (unchanged.symm.trans stored))
    · exact (replaced order stored).1
  refine ⟨row', found', order', by rw [same_order]; exact stored', ?_⟩
  rw [WebhookData.Reports, same_amount]
  exact reports

/-- What holds if an event is a success persists if it does. -/
theorem Persists.imp {p : Prop} (persists : p → Persists P)
    : Persists fun world => p → P world :=
  fun world after rows events given holds => persists holds world after rows events (given holds)

section

variable {providerName : String} {request : WebhookRequest} {event : WebhookEventPayload}
  (same : reporting.calls t = .webhook providerName request)
  (parsed : event = parsePaystackEvent reporting.crypto request.body)
include same parsed

/-- The payment that is moved is one that the event names. -/
theorem tells_webhook {paymentId : Id} {name : String}
    (named : event.providerPaymentId = some name)
    (asked : event.status = .SUCCEEDED → reporting.Asked t paymentId name)
    : Tells reporting t (fun id status => id = paymentId ∧ status = event.status) fun world =>
        event.status = .SUCCEEDED → Payable paymentId request.body.data world := by
  intro world after payable _ id payment found may _
  obtain ⟨rfl, succeeded⟩ := may
  obtain ⟨row, stored, order, of_payment, reports⟩ := payable succeeded.symm
  obtain rfl := Option.some.inj (stored.symm.trans found)
  refine ⟨order, of_payment, name, asked succeeded.symm, ?_⟩
  rw [same]
  exact ⟨parsed ▸ named, reports⟩

/-- A signed event is applied to the payment that it names. -/
theorem spec_applyReportedEvent
    (signed : verifyPaystackSignature reporting.crypto reporting.config request.headers
      request.rawBody = true)
    : reporting.protocol.Spec t
        (fun world => Phased t (settling (fun _ _ => False) t).writes world ∧ True)
        (WebhookService.applyEvent .PAYSTACK_NGN_BANK_TRANSFER event)
        (fun _ => MayCommit reporting t) fun _ _ => True := by
  have nothing : Tells reporting t (fun _ _ => False) fun _ => True := tells_nothing fun _ => id
  have idle {value : Unit} : reporting.protocol.Spec t
      (fun world => Phased t (settling (fun _ _ => False) t).writes world ∧ True)
      (pure value : Service Unit) (fun _ => MayCommit reporting t) fun _ _ => True :=
    Protocol.Spec.pure _ fun _ _ given => ⟨_, _, unknown_persists, nothing, given.1, trivial⟩
  unfold WebhookService.applyEvent
  cases named : event.providerPaymentId with
  | none => exact idle
  | some name =>
      refine Protocol.Spec.bind (Q := fun found world => (∀ payment ∈ found,
          event.status = .SUCCEEDED → reporting.Asked t payment.1 name)
        ∧ Phased t (settling (fun _ _ => False) t).writes world ∧ ∀ payment ∈ found,
          event.status = .SUCCEEDED → Payable payment.1 request.body.data world)
        (spec_findFirst amount_reading (stable_in_phase unknown_persists _) (fun found => ?_)
          (fun world found _ given allowed listed _ => ?_) fun _ _ _ _ _ _ => trivial)
        fun found => ?_
      · have persists : Persists fun world => ∀ payment ∈ found, event.status = .SUCCEEDED
            → Payable payment.1 request.body.data world :=
          fun world after rows events given payment member succeeded =>
            payable_persists _ _ world after rows events (given payment member succeeded)
        exact (Protocol.Stable.const _).and (stable_in_phase persists _)
      · have shown (payment : Id × Payment) (member : payment ∈ found) :=
          mem_paymentsNamed.mp (listed payment member)
        refine ⟨fun payment member _ => ?_, given.1, fun payment member succeeded => ?_⟩
        · obtain ⟨stored, _, answers⟩ := shown payment member
          refine ⟨world, allowed.2, payment.2, stored, ?_⟩
          rw [same]
          exact answers
        · obtain ⟨stored, _, answers⟩ := shown payment member
          have compares := allowed.1
          rw [ComparesAmounts, same] at compares
          exact ⟨payment.2, stored, compares ⟨signed, parsed ▸ succeeded⟩ payment.1 payment.2 name
            (parsed ▸ named) stored answers⟩
      refine Protocol.Spec.assume fun asked => ?_
      cases found with
      | none => exact idle.pre fun _ _ given => ⟨given.1, trivial⟩
      | some found =>
          refine Protocol.Spec.pre (P := fun world =>
            Phased t (settling (fun _ _ => False) t).writes world
              ∧ (event.status = .SUCCEEDED → Payable found.1 request.body.data world)) ?_
            fun _ _ given => ⟨given.1, given.2 found rfl⟩
          have persists := Persists.imp (p := event.status = .SUCCEEDED)
            fun _ => payable_persists found.1 request.body.data
          have tells := tells_webhook same parsed named (asked found rfl)
          dsimp only
          split
          · rename_i allowed
            exact (spec_settling persists tells settling_of_never
              (within_transaction fun _ own => within_applyEventInTx
                settling_allowsNews own _ _ ⟨rfl, rfl⟩ allowed event.unrefunded)).conseq
              (fun _ _ given => given) (fun _ _ _ ends => ⟨_, _, persists, tells, ends⟩)
              fun _ _ _ ends => ends
          · exact idle.pre fun _ _ given => ⟨given.1, trivial⟩

omit parsed in
/-- A Paystack webhook writes nothing before its signature has been verified. -/
theorem spec_paystackWebhook
    (resolved : PaymentProviderRegistry.resolve reporting.config providerName
      = some .PAYSTACK_NGN_BANK_TRANSFER)
    : reporting.protocol.Spec t (Phased t (asking t).writes)
        (WebhookService.processWebhook reporting.crypto reporting.config providerName request)
        (fun _ _ => True) fun _ _ => True := by
  have nothing : Tells reporting t (fun _ _ => False) fun _ => True := tells_nothing fun _ => id
  refine Protocol.Spec.pre (P := fun world => Phased t (asking t).writes world ∧ True) ?_
    fun _ _ phased => ⟨phased, trivial⟩
  refine Protocol.Spec.bind (spec_asking unknown_persists (within_get reporting.config _))
    fun provider => Protocol.Spec.assume fun found => ?_
  obtain rfl := Option.some.inj (resolved.symm.trans found)
  refine Protocol.Spec.bind (spec_asking unknown_persists within_throwIf) fun _ => ?_
  refine Protocol.Spec.assume fun signed => ?_
  have signed : verifyPaystackSignature reporting.crypto reporting.config request.headers
      request.rawBody = true := by
    simpa [Provider.verifyWebhookSignature] using signed
  refine Protocol.Spec.bind (spec_asking (Q := (· = parsePaystackEvent reporting.crypto request.body))
    unknown_persists ?_) fun event => Protocol.Spec.assume fun parsed => ?_
  · refine Within.bind within_throwIf fun _ _ => ?_
    dsimp only
    split
    · exact Within.bind (within_emit (by simp [asking, Event.owner])) fun _ _ => Within.pure rfl
    · exact Within.pure rfl
  refine Protocol.Spec.bind (Q := fun claimed world =>
    Phased t (settling (fun _ _ => False) t).writes world ∧ True)
    (spec_settling unknown_persists nothing (fun _ _ _ never => never.elim)
      (within_claimEvent settling_allowsNews _ event)) fun claimed => ?_
  cases claimed with
  | some duplicate => exact Protocol.Spec.pure _ fun _ _ _ => trivial
  | none =>
      refine Protocol.Spec.bind (spec_applyReportedEvent same parsed signed) fun _ => ?_
      refine spec_committed (Within.bind within_now fun time _ => ?_)
      refine Within.bind (within_updateNow fun row => by exact ⟨trivial, trivial⟩) fun _ _ => ?_
      exact Within.pure trivial

end

-----------------------------------------------------------------------------------------
-- Runs
-----------------------------------------------------------------------------------------

/-- What the calls do that confirm nothing. -/
theorem spec_keeping (unconfirming : (reporting.calls t).confirms reporting.config = false)
    (within : Within (Step (keeping t) t) t program)
    : reporting.protocol.Spec t (fun _ => True) program (fun _ _ => True)
        fun _ _ => True := by
  have respects : reporting.discipline.protocol.Respects t (Step (keeping t) t)
      fun _ => True :=
    (amount_admits t).respects fun _ _ _ _ effect _ => ⟨effect.rows, trivial, trivial⟩
  refine (Protocol.Spec.of_within within (respects.vowing fun _ _ _ _ _ _ confirms => ?_)
    (Protocol.Stable.const True)).forget
  simp [unconfirming] at confirms

/-- Keeping the amounts allows any change of a reservation. -/
theorem keeping_allowsLiquidity : (keeping t).AllowsLiquidity :=
  ⟨fun _ _ _ => trivial, fun _ _ _ => trivial, fun _ _ _ => trivial⟩

/-- Keeping the amounts allows new payments. -/
theorem keeping_allowsCreation : (keeping t).AllowsCreation t where
  requested _ := by simp [keeping, Event.owner]
  stored _ _ _ := nofun
  reference _ _ := trivial
  idempotencyKey _ _ := trivial
  answered _ row _ _ _ := by
    intro old stored
    obtain rfl := Option.some.inj stored
    exact ⟨rfl, rfl⟩
  record _ _ := trivial
  recordId _ _ _ := trivial
  order _ row := by
    intro old stored
    obtain rfl := Option.some.inj stored
    exact ⟨rfl, rfl, rfl⟩

/-- Keeping the amounts allows news of payments. -/
theorem keeping_allowsNews : (keeping t).AllowsNews t where
  toAllowsLiquidity := keeping_allowsLiquidity
  reports := .of_own fun _ own => own
  checks := .of_own fun _ own => own
  transition _ row _ _ _ _ := by
    intro old stored
    obtain rfl := Option.some.inj stored
    exact ⟨rfl, rfl⟩
  record _ _ _ := trivial
  order _ row _ _ := by
    intro old stored
    obtain rfl := Option.some.inj stored
    exact ⟨rfl, rfl, rfl⟩
  event _ _ _ _ := trivial
  claimed _ _ := by simp [keeping, Event.owner]

/-- Keeping the amounts allows refunds. -/
theorem keeping_allowsRefund : (keeping t).AllowsRefund t where
  toAllowsLiquidity := keeping_allowsLiquidity
  refund _ _ _ _ _ := trivial
  payment _ row _ := by
    intro old stored
    obtain rfl := Option.some.inj stored
    exact ⟨rfl, rfl⟩
  order _ row _ _ := by
    intro old stored
    obtain rfl := Option.some.inj stored
    exact ⟨rfl, rfl, rfl⟩
  checked _ _ _ _ := by simp [keeping, Event.owner]

/-- Every call is safe where it compares the right amounts. -/
theorem PaymentCall.amounts_safe {rows : AList Row} (same : reporting.calls t = call)
    : reporting.protocol.Safe t (fun _ _ => True)
        (call.thread reporting.crypto reporting.config) (World.start rows) := by
  have holds : reporting.protocol.inv (World.start rows) :=
    ⟨trivial, Server.AllJustified.start rows⟩
  cases call with
  | creating userId input idempotencyKey =>
      exact Service.thread_safe (spec_keeping (by rw [same]; rfl) (within_createPayment
        keeping_allowsCreation reporting.config userId input idempotencyKey)) holds trivial
  | verifying paymentId userId isAdmin params =>
      exact Service.thread_safe (spec_verifyPayment same) holds (Phased.start t _ rows)
  | webhook providerName request =>
      by_cases paystack : PaymentProviderRegistry.resolve reporting.config providerName
          = some .PAYSTACK_NGN_BANK_TRANSFER
      · exact Service.thread_safe (spec_paystackWebhook same paystack) holds (Phased.start t _ rows)
      · exact Service.thread_safe (spec_keeping (by rw [same]; exact decide_eq_false paystack)
          (within_processWebhook keeping_allowsNews reporting.crypto reporting.config providerName
            request)) holds trivial
  | reconciling orderId =>
      exact Service.thread_safe (spec_reconcileReported same) holds (Phased.start t _ rows)
  | refunding refundId =>
      exact Service.thread_safe (spec_keeping (by rw [same]; rfl) (within_executeRefund
        keeping_allowsRefund (.of_own fun _ own => own) reporting.config refundId)) holds trivial

end

/-- However the calls interleave, fail and crash: as long as the calls are made for the right
amounts, one of them makes a payment SUCCEEDED only when its provider has reported the amount of
the order, in kobo, and NGN to it, under a name that this very payment had at some moment of the
run. By induction over the run, seen from its end.
-/
theorem payment_succeeds_for_its_amount {crypto : Crypto} {config : Config}
    {calls : Tid → PaymentCall} {rows : AList Row} {pool last : Pool World Input} {t : Tid}
    {input : Input}
    (run : Run (machine anyExpiry) (ComparesAmounts crypto config calls)
      ⟨World.start rows, fun t => (calls t).thread crypto config⟩ pool)
    (moved : pool.move (machine anyExpiry) (.run t input) = some last)
    (compared : ComparesAmounts crypto config calls t pool.state last.state)
    (confirms : (calls t).confirms config) {id : Id} {payment : Payment}
    (succeeds : Succeeds pool.state last.state id payment)
    : ∃ order, pool.state.db.committed.lookup (.order payment.orderId) = some order
      ∧ (calls t).Told crypto (Passes (machine anyExpiry) (ComparesAmounts crypto config calls)
          ⟨World.start rows, fun t => (calls t).thread crypto config⟩ last) t last.state id
          order := by
  let reporting : Reporting := ⟨crypto, config, calls,
    Passes (machine anyExpiry) (ComparesAmounts crypto config calls)
      ⟨World.start rows, fun t => (calls t).thread crypto config⟩ last⟩
  have onward : Run (machine anyExpiry) (ComparesAmounts crypto config calls) pool last := by
    refine Run.step (.refl pool) _ moved fun u other same => ?_
    obtain ⟨rfl, _⟩ := Move.run.inj same
    exact compared
  have fits : (machine anyExpiry).Fits reporting.protocol :=
    (Discipline.fits amount_observable).vowing _
  have known : Run (machine anyExpiry) reporting.protocol.allowed
      ⟨World.start rows, fun t => (calls t).thread crypto config⟩ pool :=
    run.hindsight.mono fun _ _ _ given => ⟨given.1, given.2.trans onward⟩
  have verified := Run.verified fits known
    ⟨⟨trivial, Server.AllJustified.start rows⟩, fun t _ => PaymentCall.amounts_safe rfl⟩
  exact (verified.run moved ⟨compared, last, run.trans onward, .refl last, rfl⟩).1.2 confirms id
    payment succeeds

/-- A webhook of Paystack that reports one naira for an order of a hundred. -/
def underpaid : PaymentCall :=
  .webhook "paystack" { chargeSuccess with
    body := { chargeSuccess.body with
      data := { chargeSuccess.body.data with amount := some "100", currency := some "NGN" } } }

/-- The status of the payment and what its order costs in kobo. -/
def statusAndCost (world : World) : Option (PaymentStatus × Int) :=
  (world.db.committed.lookup (.payment "payment")).bind fun (payment : Payment) =>
    (world.db.committed.lookup (.order payment.orderId)).map fun (order : Order) =>
      (payment.status, (money order.sourceAmount).amountInKobo)

/-- The rows behind the evaluated status and cost, by cases on the lookups. -/
theorem of_statusAndCost {world : World} {status : PaymentStatus} {kobo : Int}
    (found : statusAndCost world = some (status, kobo))
    : ∃ payment order, world.db.committed.lookup (.payment "payment") = some payment
      ∧ payment.status = status
      ∧ world.db.committed.lookup (.order payment.orderId) = some order
      ∧ (money order.sourceAmount).amountInKobo = kobo := by
  obtain ⟨payment, stored, found⟩ := Option.bind_eq_some_iff.mp found
  obtain ⟨order, of_payment, found⟩ := Option.map_eq_some_iff.mp found
  obtain ⟨status, kobo⟩ := Prod.mk.inj found
  exact ⟨payment, order, stored, status, of_payment, kobo⟩

/-- The webhook makes the payment of the whole order SUCCEEDED. -/
theorem underpaid_payment_succeeds
    : ∃ (pool last : Pool World Input) (payment : Payment) (order : Order),
        Steps (machine anyExpiry) (fun _ _ => True)
          ⟨World.start (awaitingPayment none),
            fun _ => underpaid.thread plainCrypto paystackConfig⟩ pool
        ∧ pool.move (machine anyExpiry) (.run 0 {}) = some last
        ∧ Succeeds pool.state last.state "payment" payment
        ∧ pool.state.db.committed.lookup (.order payment.orderId) = some order
        ∧ ¬underpaid.Told plainCrypto (fun _ => True) 0 last.state "payment" order := by
  have went : ((Pool.scheduleWhere (machine anyExpiry) (fun _ _ _ => true)
      ⟨World.start (awaitingPayment none), fun _ => underpaid.thread plainCrypto paystackConfig⟩
      (List.replicate 14 (.run 0 {}))).bind fun pool =>
      (pool.move (machine anyExpiry) (.run 0 {})).map fun last =>
        (statusAndCost pool.state, statusAndCost last.state))
      = some (some (.PENDING, 10000), some (.SUCCEEDED, 10000)) := by
    decide +kernel
  obtain ⟨pool, reached, later⟩ := Option.bind_eq_some_iff.mp went
  obtain ⟨last, moved, found⟩ := Option.map_eq_some_iff.mp later
  obtain ⟨before, after⟩ := Prod.mk.inj found
  obtain ⟨payment, order, stored, pending, of_payment, cost⟩ := of_statusAndCost before
  obtain ⟨paid, _, stored', succeeded, _, _⟩ := of_statusAndCost after
  refine ⟨pool, last, payment, order, .of_schedule (fun _ _ => trivial) reached, moved,
    ⟨stored, by simp [pending], paid, stored', succeeded⟩, of_payment, fun told => ?_⟩
  obtain ⟨_, _, _, amount, _⟩ := told
  have same : "100" = ToString.toString (10000 : Int) := cost ▸ Option.some.inj amount
  exact absurd same (by decide)

/-- The orders cost NGN. -/
def ordersInNgn (_ : Tid) (before _ : World) : Bool :=
  before.db.committed.entries.all fun entry =>
    match entry with
    | ⟨.order _, (order : Order)⟩ => toUpperCase order.sourceCurrency = "NGN"
    | _ => true

/-- The evaluated check decides the condition on a step. -/
theorem comparesAmounts_of_check {orderId : Id} {t : Tid} {before after : World}
    (check : ordersInNgn t before after = true)
    : ComparesAmounts plainCrypto paystackConfig (fun _ => .reconciling orderId) t before
        after := by
  intro order found
  have held := List.all_eq_true.mp check ⟨.order orderId, order⟩ (AList.mem_lookup_iff.mp found)
  exact of_decide_eq_true held

/-- The daemon finds the payment of the order. -/
theorem payment_succeeds_for_its_amount_reconciled
    : ∃ (pool last : Pool World Input) (payment : Payment),
        pool.move (machine anyExpiry) (.run 0 verifiedPayment) = some last
        ∧ Succeeds pool.state last.state "payment" payment
        ∧ ∃ order, pool.state.db.committed.lookup (.order payment.orderId) = some order
          ∧ (PaymentCall.reconciling "order").Told plainCrypto
            (Passes (machine anyExpiry) (ComparesAmounts plainCrypto paystackConfig
              fun _ => .reconciling "order")
              ⟨World.start (awaitingPayment none),
                fun _ => (PaymentCall.reconciling "order").thread plainCrypto paystackConfig⟩ last)
            0 last.state "payment" order := by
  have went : ((Pool.checkedSchedule (machine anyExpiry) ordersInNgn
      ⟨World.start (awaitingPayment none),
        fun _ => (PaymentCall.reconciling "order").thread plainCrypto paystackConfig⟩
      (List.replicate 19 (.run 0 verifiedPayment))).bind fun pool =>
      (pool.move (machine anyExpiry) (.run 0 verifiedPayment)).map fun last =>
        (statusAndCost pool.state, statusAndCost last.state,
          ordersInNgn 0 pool.state last.state))
      = some (some (.PENDING, 10000), some (.SUCCEEDED, 10000), true) := by
    decide +kernel
  obtain ⟨pool, reached, later⟩ := Option.bind_eq_some_iff.mp went
  obtain ⟨last, moved, found⟩ := Option.map_eq_some_iff.mp later
  obtain ⟨before, found⟩ := Prod.mk.inj found
  obtain ⟨after, check⟩ := Prod.mk.inj found
  obtain ⟨payment, _, stored, pending, _, _⟩ := of_statusAndCost before
  obtain ⟨paid, _, stored', succeeded, _, _⟩ := of_statusAndCost after
  have succeeds : Succeeds pool.state last.state "payment" payment :=
    ⟨stored, by simp [pending], paid, stored', succeeded⟩
  have told := payment_succeeds_for_its_amount
    (Run.of_checkedSchedule (fun _ _ _ => comparesAmounts_of_check) reached) moved
    (comparesAmounts_of_check check) rfl succeeds
  exact ⟨pool, last, payment, moved, succeeds, told⟩

end LuminaRail
