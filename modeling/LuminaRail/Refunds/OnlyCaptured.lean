import LuminaRail.Model.LearntFacts
import LuminaRail.Model.Phases
import LuminaRail.Payments.StateMachine
import LuminaRail.Refunds.AtMostOnce

/-! Whether only captured money is refunded. A refund names a payment that nobody asks about, and
executing it makes that payment REFUNDED whatever status it has.
-/

namespace LuminaRail

open Concurrency Database Service RefundService

/-- The calls that write payments or ask for refunds. -/
inductive RefundingCall
  | payment (call : PaymentCall)
  | requesting (userId : Id) (input : CreateRefundInput) (isAdmin : Bool)
    (idempotencyKeyHeader : Option String)

/-- The money of a payment has been captured, and perhaps given back. -/
def PaymentStatus.captured (status : PaymentStatus) : Bool :=
  status = .SUCCEEDED || status = .REFUNDED

/-- The payment is there and has been captured. -/
def Captured (rows : AList Row) (id : Id) : Prop :=
  ∃ payment, rows.lookup (.payment id) = some payment ∧ payment.status.captured

/-- Every refund is one of a captured payment. -/
def RefundsCaptured (rows : AList Row) : Prop :=
  ∀ id refund, rows.lookup (.refund id) = some refund → ∃ paymentId ∈ refund.paymentId,
    Captured rows paymentId

namespace RefundingCall

def thread (crypto : Crypto) (config : Config) : RefundingCall → Program World Input Unit
  | .payment call => call.thread crypto config
  | .requesting userId input isAdmin idempotencyKeyHeader =>
      (createRefund userId input isAdmin idempotencyKeyHeader).thread

/-- The calls that write a payment whatever its status is, apart from refunds. -/
def comparesNothing : RefundingCall → Bool
  | .payment (.creating _ _ _) => true
  | .payment (.reconciling _) => true
  | _ => false

/-- What a call may write. -/
def Writes (call : RefundingCall) : Server.Replaces Row
  | .payment _, old, new =>
      match call with
      | .payment (.refunding _) => old.isSome ∧ new.status = .REFUNDED
      | .payment call => new.status ≠ .REFUNDED
          ∧ ∀ row ∈ old, call.MovesPayment row.status new.status
      | .requesting _ _ _ _ => False
  | .refund _, old, new =>
      match call with
      | .payment (.refunding _) => ∃ row ∈ old, new.paymentId = row.paymentId
      | .payment _ => False
      | .requesting _ _ _ _ => old = none
  | _, _, _ => True

end RefundingCall

open RefundingCall

/-- A request names a payment of its order that has been captured. If it names none, the order has
a payment that is SUCCEEDED, or none that has not been captured.
-/
def CreateRefundInput.asksCaptured (input : CreateRefundInput) (payments : List (Id × Payment))
    : Bool :=
  match truthy input.paymentId with
  | some paymentId =>
      payments.all fun payment => payment.1 ≠ paymentId || payment.2.status.captured
  | none =>
      (payments.any fun payment => payment.2.status = .SUCCEEDED)
        || payments.all fun payment => payment.2.status.captured

/-- Who compares nothing leaves captured payments as they are, and a refund is requested while the
payment that the request is about has been captured.
-/
def SparesCaptured (calls : Tid → RefundingCall) (t : Tid) (before after : World) : Prop :=
  ((calls t).comparesNothing → ∀ id old new,
      before.db.committed.lookup (.payment id) = some old
      → after.db.committed.lookup (.payment id) = some new → old.status.captured
      → new.status = old.status)
    ∧ ∀ userId input isAdmin header, calls t = .requesting userId input isAdmin header
      → input.asksCaptured (paymentsOf input.orderId before.db.committed)

/-- Captured payments stay captured, and refunds keep their payments. -/
def StaysCaptured : Server.Replaces Row
  | .payment _, old, new => ∀ row ∈ old, row.status.captured → new.status.captured
  | .refund _, old, new => ∀ row ∈ old, new.paymentId = row.paymentId
  | _, _, _ => True

/-- Moreover, only captured payments become REFUNDED. -/
def RefundsOnlyCaptured : Server.Replaces Row
  | .payment id, old, new => StaysCaptured (.payment id) old new
      ∧ (new.status = .REFUNDED → ∃ row ∈ old, row.status.captured)
  | key, old, new => StaysCaptured key old new

/-- Every refund that the provider was asked for is there. -/
def RequestsStored (world : World) : Prop :=
  ∀ refundId, (∃ event ∈ world.trace, event.requestsRefund refundId)
    → Exists (.refund refundId) world

/-- A payment that stays captured in two writes does so in both together. -/
theorem StaysCaptured.transitive : StaysCaptured.Transitive := by
  intro key old row next first second
  cases key with
  | payment id => exact fun before found paid => second row rfl (first before found paid)
  | refund id => exact fun before found => (second row rfl).trans (first before found)
  | _ => trivial

/-- What the calls write leaves captured payments captured, by cases on the kind of row. -/
theorem RefundsOnlyCaptured.stays (key : Key) (old : Option (Row key)) (new : Row key)
    (replaces : RefundsOnlyCaptured key old new)
    : StaysCaptured key old new := by
  cases key with
  | payment id => exact replaces.1
  | _ => exact replaces

/-- Two writes of a call are one, by cases on the call. -/
theorem RefundingCall.writes_transitive (call : RefundingCall) : call.Writes.Transitive := by
  intro key old row next first second
  cases key with
  | payment id =>
      cases call with
      | payment call =>
          cases call with
          | refunding refundId => exact ⟨first.1, second.2⟩
          | _ =>
              refine ⟨second.1, fun before found => ?_⟩
              exact PaymentCall.moves_trans _ (first.2 before found) (second.2 row rfl)
      | requesting => exact first
  | refund id =>
      cases call with
      | payment call =>
          cases call with
          | refunding refundId =>
              obtain ⟨before, found, same⟩ := first
              obtain ⟨row', found', same'⟩ := second
              obtain rfl := Option.some.inj found'
              exact ⟨before, found, same'.trans same⟩
          | _ => exact first
      | requesting => exact absurd second (by simp [Writes])
  | _ => trivial

/-- A captured payment stays captured. -/
theorem Captured.evolve {before after : AList Row} {id : Id} (captured : Captured before id)
    (rows : Server.Evolves StaysCaptured before after)
    : Captured after id := by
  obtain ⟨payment, found, paid⟩ := captured
  obtain ⟨payment', found'⟩ := Option.isSome_iff_exists.mp (rows.kept (by rw [found]; rfl))
  refine ⟨payment', found', ?_⟩
  rcases rows.rows found' with same | replaced
  · exact Option.some.inj (found.symm.trans same) ▸ paid
  · exact replaced payment found paid

/-- Refunds stay refunds of captured payments if the new ones are. -/
theorem RefundsCaptured.evolve {before after : AList Row} (holds : RefundsCaptured before)
    (rows : Server.Evolves StaysCaptured before after)
    (new : ∀ id refund, before.lookup (.refund id) = none
      → after.lookup (.refund id) = some refund
      → ∃ paymentId ∈ refund.paymentId, Captured before paymentId)
    : RefundsCaptured after := by
  intro id refund found
  cases old : before.lookup (.refund id) with
  | none =>
      obtain ⟨paymentId, named, captured⟩ := new id refund old found
      exact ⟨paymentId, named, captured.evolve rows⟩
  | some row =>
      obtain ⟨paymentId, named, captured⟩ := holds id row old
      refine ⟨paymentId, ?_, captured.evolve rows⟩
      rcases rows.rows found with same | kept
      · exact Option.some.inj (old.symm.trans same) ▸ named
      · exact (kept row old).symm ▸ named

/-- The state machine keeps captured payments captured. -/
theorem PaymentStatus.captured_of_transition {old new : PaymentStatus}
    (allowed : PaymentStateMachine.canTransition old new) (captured : old.captured)
    : new.captured := by
  cases old <;> cases new <;> simp_all [PaymentStatus.captured, PaymentStateMachine.canTransition,
    PaymentStateMachine.allowedTransitions]

-----------------------------------------------------------------------------------------
-- Runs
-----------------------------------------------------------------------------------------

/-- Any number of calls that write payments or ask for refunds. -/
def refundingDiscipline (calls : Tid → RefundingCall) : Discipline where
  rows := StaysCaptured
  changes := RefundsOnlyCaptured
  promised := RefundsOnlyCaptured.stays
  transitive := StaysCaptured.transitive
  writes t := (calls t).Writes
  inv world := RefundsCaptured world.db.committed ∧ RequestsStored world
  allowed := SparesCaptured calls

/-- A call and its own events. -/
def RefundingCall.footprint (call : RefundingCall) (t : Tid) : Footprint :=
  ⟨call.Writes, fun event => ∀ u ∈ event.owner, u = t⟩

/-- A call that asks no provider for a refund. -/
def RefundingCall.unasking (call : RefundingCall) (t : Tid) : Footprint :=
  ⟨call.Writes, fun event => (∀ u ∈ event.owner, u = t)
    ∧ ∀ refundId, event.requestsRefund refundId = false⟩

section

variable {calls : Tid → RefundingCall} {call : RefundingCall} {t : Tid} {world after : World}

/-- The invariant is about committed rows and events only. -/
theorem refunding_observable : Observable (refundingDiscipline calls).inv where
  calm world after committed trace holds := by
    refine ⟨committed ▸ holds.1, fun refundId asked => ?_⟩
    rw [Exists, committed]
    exact holds.2 refundId (trace ▸ asked)
  crashed t world holds := by
    refine ⟨holds.1, fun refundId asked => holds.2 refundId ?_⟩
    obtain ⟨event, member, requests⟩ := asked
    rcases List.mem_cons.mp member with rfl | member
    · simp [Event.requestsRefund] at requests
    · exact ⟨event, member, requests⟩

/-- The writes and events of every call are admitted. -/
theorem refunding_admits (t : Tid)
    : (refundingDiscipline calls).Admits ((calls t).footprint t) t where
  transitive := (calls t).writes_transitive
  writes := rfl
  events _ own := own

/-- So are those of a call that asks for no refund. -/
theorem refunding_admits_unasking (t : Tid)
    : (refundingDiscipline calls).Admits ((calls t).unasking t) t where
  transitive := (calls t).writes_transitive
  writes := rfl
  events _ own := own.1

/-- What keeps captured payments captured and adds refunds of such payments only. -/
theorem refunding_kept (holds : (refundingDiscipline calls).inv world)
    (rows : Server.Evolves RefundsOnlyCaptured world.db.committed after.db.committed)
    (new : ∀ id refund, world.db.committed.lookup (.refund id) = none
      → after.db.committed.lookup (.refund id) = some refund
      → ∃ paymentId ∈ refund.paymentId, Captured world.db.committed paymentId)
    (asked : ∀ refundId, (∃ event ∈ after.trace, event.requestsRefund refundId)
      → (∃ event ∈ world.trace, event.requestsRefund refundId) ∨ Exists (.refund refundId) world)
    : (refundingDiscipline calls).inv after := by
  refine ⟨holds.1.evolve (rows.mono RefundsOnlyCaptured.stays) new, fun refundId requested => ?_⟩
  exact rows.kept ((asked refundId requested).elim (holds.2 refundId) id)

/-- What the calls do that neither ask for a refund nor execute one. -/
theorem unasking_keeps {news : PaymentCall} (same : calls t = .payment news)
    (other : ∀ refundId, news ≠ .refunding refundId)
    (holds : (refundingDiscipline calls).inv world)
    (effect : Effect ((calls t).unasking t) t world after)
    (spared : SparesCaptured calls t world after)
    : Server.Evolves RefundsOnlyCaptured world.db.committed after.db.committed
      ∧ (refundingDiscipline calls).inv after := by
  have unstored {id : Id} {row : Row (.refund id)} (shown : after.db.committed.lookup _ = some row)
      : world.db.committed.lookup (.refund id) = some row := by
    refine (effect.rows.rows shown).resolve_right fun moved => ?_
    have moved : (calls t).Writes (.refund id) (world.db.committed.lookup _) row := moved
    rw [same] at moved
    cases news with
    | refunding refundId => exact other refundId rfl
    | _ => exact moved
  have rows : Server.Evolves RefundsOnlyCaptured world.db.committed after.db.committed := by
    refine ⟨fun {key row} shown => ?_, effect.rows.kept⟩
    refine (effect.rows.rows shown).imp_right fun moved => ?_
    have moved : (calls t).Writes key (world.db.committed.lookup key) row := moved
    cases key with
    | payment id =>
        rw [same] at moved
        cases news with
        | refunding refundId => exact absurd rfl (other refundId)
        | creating | reconciling =>
            refine ⟨fun old stored paid => ?_, fun refunded => absurd refunded moved.1⟩
            rw [spared.1 (by simp [same, comparesNothing]) id old row stored shown paid]
            exact paid
        | verifying | webhook =>
            refine ⟨fun old stored paid => ?_, fun refunded => absurd refunded moved.1⟩
            exact PaymentStatus.captured_of_transition (moved.2 old stored).1 paid
    | refund id =>
        intro old stored
        obtain rfl := Option.some.inj (stored.symm.trans (unstored shown))
        rfl
    | _ => trivial
  refine ⟨rows, refunding_kept holds rows (fun id refund absent found => ?_)
    fun refundId requested => Or.inl ?_⟩
  · exact absurd (absent.symm.trans (unstored found)) (by simp)
  · obtain ⟨event, member, requests⟩ := requested
    rcases effect.trace.mem.mp member with old | new
    · exact ⟨event, old, requests⟩
    · simp [new.1.2 refundId] at requests

/-- A service within the footprint of a call that asks for no refund is safe. -/
theorem spec_unasking {α : Type} {service : Service α} {news : PaymentCall}
    (same : calls t = .payment news) (other : ∀ refundId, news ≠ .refunding refundId)
    (within : Within (Step ((RefundingCall.payment news).unasking t) t) t service)
    : (refundingDiscipline calls).accountable.Spec t (fun _ => True) service (fun _ _ => True)
        fun _ _ => True := by
  rw [← same] at within
  have keeps : (refundingDiscipline calls).Keeps ((calls t).unasking t) t :=
    ⟨refunding_observable, refunding_admits_unasking t, fun world after holds effect spared =>
      unasking_keeps same other holds effect spared⟩
  exact keeps.learns within

-----------------------------------------------------------------------------------------
-- Asking for a refund
-----------------------------------------------------------------------------------------

/-- What `createRefund` does when it knows the payment of its refund, and before. -/
def naming (payment : Option Id) (t : Tid) : Footprint where
  writes
    | .payment _, _, _ => False
    | .refund _, old, new => old = none ∧ payment.isSome ∧ new.paymentId = payment
    | _, _, _ => True
  events event := (∀ u ∈ event.owner, u = t) ∧ ∀ refundId, event.requestsRefund refundId = false

/-- The payment is known to be captured, if it is known at all. -/
def Naming (payment : Option Id) (t : Tid) (world : World) : Prop :=
  Phased t (naming payment t).writes world ∧ ∀ id ∈ payment, Captured world.db.committed id

/-- The payment that `createRefund` chooses. -/
def CreateRefundInput.chosen (input : CreateRefundInput) (payments : List (Id × Payment))
    : Option (Id × Payment) :=
  match truthy input.paymentId with
  | some paymentId => payments.find? fun payment => payment.1 = paymentId
  | none => (payments.find? fun payment => payment.2.status = .SUCCEEDED).or payments.head?

/-- A request for captured money is one for a captured payment. -/
theorem CreateRefundInput.chosen_captured {input : CreateRefundInput}
    {payments : List (Id × Payment)} (asks : input.asksCaptured payments)
    {payment : Id × Payment} (chosen : input.chosen payments = some payment)
    : payment ∈ payments ∧ payment.2.status.captured := by
  unfold asksCaptured at asks
  unfold CreateRefundInput.chosen at chosen
  cases named : truthy input.paymentId with
  | some paymentId =>
      rw [named] at asks chosen
      have member := List.mem_of_find?_eq_some chosen
      have same : payment.1 = paymentId := by simpa using List.find?_some chosen
      exact ⟨member, by simpa [same] using List.all_eq_true.mp asks payment member⟩
  | none =>
      rw [named] at asks chosen
      cases first : payments.find? fun payment => payment.2.status = .SUCCEEDED with
      | some other =>
          obtain rfl : other = payment := by simpa [first] using chosen
          have succeeded : other.2.status = .SUCCEEDED := by simpa using List.find?_some first
          exact ⟨List.mem_of_find?_eq_some first, by simp [succeeded, PaymentStatus.captured]⟩
      | none =>
          have head : payments.head? = some payment := by simpa [first] using chosen
          have member := List.mem_of_mem_head? head
          refine ⟨member, ?_⟩
          rcases Bool.or_eq_true_iff.mp asks with some_paid | all_paid
          · obtain ⟨other, present, succeeded⟩ := List.any_eq_true.mp some_paid
            exact absurd succeeded (List.find?_eq_none.mp first other present)
          · exact List.all_eq_true.mp all_paid payment member

/-- What a request asks for does not depend on the order in which the payments are found. -/
theorem CreateRefundInput.asksCaptured_of_mem_iff {input : CreateRefundInput}
    {payments others : List (Id × Payment)} (same : ∀ payment, payment ∈ others ↔ payment ∈ payments)
    (asks : input.asksCaptured payments)
    : input.asksCaptured others := by
  unfold asksCaptured at *
  cases named : truthy input.paymentId with
  | some paymentId =>
      rw [named] at asks
      exact List.all_eq_true.mpr fun payment member =>
        List.all_eq_true.mp asks payment ((same payment).mp member)
  | none =>
      rw [named] at asks
      refine Bool.or_eq_true_iff.mpr
        ((Bool.or_eq_true_iff.mp asks).imp (fun paid => ?_) fun paid => ?_)
      · obtain ⟨payment, member, succeeded⟩ := List.any_eq_true.mp paid
        exact List.any_eq_true.mpr ⟨payment, (same payment).mpr member, succeeded⟩
      · exact List.all_eq_true.mpr fun payment member =>
          List.all_eq_true.mp paid payment ((same payment).mp member)

section

variable {payment : Option Id} {userId : Id} {input : CreateRefundInput} {isAdmin : Bool}
  {header : Option String}

/-- Two writes of a request are one. -/
theorem naming_transitive : (naming payment t).writes.Transitive := by
  intro key old row next first second
  cases key with
  | payment id => exact first
  | refund id => exact absurd second.1 (by simp)
  | _ => trivial

/-- The payment that a request has chosen stays captured. -/
theorem naming_stable : (refundingDiscipline calls).accountable.Stable t (Naming payment t) :=
  Protocol.Stable.and (fun _ _ _ _ relied phased => phased.stable relied.1)
    fun _ _ _ _ relied known id named => (known id named).evolve relied.2.1

/-- A request may store a refund of the payment that it has chosen. -/
theorem naming_allowsRefundRequest {paymentId : Id}
    : (naming (some paymentId) t).AllowsRefundRequest (· = some paymentId) where
  order _ _ := trivial
  refund _ _ _ named := ⟨rfl, rfl, named⟩
  idempotencyKey _ _ := trivial

/-- A refund of a captured payment may be stored. -/
theorem naming_respects (same : calls t = .requesting userId input isAdmin header)
    : (refundingDiscipline calls).accountable.Respects t (Step (naming payment t) t)
        (Naming payment t) := by
  refine (refunding_admits t).accounts_phase naming_transitive ?_ (fun _ caused => caused.1) ?_
  · intro key old new replaces
    rw [same]
    cases key with
    | payment id => exact replaces.elim
    | refund id => exact replaces.1
    | _ => trivial
  intro world after inv known effect _
  have rows : Server.Evolves RefundsOnlyCaptured world.db.committed after.db.committed := by
    refine ⟨fun {key row} shown => ?_, effect.rows.kept⟩
    refine (effect.rows.rows shown).imp_right fun replaced => ?_
    cases key with
    | payment id => exact replaced.elim
    | refund id =>
        intro old stored
        exact absurd (stored.symm.trans replaced.1) (by simp)
    | _ => trivial
  refine ⟨rows, refunding_kept inv rows (fun id refund absent found => ?_)
    fun id requested => Or.inl ?_, fun id named =>
      (known id named).evolve (rows.mono RefundsOnlyCaptured.stays)⟩
  · rcases effect.rows.rows found with stored | ⟨_, present, named⟩
    · exact absurd (absent.symm.trans stored) (by simp)
    · obtain ⟨paymentId, is⟩ := Option.isSome_iff_exists.mp present
      exact ⟨paymentId, named.trans is, known paymentId is⟩
  · obtain ⟨event, member, requests⟩ := requested
    rcases effect.trace.mem.mp member with old | new
    · exact ⟨event, old, requests⟩
    · simp [new.1.2 id] at requests

/-- What is known of the payment stays known. -/
theorem spec_naming {α : Type} {program : Service α} {Q : α → Prop}
    (same : calls t = .requesting userId input isAdmin header)
    (within : Within (Step (naming payment t) t) t program Q)
    : (refundingDiscipline calls).accountable.Spec t (Naming payment t) program
        (fun value world => Q value ∧ Naming payment t world)
        fun _ world => ∃ payment, Naming payment t world :=
  (Protocol.Spec.of_within within (naming_respects same) naming_stable).conseq
    (fun _ _ given => given) (fun _ _ _ ends => ends) fun _ _ _ ends => ⟨payment, ends⟩

/-- A part of a request within its footprint keeps the chosen payment. -/
theorem spec_named {α : Type} {program : Service α}
    (same : calls t = .requesting userId input isAdmin header)
    (within : Within (Step (naming payment t) t) t program)
    : (refundingDiscipline calls).accountable.Spec t (Naming payment t) program
        (fun _ world => ∃ payment, Naming payment t world)
        fun _ world => ∃ payment, Naming payment t world :=
  (spec_naming same within).conseq (fun _ _ given => given)
    (fun _ _ _ ends => ⟨payment, ends.2⟩) fun _ _ _ ends => ends

/-- The payment that is chosen among those that are read has been captured. -/
theorem spec_readPayments {x : TxId} (own : x.owner = t)
    (same : calls t = .requesting userId input isAdmin header)
    : (refundingDiscipline calls).accountable.Spec t (Naming none t)
        (select (some x) (paymentsOf input.orderId))
        (fun payments => Naming ((input.chosen payments).map Prod.fst) t)
        fun _ world => ∃ payment, Naming payment t world := by
  have reading : Reading (refundingDiscipline calls).accountable t :=
    Discipline.reading_accountable refunding_observable
  refine spec_statement reading naming_stable (fun world result db inv given _ ran spared => ?_)
    fun world db _ _ given aborted => ⟨none, ?_, nofun⟩
  · obtain ⟨rfl, rfl⟩ := Prod.mk.inj (Option.some.inj ran)
    obtain ⟨kept, guaranteed⟩ := reading.refl inv
    have seen (found : Id × Payment)
        : found ∈ paymentsOf input.orderId (world.db.visible (some x))
          ↔ found ∈ paymentsOf input.orderId world.db.committed := by
      rw [mem_paymentsOf, mem_paymentsOf, given.1.visible (by simpa using own) fun _ _ => id]
    have asks := CreateRefundInput.asksCaptured_of_mem_iff seen
      (spared.2 userId input isAdmin header same)
    refine ⟨kept, guaranteed, given.1.mono fun key old new replaces => ?_, fun id named => ?_⟩
    · cases key with
      | refund id => simp [naming] at replaces
      | _ => exact replaces
    · obtain ⟨payment, chosen, rfl⟩ := Option.map_eq_some_iff.mp named
      obtain ⟨member, captured⟩ := CreateRefundInput.chosen_captured asks chosen
      exact ⟨payment.2, (mem_paymentsOf.mp ((seen payment).mp member)).1, captured⟩
  · rcases aborted with rfl | ⟨y, client, _, rfl⟩
    · exact given.1
    · exact given.1.step (.rollback y) naming_transitive

/-- The transaction of a request chooses a captured payment and stores a refund of it. -/
theorem spec_nameCaptured {x : TxId} (own : x.owner = t)
    (same : calls t = .requesting userId input isAdmin header) (idempotencyKey : Option String)
    : (refundingDiscipline calls).accountable.Spec t (Naming none t)
        (createRefundInTx x userId input isAdmin idempotencyKey)
        (fun _ world => ∃ payment, Naming payment t world)
        fun _ world => ∃ payment, Naming payment t world := by
  refine Protocol.Spec.bind (spec_naming same (within_selectForUpdate own)) fun _ => ?_
  refine Protocol.Spec.assume fun _ => ?_
  refine Protocol.Spec.bind (spec_naming same within_findUnique) fun found => ?_
  refine Protocol.Spec.assume fun _ => ?_
  cases found with
  | none => exact spec_named same (Within.throw _)
  | some order =>
      refine Protocol.Spec.bind (spec_readPayments own same) fun payments => ?_
      refine Protocol.Spec.bind (spec_naming same within_findUnique) fun settlement => ?_
      refine Protocol.Spec.assume fun _ => ?_
      refine spec_named same (Within.bind within_throwIf fun _ _ => ?_)
      refine Within.bind within_throwIf fun _ _ => Within.bind within_throwIf fun _ _ => ?_
      dsimp only
      split
      · exact Within.throw _
      split
      · exact Within.throw _
      rename_i paymentId payment chosen
      have chosen : input.chosen payments = some (paymentId, payment) := chosen
      rw [chosen]
      refine Within.bind within_now fun time _ => ?_
      refine Within.bind (within_select (Q := fun _ => True) fun _ => trivial) fun found _ => ?_
      cases found with
      | none => exact within_insertRefund naming_allowsRefundRequest own userId input order rfl _ _
      | some existing => exact Within.bind within_throwIf fun _ _ => Within.pure trivial

/-- A request stores only refunds of captured payments, by the rule for transactions. -/
theorem spec_requestCaptured (same : calls t = .requesting userId input isAdmin header)
    : (refundingDiscipline calls).accountable.Spec t (Naming none t)
        (createRefund userId input isAdmin header)
        (fun _ world => ∃ payment, Naming payment t world)
        fun _ world => ∃ payment, Naming payment t world := by
  refine Protocol.Spec.bind (spec_naming same within_begin) fun x => ?_
  refine Protocol.Spec.assume fun own => ?_
  refine Protocol.Spec.bind (Q := fun _ world => ∃ payment, Naming payment t world)
    (Protocol.Spec.tryCatch (spec_nameCaptured own same _) fun error => ?_) fun _ => ?_
  · refine Protocol.Spec.exists fun payment => ?_
    exact spec_named same (Within.bind within_rollback fun _ _ => Within.throw error)
  · refine Protocol.Spec.exists fun payment => ?_
    exact spec_named same (Within.bind (within_commit own) fun _ _ => Within.pure trivial)

end

-----------------------------------------------------------------------------------------
-- Executing a refund
-----------------------------------------------------------------------------------------

/-- What `executeRefund` does when it knows the payment of its refund, and before. -/
def executing (refundId : Id) (payment : Option Id) (t : Tid) : Footprint where
  writes
    | .payment id, old, new => payment = some id ∧ old.isSome ∧ new.status = .REFUNDED
    | .refund _, old, new => ∃ row ∈ old, new.paymentId = row.paymentId
    | _, _, _ => True
  events event := (∀ u ∈ event.owner, u = t)
    ∧ ∀ id, event.requestsRefund id → payment.isSome ∧ id = refundId

/-- The payment of the refund is known to be captured, if it is known at all. -/
structure KnownPayment (refundId : Id) (payment : Option Id) (world : World) : Prop where
  captured : ∀ id ∈ payment, Captured world.db.committed id
  stored : payment.isSome → Exists (.refund refundId) world

/-- What the program has written it may have written with this knowledge. -/
def Executing (refundId : Id) (payment : Option Id) (t : Tid) (world : World) : Prop :=
  Phased t (executing refundId payment t).writes world ∧ KnownPayment refundId payment world

variable {refundId : Id} {payment : Option Id}

/-- An execution may ask for a refund of the payment that it knows. -/
theorem executing_allowsRefund
    : (executing refundId payment t).AllowsRefund t (payment = some ·) where
  pool _ _ _ := trivial
  reservation _ _ _ := trivial
  treasury _ _ _ := trivial
  refund _ row _ same _ := ⟨row, rfl, same.paymentId⟩
  payment _ _ named := ⟨named, rfl, rfl⟩
  order _ _ _ _ := trivial
  checked _ _ _ _ :=
    ⟨by simp [Event.owner], fun _ requests => by simp [Event.requestsRefund] at requests⟩

/-- Two writes of an execution are one. -/
theorem executing_transitive : (executing refundId payment t).writes.Transitive := by
  intro key old row next first second
  cases key with
  | payment id => exact ⟨first.1, first.2.1, second.2.2⟩
  | refund id =>
      obtain ⟨before, found, same⟩ := first
      obtain ⟨row', found', same'⟩ := second
      obtain rfl := Option.some.inj found'
      exact ⟨before, found, same'.trans same⟩
  | _ => trivial

/-- The payment of a refund stays the one that was read, and captured. -/
theorem KnownPayment.evolve (known : KnownPayment refundId payment world)
    (rows : Server.Evolves StaysCaptured world.db.committed after.db.committed)
    : KnownPayment refundId payment after :=
  ⟨fun id named => (known.captured id named).evolve rows,
    fun present => rows.kept (known.stored present)⟩

/-- What an execution knows of its refund is stable. -/
theorem executing_stable
    : (refundingDiscipline calls).accountable.Stable t (Executing refundId payment t) :=
  Protocol.Stable.and (fun _ _ _ _ relied phased => phased.stable relied.1)
    fun _ _ _ _ relied known => known.evolve relied.2.1

/-- A refund of a captured payment makes nothing else REFUNDED. -/
theorem executing_respects (same : calls t = .payment (.refunding refundId))
    : (refundingDiscipline calls).accountable.Respects t (Step (executing refundId payment t) t)
        (Executing refundId payment t) := by
  refine (refunding_admits t).accounts_phase executing_transitive ?_ (fun _ caused => caused.1) ?_
  · intro key old new replaces
    rw [same]
    cases key with
    | payment id => exact replaces.2
    | _ => exact replaces
  intro world after inv known effect spared
  have rows : Server.Evolves RefundsOnlyCaptured world.db.committed after.db.committed := by
    refine ⟨fun {key row} shown => ?_, effect.rows.kept⟩
    refine (effect.rows.rows shown).imp_right fun replaced => ?_
    cases key with
    | payment id =>
        obtain ⟨paid, found, captured⟩ := known.captured id replaced.1
        refine ⟨fun _ _ _ => ?_, fun _ => ⟨paid, found, captured⟩⟩
        simp [show row.status = .REFUNDED from replaced.2.2, PaymentStatus.captured]
    | refund id =>
        intro old stored
        obtain ⟨before, found, kept⟩ := replaced
        exact Option.some.inj (stored.symm.trans found) ▸ kept
    | _ => trivial
  refine ⟨rows, refunding_kept inv rows (fun id refund absent found => ?_) fun id requested => ?_,
    known.evolve (rows.mono RefundsOnlyCaptured.stays)⟩
  · rcases effect.rows.rows found with stored | ⟨row, before, _⟩
    · exact absurd (absent.symm.trans stored) (by simp)
    · exact absurd (absent.symm.trans before) (by simp)
  · obtain ⟨event, member, requests⟩ := requested
    rcases effect.trace.mem.mp member with old | new
    · exact Or.inl ⟨event, old, requests⟩
    · obtain ⟨present, rfl⟩ := new.1.2 id requests
      exact Or.inr (known.stored present)

/-- What is known while a refund is executed stays known. -/
theorem spec_executing {α : Type} {program : Service α} {Q : α → Prop}
    (same : calls t = .payment (.refunding refundId))
    (within : Within (Step (executing refundId payment t) t) t program Q)
    : (refundingDiscipline calls).accountable.Spec t (Executing refundId payment t) program
        (fun value world => Q value ∧ Executing refundId payment t world)
        fun _ world => ∃ payment, Executing refundId payment t world :=
  (Protocol.Spec.of_within within (executing_respects same) executing_stable).conseq
    (fun _ _ given => given) (fun _ _ _ ends => ends) fun _ _ _ ends => ⟨payment, ends⟩

/-- Nothing else is known at the end. -/
theorem spec_executed {α : Type} {program : Service α}
    (same : calls t = .payment (.refunding refundId))
    (within : Within (Step (executing refundId payment t) t) t program)
    : (refundingDiscipline calls).accountable.Spec t (Executing refundId payment t) program
        (fun _ world => ∃ payment, Executing refundId payment t world)
        fun _ world => ∃ payment, Executing refundId payment t world :=
  (spec_executing same within).conseq (fun _ _ given => given)
    (fun _ _ _ ends => ⟨payment, ends.2⟩) fun _ _ _ ends => ends

/-- The refund that is read is one of a captured payment. -/
theorem spec_readRefund
    : (refundingDiscipline calls).accountable.Spec t (Executing refundId none t)
        (findUniqueOrThrow none (.refund refundId))
        (fun (refund : Refund) world => refund.paymentId.isSome
          ∧ Executing refundId refund.paymentId t world)
        fun _ world => ∃ payment, Executing refundId payment t world := by
  refine spec_findUniqueOrThrow (Discipline.reading_accountable refunding_observable)
    executing_stable
    (fun world refund inv given _ found => ?_) fun world db _ _ given aborted => ?_
  · obtain ⟨paymentId, named, captured⟩ := inv.1.1 refundId refund found
    refine ⟨by rw [Option.mem_def.mp named]; rfl, given.1.mono fun key old new replaces => ?_,
      fun id same => ?_, fun _ => ?_⟩
    · cases key with
      | payment id => simp [executing] at replaces
      | _ => exact replaces
    · exact Option.mem_unique named same ▸ captured
    · exact Option.isSome_iff_exists.mpr ⟨refund, found⟩
  · rcases aborted with rfl | ⟨x, client, _⟩
    · exact ⟨none, given⟩
    · simp at client

/-- A claimed execution asks for a refund of a captured payment. -/
theorem spec_executeCaptured (same : calls t = .payment (.refunding refundId))
    (config : Config) (lock : Option DistributedLock)
    : (refundingDiscipline calls).accountable.Spec t (Executing refundId none t)
        (executeClaimedRefund config refundId lock)
        (fun _ world => ∃ payment, Executing refundId payment t world)
        fun _ world => ∃ payment, Executing refundId payment t world := by
  refine Protocol.Spec.bind spec_readRefund fun refund => Protocol.Spec.assume fun known => ?_
  refine spec_executed same (Within.bind within_findUniqueOrThrow fun order _ => ?_)
  refine Within.bind (within_paymentOf refund) fun payment _ => ?_
  refine Within.bind (within_get config _) fun provider _ => ?_
  refine Within.bind (within_throwIfLost lock _) fun _ _ => ?_
  refine Within.bind (Q := fun _ => True) ?_ fun response _ => ?_
  · refine Within.bind (within_emit ?_) fun _ _ => ?_
    · refine ⟨by simp [Event.owner], fun id requests => ⟨known, ?_⟩⟩
      simpa [Event.requestsRefund, refundRequest, eq_comm] using requests
    refine Within.bind (within_providerRefund config provider _) fun response _ => ?_
    refine Within.bind (within_emit ?_) fun _ _ => Within.pure trivial
    simp [executing, Event.owner, Event.requestsRefund]
  · exact within_settleRefund executing_allowsRefund refundId (fun _ named => named) order response

/-- Under its lock an execution reads its refund and claims it. -/
theorem spec_executeCapturedLocked (same : calls t = .payment (.refunding refundId))
    (config : Config) (lock : Option DistributedLock)
    : (refundingDiscipline calls).accountable.Spec t (Executing refundId none t)
        (executeRefundLocked config refundId lock)
        (fun _ world => ∃ payment, Executing refundId payment t world)
        fun _ world => ∃ payment, Executing refundId payment t world := by
  refine Protocol.Spec.bind (spec_executing same within_findUnique) fun found => ?_
  refine Protocol.Spec.assume fun _ => ?_
  cases found with
  | none => exact spec_executed same (Within.throw _)
  | some refund =>
      dsimp only
      split
      · exact spec_executed same (Within.pure trivial)
      split
      · exact spec_executed same (Within.pure trivial)
      refine Protocol.Spec.bind (spec_executing same (within_throwIfLost lock _)) fun _ => ?_
      refine Protocol.Spec.assume fun _ => ?_
      refine Protocol.Spec.bind (spec_executing same within_throwIf) fun _ => ?_
      refine Protocol.Spec.assume fun _ => ?_
      refine Protocol.Spec.bind (spec_executing same (within_claim ?_ fun row _ => ?_))
        fun count => ?_
      · simp [executing, Event.owner, Event.requestsRefund]
      · exact ⟨row, rfl, rfl⟩
      refine Protocol.Spec.assume fun _ => ?_
      split
      · exact spec_executed same within_findUniqueOrThrow
      · exact spec_executeCaptured same config lock

/-- An execution asks only for refunds of captured payments, by the rule for the lock. -/
theorem spec_executeOnlyCaptured (same : calls t = .payment (.refunding refundId))
    (config : Config)
    : (refundingDiscipline calls).accountable.Spec t (Executing refundId none t)
        (executeRefund config refundId)
        (fun _ world => ∃ payment, Executing refundId payment t world)
        fun _ world => ∃ payment, Executing refundId payment t world := by
  refine Protocol.Spec.bind (spec_executing same (within_acquire config _)) fun lock => ?_
  refine Protocol.Spec.assume fun own => ?_
  refine spec_finally' (spec_executeCapturedLocked same config lock) ?_
  exact Protocol.Spec.exists fun payment => spec_executed same (within_releaseAny own)

-----------------------------------------------------------------------------------------
-- The other calls
-----------------------------------------------------------------------------------------

/-- A call that asks for no refund reports its own events. -/
theorem unasking_reports : (call.unasking t).Reports t where
  reported _ := ⟨by simp [Event.owner], fun _ => rfl⟩
  verified _ _ _ _ := ⟨by simp [Event.owner], fun _ => rfl⟩
  answered _ _ _ _ := ⟨by simp [Event.owner], fun _ => rfl⟩

/-- It may change reservations. -/
theorem unasking_allowsLiquidity : (call.unasking t).AllowsLiquidity :=
  ⟨fun _ _ _ => trivial, fun _ _ _ => trivial, fun _ _ _ => trivial⟩

/-- It may create payments. -/
theorem unasking_allowsCreation {userId : Id} {input : CreatePaymentInput}
    {idempotencyKey : Option String}
    : ((RefundingCall.payment (.creating userId input idempotencyKey)).unasking t).AllowsCreation t
    where
  requested _ := ⟨by simp [Event.owner], fun _ => rfl⟩
  stored _ payment new := by
    have new : payment.status = .CREATED := new
    exact ⟨by simp [new], fun _ same => by simp at same⟩
  reference _ _ := trivial
  idempotencyKey _ _ := trivial
  answered _ _ _ _ unrefunded := ⟨unrefunded, fun _ _ => unrefunded⟩
  record _ _ := trivial
  recordId _ _ _ := trivial
  order _ _ := trivial

/-- The calls that compare before they write. -/
theorem unasking_allowsNews {news : PaymentCall}
    (writes : ∀ id row new, new.status ≠ .REFUNDED
      → PaymentStateMachine.canTransition row.status new.status
      → (RefundingCall.payment news).Writes (.payment id) (some row) new)
    : ((RefundingCall.payment news).unasking t).AllowsNews t where
  toAllowsLiquidity := unasking_allowsLiquidity
  reports := unasking_reports
  checks := ⟨fun _ _ _ => ⟨by simp [Event.owner], fun _ => rfl⟩,
    fun _ _ _ => ⟨by simp [Event.owner], fun _ => rfl⟩⟩
  transition id row status _ allowed unrefunded :=
    writes id row { row with status := status } unrefunded allowed
  record _ _ _ := trivial
  order _ _ _ _ := trivial
  event _ _ _ _ := trivial
  claimed _ _ := ⟨by simp [Event.owner], fun _ => rfl⟩

/-- It may reconcile payments. -/
theorem unasking_allowsReconciliation {orderId : Id}
    : ((RefundingCall.payment (.reconciling orderId)).unasking t).AllowsPaymentReconciliation t where
  toAllowsLiquidity := unasking_allowsLiquidity
  reports := unasking_reports
  picked _ _ _ := ⟨by simp [Event.owner], fun _ => rfl⟩
  payment _ _ _ _ _ _ settled :=
    ⟨by rcases settled with settled | settled <;> simp [settled], fun _ _ => settled⟩
  order _ _ _ _ := trivial
  settlement _ _ _ := trivial
  settlementNumber _ _ := trivial

/-- Every call is safe where captured payments are spared. -/
theorem RefundingCall.safe (crypto : Crypto) (config : Config) {rows : AList Row}
    (holds : (refundingDiscipline calls).accountable.inv (World.start rows)) (same : calls t = call)
    : (refundingDiscipline calls).accountable.Safe t (fun _ _ => True) (call.thread crypto config)
        (World.start rows) := by
  cases call with
  | payment call =>
      cases call with
      | creating userId input idempotencyKey =>
          exact Service.thread_safe (spec_unasking same nofun (within_createPayment
            unasking_allowsCreation config userId input idempotencyKey)) holds trivial
      | verifying paymentId userId isAdmin params =>
          exact Service.thread_safe (spec_unasking same nofun (within_verifyPayment
            (unasking_allowsNews fun _ _ _ unrefunded allowed => by
              refine ⟨unrefunded, fun old stored => ?_⟩
              obtain rfl := Option.some.inj stored
              exact ⟨allowed, unrefunded⟩) config paymentId userId isAdmin params)) holds trivial
      | webhook providerName request =>
          exact Service.thread_safe (spec_unasking same nofun (within_processWebhook
            (unasking_allowsNews fun _ _ _ unrefunded allowed => by
              refine ⟨unrefunded, fun old stored => ?_⟩
              obtain rfl := Option.some.inj stored
              exact ⟨allowed, unrefunded⟩) crypto config providerName request)) holds trivial
      | reconciling orderId =>
          exact Service.thread_safe (spec_unasking same nofun
            (ReconciliationDaemon.within_reconcileSinglePaymentOrder unasking_allowsReconciliation
              config orderId)) holds trivial
      | refunding refundId =>
          refine Service.thread_safe ((spec_executeOnlyCaptured same config).conseq
            (fun _ _ given => given) (fun _ _ _ _ => trivial) fun _ _ _ ends => ends) holds ?_
          exact ⟨Phased.start t _ rows, nofun, nofun⟩
  | requesting userId input isAdmin header =>
      refine Service.thread_safe ((spec_requestCaptured same).conseq (fun _ _ given => given)
        (fun _ _ _ _ => trivial) fun _ _ _ ends => ends) holds ?_
      exact ⟨Phased.start t _ rows, nofun⟩

end

/-- Nothing has been refunded yet, and all refunds are ones of payments that have been captured. -/
def Unrefunded (rows : AList Row) : Prop :=
  (∀ id payment, rows.lookup (.payment id) = some payment → payment.status ≠ .REFUNDED)
    ∧ RefundsCaptured rows

section

variable {crypto : Crypto} {config : Config} {calls : Tid → RefundingCall} {rows : AList Row}
  {pool last : Pool World Input}

/-- Every step of every run is verified, by the rule for runs. -/
theorem refunding_verified (unrefunded : Unrefunded rows)
    (run : Run (machine anyExpiry) (SparesCaptured calls)
      ⟨World.start rows, fun t => (calls t).thread crypto config⟩ pool)
    : pool.Verified (refundingDiscipline calls).accountable := by
  have holds : (refundingDiscipline calls).inv (World.start rows) :=
    ⟨unrefunded.2, fun _ asked => by simp [World.start] at asked⟩
  exact Discipline.accountable_verified refunding_observable rfl holds
    (fun t => RefundingCall.safe crypto config ⟨holds, Server.AllJustified.start rows⟩ rfl) run

/-- Only SUCCEEDED payments become REFUNDED. -/
theorem refunded_of_captured (unrefunded : Unrefunded rows)
    (run : Run (machine anyExpiry) (SparesCaptured calls)
      ⟨World.start rows, fun t => (calls t).thread crypto config⟩ pool)
    {change : Move Input Chance} (moved : pool.move (machine anyExpiry) change = some last)
    (spared : ∀ t input, change = .run t input → SparesCaptured calls t pool.state last.state)
    {id : Id} {payment : Payment}
    (found : last.state.db.committed.lookup (.payment id) = some payment)
    (refunded : payment.status = .REFUNDED)
    : Captured pool.state.db.committed id := by
  have evolves := Discipline.evolves (refunding_verified unrefunded run).unvowed moved spared
  rcases evolves.rows found with same | replaced
  · exact ⟨payment, same, by simp [refunded, PaymentStatus.captured]⟩
  · exact replaced.2 refunded

/-- A payment that has been captured was SUCCEEDED at some point of the run. -/
theorem captured_succeeded (unrefunded : Unrefunded rows)
    (run : Run (machine anyExpiry) (SparesCaptured calls)
      ⟨World.start rows, fun t => (calls t).thread crypto config⟩ pool)
    {id : Id} (captured : Captured pool.state.db.committed id)
    : ∃ past, Run (machine anyExpiry) (SparesCaptured calls)
          ⟨World.start rows, fun t => (calls t).thread crypto config⟩ past
        ∧ Run (machine anyExpiry) (SparesCaptured calls) past pool
        ∧ ∃ payment, past.state.db.committed.lookup (.payment id) = some payment
          ∧ payment.status = .SUCCEEDED := by
  refine Run.origin (P := fun pool => Captured pool.state.db.committed id) run
    (fun captured => ?_) (fun move before moved spared captured => ?_) captured
  · obtain ⟨payment, found, paid⟩ := captured
    refine ⟨payment, found, ?_⟩
    have := unrefunded.1 id payment found
    simpa [PaymentStatus.captured, this] using paid
  · obtain ⟨payment, found, paid⟩ := captured
    rcases (by simpa [PaymentStatus.captured] using paid) with succeeded | refunded
    · exact Or.inr ⟨payment, found, succeeded⟩
    · exact Or.inl (refunded_of_captured unrefunded before moved spared found refunded)

/-- A refund that is stored after a step of a program is one of a payment that had been captured
before: who stores refunds writes no payments.
-/
theorem refund_captured_before (unrefunded : Unrefunded rows)
    (run : Run (machine anyExpiry) (SparesCaptured calls)
      ⟨World.start rows, fun t => (calls t).thread crypto config⟩ pool)
    {t : Tid} {input : Input} (moved : pool.move (machine anyExpiry) (.run t input) = some last)
    (spared : SparesCaptured calls t pool.state last.state) {refundId : Id} {refund : Refund}
    (found : last.state.db.committed.lookup (.refund refundId) = some refund)
    : ∃ paymentId ∈ refund.paymentId, Captured pool.state.db.committed paymentId := by
  have verified := refunding_verified unrefunded run
  obtain ⟨⟨⟨_, evolves, _⟩, answers⟩, next⟩ := verified.run moved spared
  cases old : pool.state.db.committed.lookup (.refund refundId) with
  | some row =>
      obtain ⟨paymentId, named, captured⟩ := verified.inv.1.1 refundId row old
      refine ⟨paymentId, ?_, captured⟩
      rcases evolves.rows found with same | kept
      · exact Option.some.inj (old.symm.trans same) ▸ named
      · exact (kept row old).symm ▸ named
  | none =>
      obtain ⟨paymentId, named, payment, shown, captured⟩ := next.inv.1.1 refundId refund found
      refine ⟨paymentId, named, payment, (answers.rows shown).resolve_right fun wrote => ?_, captured⟩
      have wrote : (calls t).Writes (.payment paymentId) _ payment := wrote
      have stored : (calls t).Writes (.refund refundId) _ refund :=
        (answers.rows found).resolve_left (by simp [old])
      cases made : calls t with
      | requesting =>
          rw [made] at wrote
          exact wrote
      | payment call =>
          rw [made] at stored
          cases call with
          | refunding id => simp [Writes, old] at stored
          | _ => exact stored

end

/-- However the calls interleave, fail and crash: as long as creating and reconciling a payment
leave captured payments alone, and refunds are requested of captured money only, the provider is
asked for the refund of a payment only when it has been SUCCEEDED before, and a payment becomes
REFUNDED only from SUCCEEDED. By induction over the run, and from there back to the state in which
the payment was captured.
-/
theorem only_captured_refunded {crypto : Crypto} {config : Config} {calls : Tid → RefundingCall}
    {rows : AList Row} (unrefunded : Unrefunded rows) {pool last : Pool World Input}
    {change : Move Input Chance}
    (run : Run (machine anyExpiry) (SparesCaptured calls)
      ⟨World.start rows, fun t => (calls t).thread crypto config⟩ pool)
    (moved : pool.move (machine anyExpiry) change = some last)
    (spared : ∀ t input, change = .run t input → SparesCaptured calls t pool.state last.state)
    : (∀ t refundId orderId amountInKobo,
        last.state.trace = .refundRequested t refundId orderId amountInKobo :: pool.state.trace
        → ∃ refund, ∃ paymentId ∈ refund.paymentId,
          last.state.db.committed.lookup (.refund refundId) = some refund
          ∧ ∃ past, Run (machine anyExpiry) (SparesCaptured calls)
              ⟨World.start rows, fun t => (calls t).thread crypto config⟩ past
            ∧ Run (machine anyExpiry) (SparesCaptured calls) past pool
            ∧ ∃ payment, past.state.db.committed.lookup (.payment paymentId) = some payment
              ∧ payment.status = .SUCCEEDED)
      ∧ ∀ id payment, last.state.db.committed.lookup (.payment id) = some payment
        → payment.status = .REFUNDED
        → ∃ before, pool.state.db.committed.lookup (.payment id) = some before
          ∧ (before.status = .SUCCEEDED ∨ before.status = .REFUNDED) := by
  refine ⟨fun t refundId orderId amountInKobo asked => ?_, fun id payment found refunded => ?_⟩
  · obtain ⟨refund, found⟩ := Option.isSome_iff_exists.mp
      ((refunding_verified unrefunded (run.step change moved spared)).inv.1.2 refundId
        ⟨_, asked ▸ List.mem_cons_self, by simp [Event.requestsRefund]⟩)
    cases change with
    | run u input =>
        obtain ⟨paymentId, named, captured⟩ :=
          refund_captured_before unrefunded run moved (spared u input rfl) found
        exact ⟨refund, paymentId, named, found, captured_succeeded unrefunded run captured⟩
    | crash u =>
        obtain ⟨_, crashed, _⟩ := Pool.move_crash moved
        simp [crashed, machine] at asked
    | env chance =>
        obtain ⟨happened, _⟩ := machine_env (Pool.move_env moved).1
        simp [happened] at asked
  · obtain ⟨before, found, captured⟩ :=
      refunded_of_captured unrefunded run moved spared found refunded
    exact ⟨before, found, by simpa [PaymentStatus.captured] using captured⟩

/-- An expired order with one payment. -/
def expiredOrder (status : PaymentStatus) : AList Row :=
  ((∅ : AList Row).insert (.order "order")
    ({ userId := "user", quoteId := "quote", status := .EXPIRED,
       sourceCurrency := "NGN", destinationAsset := "USDC",
       sourceAmount := 1000000, destinationAmount := 5000000 } : Order)).insert (.payment "payment")
    ({ orderId := "order", userId := "user", provider := "MOCK", amount := 1000000,
       currency := "NGN", status := status, reference := "PAY_1" } : Payment)

/-- Witness: the rows that the run starts with have no refund. -/
theorem expiredOrder_unrefunded {status : PaymentStatus} (paid : status ≠ .REFUNDED)
    : Unrefunded (expiredOrder status) := by
  refine ⟨fun id payment found => ?_, fun id refund found => ?_⟩
  · by_cases same : id = "payment"
    · subst same
      obtain rfl := Option.some.inj ((AList.lookup_insert _).symm.trans found)
      exact paid
    · simp [expiredOrder, AList.lookup_insert_ne, same, -AList.insert_empty] at found
  · simp [expiredOrder, AList.lookup_insert_ne, -AList.insert_empty] at found

/-- Its user asks for a refund, which is executed. -/
def requestedAndExecuted : Tid → RefundingCall
  | 0 => .requesting "user" { orderId := "order", reason := "" } false (some "key")
  | _ => .payment (.refunding "x")

def statusOf (id : Id) (pool : Pool World Input) : Option PaymentStatus :=
  (pool.state.db.committed.lookup (.payment id)).map Payment.status

/-- What the provider was asked for last. -/
def askedFor (pool : Pool World Input) : Option (Id × Option Id) :=
  match pool.state.trace with
  | .refundRequested _ refundId _ _ :: _ =>
      (pool.state.db.committed.lookup (.refund refundId)).map fun (refund : Refund) =>
        (refundId, refund.paymentId)
  | _ => none

/-- The payment has failed, which keeps nobody from refunding it. -/
theorem failed_payment_refunded
    : ∃ asked pool last,
        Steps (machine anyExpiry) (fun before after => statusOf "payment" before = some .FAILED
            ∧ statusOf "payment" after = some .FAILED)
          ⟨World.start (expiredOrder .FAILED),
            fun t => (requestedAndExecuted t).thread ⟨fun _ body => body, id⟩ {}⟩ asked
        ∧ askedFor asked = some ("x", some "payment")
        ∧ Steps (machine anyExpiry) (fun before after => statusOf "payment" before = some .FAILED
            ∧ statusOf "payment" after = some .FAILED) asked pool
        ∧ pool.move (machine anyExpiry) (.run 1 {}) = some last
        ∧ statusOf "payment" pool = some .FAILED ∧ statusOf "payment" last = some .REFUNDED := by
  have went : ((Pool.scheduleWhere (machine anyExpiry) (fun before _ after =>
        decide (statusOf "payment" before = some .FAILED
          ∧ statusOf "payment" after = some .FAILED))
      ⟨World.start (expiredOrder .FAILED),
        fun t => (requestedAndExecuted t).thread ⟨fun _ body => body, id⟩ {}⟩
      (List.replicate 13 (.run 0 { text := "x" }) ++ List.replicate 9 (.run 1 {}))).bind fun asked =>
      (Pool.scheduleWhere (machine anyExpiry) (fun before _ after =>
        decide (statusOf "payment" before = some .FAILED
          ∧ statusOf "payment" after = some .FAILED)) asked
        (List.replicate 9 (.run 1 {}))).bind fun pool =>
      (pool.move (machine anyExpiry) (.run 1 {})).map fun last =>
        (askedFor asked, statusOf "payment" pool, statusOf "payment" last))
      = some (some ("x", some "payment"), some .FAILED, some .REFUNDED) := by
    decide +kernel
  obtain ⟨asked, reached, later⟩ := Option.bind_eq_some_iff.mp went
  obtain ⟨pool, executed, later⟩ := Option.bind_eq_some_iff.mp later
  obtain ⟨last, moved, found⟩ := Option.map_eq_some_iff.mp later
  obtain ⟨request, found⟩ := Prod.mk.inj found
  obtain ⟨before, after⟩ := Prod.mk.inj found
  exact ⟨asked, pool, last, .of_schedule (fun _ check => of_decide_eq_true check) reached, request,
    .of_schedule (fun _ check => of_decide_eq_true check) executed, moved, before, after⟩

/-- Captured payments are left alone, and captured money is asked for. -/
def sparesCaptured (calls : Tid → RefundingCall) (t : Tid) (before _after : World) : Bool :=
  match calls t with
  | .requesting _ input _ _ =>
      input.asksCaptured (paymentsOf input.orderId before.db.committed)
  | call => !call.comparesNothing

/-- The evaluated check decides the condition on a step. -/
theorem sparesCaptured_of_check {calls : Tid → RefundingCall} {t : Tid} {before after : World}
    (check : sparesCaptured calls t before after = true)
    : SparesCaptured calls t before after := by
  refine ⟨fun nothing => ?_, fun userId input isAdmin header same => ?_⟩
  · cases made : calls t with
    | requesting => simp [made, comparesNothing] at nothing
    | payment call => simp [sparesCaptured, made ▸ nothing, made] at check
  · simpa [sparesCaptured, same] using check

/-- The payment has been captured before its refund is executed. -/
theorem only_captured_refunded_executed
    : ∃ pool asked, pool.move (machine anyExpiry) (.run 1 {}) = some asked
        ∧ asked.state.trace = .refundRequested 1 "x" "order" 10000 :: pool.state.trace
        ∧ ∃ refund, ∃ paymentId ∈ refund.paymentId,
          asked.state.db.committed.lookup (.refund "x") = some refund
          ∧ ∃ past, Run (machine anyExpiry) (SparesCaptured requestedAndExecuted)
              ⟨World.start (expiredOrder .SUCCEEDED),
                fun t => (requestedAndExecuted t).thread ⟨fun _ body => body, id⟩ {}⟩ past
            ∧ Run (machine anyExpiry) (SparesCaptured requestedAndExecuted) past pool
            ∧ ∃ payment, past.state.db.committed.lookup (.payment paymentId) = some payment
              ∧ payment.status = .SUCCEEDED := by
  have went : ((Pool.checkedSchedule (machine anyExpiry) (sparesCaptured requestedAndExecuted)
      ⟨World.start (expiredOrder .SUCCEEDED),
        fun t => (requestedAndExecuted t).thread ⟨fun _ body => body, id⟩ {}⟩
      (List.replicate 13 (.run 0 { text := "x" }) ++ List.replicate 8 (.run 1 {}))).bind fun pool =>
      (pool.move (machine anyExpiry) (.run 1 {})).map fun asked =>
        (decide (asked.state.trace = .refundRequested 1 "x" "order" 10000 :: pool.state.trace),
          sparesCaptured requestedAndExecuted 1 pool.state asked.state))
      = some (true, true) := by
    decide +kernel
  obtain ⟨pool, reached, later⟩ := Option.bind_eq_some_iff.mp went
  obtain ⟨asked, moved, found⟩ := Option.map_eq_some_iff.mp later
  obtain ⟨request, check⟩ := Prod.mk.inj found
  have run : Run (machine anyExpiry) (SparesCaptured requestedAndExecuted) _ pool :=
    Run.of_checkedSchedule (fun _ _ _ => sparesCaptured_of_check) reached
  have captured := only_captured_refunded (expiredOrder_unrefunded (by simp)) run moved
    fun t input same => by
      obtain ⟨rfl, _⟩ := Move.run.inj same
      exact sparesCaptured_of_check check
  exact ⟨pool, asked, moved, of_decide_eq_true request,
    captured.1 1 "x" "order" 10000 (of_decide_eq_true request)⟩

end LuminaRail
