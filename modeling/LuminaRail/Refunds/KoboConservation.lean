import LuminaRail.Model.LearntFacts
import LuminaRail.Refunds.WithinCapture

/-! The refunds of an order in kobo. What remains of a payment is computed to a hundredth of a kobo,
and each refund is rounded to whole kobo when Paystack is asked for it.
-/

namespace LuminaRail

open Concurrency Database Service RefundService

/-- An amount, in hundredths of a kobo, of at least half a kobo that is not rounded up. -/
def InKobo (amount : Int) : Prop := 50 ≤ amount ∧ amount % 100 < 50

/-- What a request asks for, as it is stored, is such an amount, unless more is asked for than is
left. Without an amount it asks for all that is left.
-/
def CreateRefundInput.AsksInKobo (input : CreateRefundInput) (left : Int) : Prop :=
  match input.amount with
  | none => 0 < left → InKobo left
  | some (.finite asked) => 0 < asked.units → asked.stored 4 ≤ left → InKobo (asked.stored 4)
  | some _ => True

/-- Half-up rounding of an amount in units of four places, as division of integers. -/
theorem toKobo_money (amount : Int) : (money amount).toKobo = (200 * amount + 10000) / 20000 := by
  norm_num [Decimal.toKobo, money]

/-- Such an amount is at least a kobo when it is sent, and no more than it is. -/
theorem InKobo.sent {amount : Int} (inKobo : InKobo amount)
    : 1 ≤ (money amount).toKobo ∧ 100 * (money amount).toKobo ≤ amount := by
  obtain ⟨half, down⟩ := inKobo
  rw [toKobo_money]
  constructor
  · omega
  · omega

/-- Every other amount is too small, or a hundred refunds of it, for which a payment of whole kobo
is enough, are sent as more.
-/
theorem not_conserved_of_not_inKobo {amount : Int} (coarse : ¬InKobo amount)
    : (money amount).toKobo < 1 ∨ (money (100 * amount)).toKobo < 100 * (money amount).toKobo := by
  unfold InKobo at coarse
  rw [toKobo_money, toKobo_money]
  omega

/-- An amount on the grid is stored as it is. -/
theorem stored_money {amount : Int} (nonneg : 0 ≤ amount) : (money amount).stored 4 = amount := by
  obtain ⟨natural, rfl⟩ := Int.eq_ofNat_of_zero_le nonneg
  have exactly := roundAway_mul natural (10 ^ 4) (by positivity)
  rw [Nat.cast_mul, Nat.cast_pow] at exactly
  exact exactly

-----------------------------------------------------------------------------------------
-- What the calls agree on
-----------------------------------------------------------------------------------------

/-- Refunds keep their amounts, and no payment is added. -/
def KeepsRefundAmounts : Server.Replaces Row
  | .refund _, old, new => ∀ row ∈ old, new.orderId = row.orderId ∧ new.amount = row.amount
  | .payment _, old, new => ∃ row ∈ old, new.orderId = row.orderId ∧ new.amount = row.amount
  | _, _, _ => True

/-- What a call may write: a refund is added by a request, and changed by an execution. -/
def CaptureCall.Amounts (orderId : Id) : CaptureCall → Server.Replaces Row
  | .creating _ _ _ _, .refund _, old, new => old = none ∧ (new.orderId = orderId → InKobo new.amount)
  | .executing _, .refund _, old, new =>
      ∃ row ∈ old, new.orderId = row.orderId ∧ new.amount = row.amount
  | .creating _ _ _ _, .payment _, _, _ => False
  | .executing _, .payment _, old, new =>
      ∃ row ∈ old, new.orderId = row.orderId ∧ new.amount = row.amount
  | _, _, _, _ => True

/-- The kobo are those of a stored refund of the order. -/
def SentFor (refundId orderId : Id) (amountInKobo : Int) (world : World) : Prop :=
  ∃ refund, world.db.committed.lookup (.refund refundId) = some refund
    ∧ refund.orderId = orderId ∧ amountInKobo = (money refund.amount).toKobo

/-- The refunds of the order are of amounts in kobo, and what has been sent are the amounts that are
stored.
-/
structure KoboRecorded (orderId : Id) (amount : Int) (world : World) : Prop where
  payments : ∀ id payment, world.db.committed.lookup (.payment id) = some payment
    → payment.orderId = orderId → payment.amount = amount
  refunds : ∀ id refund, world.db.committed.lookup (.refund id) = some refund
    → refund.orderId = orderId → InKobo refund.amount
  sent : ∀ t refundId ofOrder amountInKobo,
    .refundRequested t refundId ofOrder amountInKobo ∈ world.trace
    → SentFor refundId ofOrder amountInKobo world

/-- Whoever asks for a refund of the order asks for an amount in kobo. -/
def RequestsInKobo (calls : Tid → CaptureCall) (orderId : Id) (amount : Int) (t : Tid)
    (before _after : World) : Prop :=
  ∀ userId input isAdmin header, calls t = .creating userId input isAdmin header
    → input.orderId = orderId
    → input.AsksInKobo (amount - totalRefunded orderId before.db.committed)

/-- Two writes that keep the amounts of the refunds keep them together. -/
theorem KeepsRefundAmounts.transitive : KeepsRefundAmounts.Transitive := by
  intro key old row next first second
  cases key with
  | refund id =>
      intro before found
      obtain ⟨order, amount⟩ := first before found
      obtain ⟨order', amount'⟩ := second row rfl
      exact ⟨order'.trans order, amount'.trans amount⟩
  | payment id =>
      obtain ⟨before, found, order, amount⟩ := first
      obtain ⟨middle, replaced, order', amount'⟩ := second
      obtain rfl := Option.some.inj replaced
      exact ⟨before, found, order'.trans order, amount'.trans amount⟩
  | _ => trivial

/-- Any number of calls that create refunds and execute them. -/
def koboDiscipline (calls : Tid → CaptureCall) (orderId : Id) (amount : Int) : Discipline where
  rows := KeepsRefundAmounts
  transitive := KeepsRefundAmounts.transitive
  writes t := (calls t).Amounts orderId
  inv := KoboRecorded orderId amount
  allowed := RequestsInKobo calls orderId amount

section

variable {calls : Tid → CaptureCall} {call : CaptureCall} {orderId : Id} {amount : Int} {t : Tid}
  {world after : World}

/-- Two writes of a call are one, by cases on the call. -/
theorem CaptureCall.amounts_transitive : (call.Amounts orderId).Transitive := by
  intro key old row next first second
  cases key with
  | refund id =>
      cases call with
      | creating => exact absurd second.1 (by simp)
      | executing =>
          obtain ⟨before, found, order, amount⟩ := first
          obtain ⟨middle, replaced, order', amount'⟩ := second
          obtain rfl := Option.some.inj replaced
          exact ⟨before, found, order'.trans order, amount'.trans amount⟩
  | payment id =>
      cases call with
      | creating => exact first
      | executing =>
          obtain ⟨before, found, order, amount⟩ := first
          obtain ⟨middle, replaced, order', amount'⟩ := second
          obtain rfl := Option.some.inj replaced
          exact ⟨before, found, order'.trans order, amount'.trans amount⟩
  | _ => cases call <;> trivial

/-- What was sent for a refund stays sent for it, as its amount is kept. -/
theorem SentFor.evolve {refundId ofOrder : Id} {amountInKobo : Int}
    (sent : SentFor refundId ofOrder amountInKobo world)
    (rows : Server.Evolves KeepsRefundAmounts world.db.committed after.db.committed)
    : SentFor refundId ofOrder amountInKobo after := by
  obtain ⟨refund, found, of_order, kobo⟩ := sent
  obtain ⟨new, found'⟩ := Option.isSome_iff_exists.mp (rows.kept (by rw [found]; rfl))
  refine ⟨new, found', ?_⟩
  rcases rows.rows found' with same | kept
  · obtain rfl := Option.some.inj (found.symm.trans same)
    exact ⟨of_order, kobo⟩
  · obtain ⟨order, amount⟩ := kept refund found
    exact ⟨order.trans of_order, amount.symm ▸ kobo⟩

/-- What keeps the amounts, adds amounts in kobo and sends stored amounts. -/
theorem KoboRecorded.evolve (recorded : KoboRecorded orderId amount world)
    (rows : Server.Evolves KeepsRefundAmounts world.db.committed after.db.committed)
    (new : ∀ id refund, world.db.committed.lookup (.refund id) = none
      → after.db.committed.lookup (.refund id) = some refund → refund.orderId = orderId
      → InKobo refund.amount)
    (sends : ∀ u refundId ofOrder amountInKobo,
      .refundRequested u refundId ofOrder amountInKobo ∈ after.trace
      → .refundRequested u refundId ofOrder amountInKobo ∈ world.trace
        ∨ SentFor refundId ofOrder amountInKobo world)
    : KoboRecorded orderId amount after := by
  refine ⟨fun id payment found of_order => ?_, fun id refund found of_order => ?_,
    fun u refundId ofOrder kobo member => ?_⟩
  · rcases rows.rows found with same | ⟨row, stored, order, paid⟩
    · exact recorded.payments id payment same of_order
    · exact paid.trans (recorded.payments id row stored (order.symm.trans of_order))
  · cases old : world.db.committed.lookup (.refund id) with
    | none => exact new id refund old found of_order
    | some row =>
        rcases rows.rows found with same | kept
        · exact recorded.refunds id refund same of_order
        · obtain ⟨order, amount⟩ := kept row old
          exact amount.symm ▸ recorded.refunds id row old (order.symm.trans of_order)
  · rcases sends u refundId ofOrder kobo member with old | new
    · exact (recorded.sent u refundId ofOrder kobo old).evolve rows
    · exact new.evolve rows

/-- The invariant is about committed rows and events only. -/
theorem kobo_observable : Observable (koboDiscipline calls orderId amount).inv where
  calm world after committed trace recorded := by
    refine ⟨committed ▸ recorded.payments, committed ▸ recorded.refunds,
      fun u refundId ofOrder kobo member => ?_⟩
    rw [SentFor, committed]
    exact recorded.sent u refundId ofOrder kobo (trace ▸ member)
  crashed t world recorded := by
    refine ⟨recorded.payments, recorded.refunds, fun u refundId ofOrder kobo member => ?_⟩
    exact recorded.sent u refundId ofOrder kobo (by simpa using member)

-----------------------------------------------------------------------------------------
-- AskingKobo for a refund
-----------------------------------------------------------------------------------------

/-- What `createRefund` does: before it knows what has been refunded it stores no refund, and then
one of an amount in kobo.
-/
def askingKobo (orderId : Id) (known : Prop) (t : Tid) : Footprint where
  writes
    | .payment _, _, _ => False
    | .refund _, old, new => old = none ∧ known ∧ (new.orderId = orderId → InKobo new.amount)
    | _, _, _ => True
  events event := (∀ u ∈ event.owner, u = t)
    ∧ ∀ u refundId ofOrder amountInKobo, event ≠ .refundRequested u refundId ofOrder amountInKobo

/-- What the program has written so far it may have written with this knowledge. -/
def AskingKobo (orderId : Id) (known : Prop) (t : Tid) (world : World) : Prop :=
  Phased t (askingKobo orderId known t).writes world ∧ True

variable {known : Prop} {userId : Id} {input : CreateRefundInput} {isAdmin : Bool}
  {header : Option String} {x : TxId}

/-- Two writes of a request are one. -/
theorem askingKobo_transitive : (askingKobo orderId known t).writes.Transitive := by
  intro key old row next first second
  cases key with
  | payment id => exact first
  | refund id => exact absurd second.1 (by simp)
  | _ => trivial

/-- What a request knows of its transaction is stable. -/
theorem askingKobo_stable : (koboDiscipline calls orderId amount).accountable.Stable t
    (AskingKobo orderId known t) :=
  Protocol.Stable.and (fun _ _ _ _ relied phased => phased.stable relied.1) (Protocol.Stable.const _)

/-- The writes of every call are admitted. -/
theorem kobo_admits (t : Tid)
    : (koboDiscipline calls orderId amount).Admits
        ⟨(calls t).Amounts orderId, fun event => ∀ u ∈ event.owner, u = t⟩ t where
  transitive := CaptureCall.amounts_transitive
  writes := rfl
  events _ own := own

/-- Once it is known, it stays known. -/
theorem AskingKobo.mono {later : Prop} (asks : AskingKobo orderId known t world)
    (implies : known → later)
    : AskingKobo orderId later t world := by
  refine ⟨asks.1.mono fun key old new replaces => ?_, trivial⟩
  cases key with
  | refund id => exact ⟨replaces.1, implies replaces.2.1, replaces.2.2⟩
  | _ => exact replaces

/-- A request may add a refund in whole kobo once it knows that it asks for one. -/
theorem askingKobo_respects (same : calls t = .creating userId input isAdmin header)
    : (koboDiscipline calls orderId amount).accountable.Respects t (Step (askingKobo orderId known t) t)
        (AskingKobo orderId known t) := by
  refine (kobo_admits t).accounts_phase askingKobo_transitive ?_ (fun _ caused => caused.1) ?_
  · intro key old new replaces
    rw [same]
    cases key with
    | payment id => exact replaces
    | refund id => exact ⟨replaces.1, replaces.2.2⟩
    | _ => trivial
  intro world after recorded _ effect _
  have rows : Server.Evolves KeepsRefundAmounts world.db.committed after.db.committed := by
    refine ⟨fun {key row} shown => ?_, effect.rows.kept⟩
    refine (effect.rows.rows shown).imp_right fun replaced => ?_
    cases key with
    | payment id => exact replaced.elim
    | refund id =>
        intro old stored
        exact absurd (stored.symm.trans replaced.1) (by simp)
    | _ => trivial
  refine ⟨rows, KoboRecorded.evolve recorded rows (fun id refund absent found => ?_)
    fun u refundId ofOrder kobo member => Or.inl ?_, trivial⟩
  · rcases effect.rows.rows found with stored | replaced
    · exact absurd (absent.symm.trans stored) (by simp)
    · exact replaced.2.2
  · exact (effect.trace.mem.mp member).resolve_right fun new => new.1.2 u refundId ofOrder kobo rfl

/-- What the call does with this knowledge. -/
theorem spec_askingKobo {α : Type} {program : Service α} {Q : α → Prop}
    (same : calls t = .creating userId input isAdmin header)
    (within : Within (Step (askingKobo orderId known t) t) t program Q)
    : (koboDiscipline calls orderId amount).accountable.Spec t (AskingKobo orderId known t) program
        (fun value world => Q value ∧ AskingKobo orderId known t world)
        fun _ => AskingKobo orderId True t :=
  (Protocol.Spec.of_within within (askingKobo_respects same) askingKobo_stable).conseq
    (fun _ _ given => given) (fun _ _ _ ends => ends) fun _ _ _ ends => ends.mono fun _ => trivial

/-- At the end of the call. -/
theorem spec_askedKobo {α : Type} {program : Service α}
    (same : calls t = .creating userId input isAdmin header)
    (within : Within (Step (askingKobo orderId known t) t) t program)
    : (koboDiscipline calls orderId amount).accountable.Spec t (AskingKobo orderId known t) program
        (fun _ => AskingKobo orderId True t) fun _ => AskingKobo orderId True t :=
  (spec_askingKobo same within).conseq (fun _ _ given => given)
    (fun _ _ _ ends => ends.2.mono fun _ => trivial) fun _ _ _ ends => ends

/-- After an abort nothing is drafted any more, by cases on the transaction. -/
theorem askingKobo_aborted {client : Option TxId} {db : Server Row} {world : World}
    (asks : AskingKobo orderId known t world) (aborted : Aborted t client world.db db)
    : AskingKobo orderId True t { world with db := db } := by
  have kept : AskingKobo orderId known t { world with db := db } → _ := fun asks =>
    AskingKobo.mono asks fun _ => trivial
  refine kept ⟨?_, trivial⟩
  rcases aborted with rfl | ⟨y, client, _, rfl⟩
  · exact asks.1
  · exact asks.1.step (.rollback y) askingKobo_transitive

/-- All payments of the order are of the amount. -/
theorem spec_readPaid (own : x.owner = t)
    : (koboDiscipline calls orderId amount).accountable.Spec t (AskingKobo orderId known t)
        (select (some x) (paymentsOf input.orderId))
        (fun payments world => (∀ payment ∈ payments, input.orderId = orderId
            → payment.2.amount = amount) ∧ AskingKobo orderId known t world)
        fun _ => AskingKobo orderId True t := by
  refine spec_select (Discipline.reading_accountable kobo_observable) askingKobo_stable
    (fun world inv asks _ => ⟨fun payment member ordered => ?_, asks⟩)
    fun world db _ _ asks aborted => askingKobo_aborted asks aborted
  obtain ⟨found, of_order⟩ := mem_paymentsOf.mp member
  rw [asks.1.visible (by simpa using own) fun _ _ => id] at found
  exact inv.1.payments payment.1 payment.2 found (of_order.trans ordered)

/-- So much has been refunded of the order, and the request suits what is left. -/
structure Suits (orderId : Id) (amount : Int) (input : CreateRefundInput) (refunded : Int) : Prop where
  nonneg : 0 ≤ refunded
  asks : input.AsksInKobo (amount - refunded)

/-- Nothing has been stored when the active refunds are added up. -/
theorem spec_readRefunded (own : x.owner = t)
    (same : calls t = .creating userId input isAdmin header)
    : (koboDiscipline calls orderId amount).accountable.Spec t (AskingKobo orderId False t)
        (select (some x) fun rows =>
          (refundsOf input.orderId rows).filter fun refund => refund.2.status.isActive)
        (fun refunds world => (input.orderId = orderId → Suits orderId amount input
            (refunds.map fun refund => refund.2.amount).sum) ∧ AskingKobo orderId True t world)
        fun _ => AskingKobo orderId True t := by
  refine spec_select_allowed (Discipline.reading_accountable kobo_observable) askingKobo_stable
    (fun world inv asks _ allowed => ⟨fun ordered => ?_, asks.mono False.elim⟩)
    fun world db _ _ asks aborted => askingKobo_aborted asks aborted
  have refunds (id : Id) : (world.db.visible (some x)).lookup (.refund id)
      = world.db.committed.lookup (.refund id) :=
    asks.1.visible (by simpa using own) fun _ _ replaces => replaces.2.1
  refine ⟨List.sum_nonneg fun value member => ?_, ?_⟩
  · obtain ⟨⟨id, refund⟩, listed, rfl⟩ := List.mem_map.mp member
    obtain ⟨found, of_order⟩ := mem_refundsOf.mp (List.mem_filter.mp listed).1
    rw [refunds] at found
    have inKobo := inv.1.refunds id refund found (of_order.trans ordered)
    exact le_trans (by norm_num) inKobo.1
  · rw [sum_refundsOf, ordered, totalRefunded_eq orderId refunds]
    exact allowed userId input isAdmin header same ordered

/-- The amount that is asked for is the one of the request, or all that remains. -/
theorem within_requestedInKobo (input : CreateRefundInput) (remaining : Decimal)
    : Within (Step (askingKobo orderId known t) t) t (requestedAmount input remaining) fun asked =>
        input.amount = none ∧ asked = remaining ∨ input.amount = some (.finite asked) := by
  unfold requestedAmount
  split
  · exact Within.pure (Or.inl ⟨‹_›, rfl⟩)
  · exact Within.pure (Or.inr ‹_›)
  · exact Within.throw _
  · exact Within.throw _

/-- The checks of `createRefund` let only such amounts pass as the request is known to ask for. -/
theorem Suits.inKobo {refunded : Int} {asked : Decimal} (suits : Suits orderId amount input refunded)
    (fits : amount < 10 ^ 18) (some_left : ¬amount - refunded ≤ 0)
    (requested : input.amount = none ∧ asked = money (amount - refunded)
      ∨ input.amount = some (.finite asked))
    (positive : ¬asked.units ≤ 0) (within : ¬((money refunded).plus asked).gt (money amount))
    : InKobo (asked.stored 4) := by
  have asks := suits.asks
  unfold CreateRefundInput.AsksInKobo at asks
  rcases requested with ⟨unnamed, rfl⟩ | named
  · rw [unnamed] at asks
    rw [stored_money (by omega)]
    exact asks (by omega)
  · rw [named] at asks
    have stored := Decimal.add_stored_le suits.nonneg (by omega) fits (by omega) within
    exact asks (by omega) (by omega)

/-- A request inserts its amount, which is whole kobo if the others are. -/
theorem spec_insertInKobo (own : x.owner = t) (fits : amount < 10 ^ 18)
    (same : calls t = .creating userId input isAdmin header) (order : Order) (paymentId : Id)
    {payment : Payment} (paid : input.orderId = orderId → payment.amount = amount)
    (generatedKey : String)
    : (koboDiscipline calls orderId amount).accountable.Spec t (AskingKobo orderId False t)
        (insertRefund x userId input order paymentId payment generatedKey)
        (fun _ => AskingKobo orderId True t) fun _ => AskingKobo orderId True t := by
  refine Protocol.Spec.bind (spec_readRefunded own same) fun refunds => ?_
  refine Protocol.Spec.assume fun suits => spec_askedKobo same ?_
  refine Within.bind within_throwIf fun _ some_left => ?_
  refine Within.bind (within_requestedInKobo input _) fun asked requested => ?_
  refine Within.bind within_throwIf fun _ positive => ?_
  refine Within.bind within_throwIf fun _ within => Within.bind within_throwIf fun _ _ => ?_
  refine Within.bind (within_updateIn own fun row => trivial) fun _ _ => ?_
  refine Within.bind within_randomText fun id _ => Within.bind within_now fun time _ => ?_
  refine Within.bind (Q := fun _ => True) (within_create (by simpa using own)
    (fun entry member => ?_) trivial) fun _ _ => Within.pure trivial
  simp only [List.mem_cons, List.not_mem_nil, or_false] at member
  rcases member with rfl | rfl
  · refine ⟨rfl, trivial, fun ordered => ?_⟩
    rw [paid ordered] at some_left requested within
    exact (suits ordered).inKobo fits some_left requested positive within
  · trivial

/-- The transaction of a request reads, compares and inserts. -/
theorem spec_askInKobo (own : x.owner = t) (fits : amount < 10 ^ 18)
    (same : calls t = .creating userId input isAdmin header) (idempotencyKey : Option String)
    : (koboDiscipline calls orderId amount).accountable.Spec t (AskingKobo orderId False t)
        (createRefundInTx x userId input isAdmin idempotencyKey)
        (fun _ => AskingKobo orderId True t) fun _ => AskingKobo orderId True t := by
  refine Protocol.Spec.bind (spec_askingKobo same (within_selectForUpdate own)) fun _ => ?_
  refine Protocol.Spec.assume fun _ => ?_
  refine Protocol.Spec.bind (spec_askingKobo same within_findUnique) fun found => ?_
  refine Protocol.Spec.assume fun _ => ?_
  cases found with
  | none => exact spec_askedKobo same (Within.throw _)
  | some order =>
      refine Protocol.Spec.bind (spec_readPaid own) fun payments => ?_
      refine Protocol.Spec.assume fun paid => ?_
      refine Protocol.Spec.bind (spec_askingKobo same within_findUnique) fun settlement => ?_
      refine Protocol.Spec.assume fun _ => ?_
      refine Protocol.Spec.bind (spec_askingKobo same within_throwIf) fun _ => ?_
      refine Protocol.Spec.assume fun _ => ?_
      refine Protocol.Spec.bind (spec_askingKobo same within_throwIf) fun _ => ?_
      refine Protocol.Spec.assume fun _ => ?_
      refine Protocol.Spec.bind (spec_askingKobo same within_throwIf) fun _ => ?_
      refine Protocol.Spec.assume fun _ => ?_
      dsimp only
      split
      · exact spec_askedKobo same (Within.throw _)
      split
      · exact spec_askedKobo same (Within.throw _)
      rename_i paymentId payment chosen
      have listed : (paymentId, payment) ∈ payments := by
        split at chosen
        · exact List.mem_of_find?_eq_some chosen
        · rcases Option.or_eq_some_iff.mp chosen with first | ⟨_, head⟩
          · exact List.mem_of_find?_eq_some first
          · exact List.mem_of_mem_head? head
      refine Protocol.Spec.bind (spec_askingKobo same within_now) fun time => ?_
      refine Protocol.Spec.assume fun _ => ?_
      refine Protocol.Spec.bind (spec_askingKobo same (within_select (Q := fun _ => True)
        fun _ => trivial)) fun found => ?_
      refine Protocol.Spec.assume fun _ => ?_
      cases found with
      | none => exact spec_insertInKobo own fits same order paymentId (paid _ listed) _
      | some existing =>
          exact spec_askedKobo same (Within.bind within_throwIf fun _ _ => Within.pure trivial)

/-- A request asks for whole kobo only, by the rule for transactions. -/
theorem spec_requestInKobo (fits : amount < 10 ^ 18)
    (same : calls t = .creating userId input isAdmin header)
    : (koboDiscipline calls orderId amount).accountable.Spec t (AskingKobo orderId False t)
        (createRefund userId input isAdmin header) (fun _ => AskingKobo orderId True t)
        fun _ => AskingKobo orderId True t := by
  refine Protocol.Spec.bind (spec_askingKobo same within_begin) fun x => ?_
  refine Protocol.Spec.assume fun own => ?_
  refine Protocol.Spec.bind (Q := fun _ => AskingKobo orderId True t)
    (Protocol.Spec.tryCatch (spec_askInKobo own fits same _) fun error => ?_) fun _ => ?_
  · exact spec_askedKobo same (Within.bind within_rollback fun _ _ => Within.throw error)
  · exact spec_askedKobo same (Within.bind (within_commit own) fun _ _ => Within.pure trivial)

-----------------------------------------------------------------------------------------
-- Executing a refund
-----------------------------------------------------------------------------------------

/-- What `executeRefund` does: it sends the amount of the refund that it has read, if it has. -/
def sending (refundId : Id) (read : Option Refund) (t : Tid) : Footprint where
  writes
    | .payment _, old, new => ∃ row ∈ old, new.orderId = row.orderId ∧ new.amount = row.amount
    | .refund _, old, new => ∃ row ∈ old, new.orderId = row.orderId ∧ new.amount = row.amount
    | _, _, _ => True
  events event := (∀ u ∈ event.owner, u = t) ∧ ∀ u id ofOrder amountInKobo,
    event = .refundRequested u id ofOrder amountInKobo → ∃ refund ∈ read, id = refundId
      ∧ ofOrder = refund.orderId ∧ amountInKobo = (money refund.amount).toKobo

/-- The refund that has been read is there, with its order and its amount. -/
def Sending (refundId : Id) (read : Option Refund) (t : Tid) (world : World) : Prop :=
  Phased t (sending refundId read t).writes world
    ∧ ∀ refund ∈ read, SentFor refundId refund.orderId (money refund.amount).toKobo world

variable {refundId : Id} {read : Option Refund}

/-- Two writes of an execution are one. -/
theorem sending_transitive : (sending refundId read t).writes.Transitive := by
  intro key old row next first second
  cases key with
  | refund id | payment id =>
      obtain ⟨before, found, order, amount⟩ := first
      obtain ⟨middle, replaced, order', amount'⟩ := second
      obtain rfl := Option.some.inj replaced
      exact ⟨before, found, order'.trans order, amount'.trans amount⟩
  | _ => trivial

/-- The refund that an execution has read keeps its amount. -/
theorem sending_stable : (koboDiscipline calls orderId amount).accountable.Stable t
    (Sending refundId read t) :=
  Protocol.Stable.and (fun _ _ _ _ relied phased => phased.stable relied.1)
    fun _ _ _ _ relied known refund there => (known refund there).evolve relied.2.1

/-- A send of the amount that was read is allowed. -/
theorem sending_respects (same : calls t = .executing refundId)
    : (koboDiscipline calls orderId amount).accountable.Respects t
        (Step (sending refundId read t) t) (Sending refundId read t) := by
  refine (kobo_admits t).accounts_phase sending_transitive ?_ (fun _ caused => caused.1) ?_
  · intro key old new replaces
    rw [same]
    cases key with
    | payment id | refund id => exact replaces
    | _ => trivial
  intro world after recorded known effect _
  have rows : Server.Evolves KeepsRefundAmounts world.db.committed after.db.committed := by
    refine ⟨fun {key row} shown => ?_, effect.rows.kept⟩
    refine (effect.rows.rows shown).imp_right fun replaced => ?_
    cases key with
    | payment id => exact replaced
    | refund id =>
        intro old stored
        obtain ⟨before, found, kept⟩ := replaced
        exact Option.some.inj (stored.symm.trans found) ▸ kept
    | _ => trivial
  refine ⟨rows, KoboRecorded.evolve recorded rows (fun id refund absent found => ?_)
    fun u id ofOrder kobo member => ?_, fun refund there => (known refund there).evolve rows⟩
  · rcases effect.rows.rows found with stored | ⟨row, before, _⟩
    · exact absurd (absent.symm.trans stored) (by simp)
    · exact absurd (absent.symm.trans before) (by simp)
  · refine (effect.trace.mem.mp member).imp_right fun new => ?_
    obtain ⟨refund, there, rfl, rfl, rfl⟩ := new.1.2 u id ofOrder kobo rfl
    exact known refund there

/-- An execution may send the amount of the refund that it has read. -/
theorem sending_allowsRefund : (sending refundId read t).AllowsRefund t where
  pool _ _ _ := trivial
  reservation _ _ _ := trivial
  treasury _ _ _ := trivial
  refund _ row _ same _ := ⟨row, rfl, same.orderId, same.amount⟩
  payment _ row _ := ⟨row, rfl, rfl, rfl⟩
  order _ _ _ _ := trivial
  checked _ _ _ _ := ⟨by simp [Event.owner], by simp⟩

/-- What is known of the refund stays known. -/
theorem spec_sending {α : Type} {program : Service α} {Q : α → Prop}
    (same : calls t = .executing refundId)
    (within : Within (Step (sending refundId read t) t) t program Q)
    : (koboDiscipline calls orderId amount).accountable.Spec t (Sending refundId read t) program
        (fun value world => Q value ∧ Sending refundId read t world)
        fun _ world => ∃ read, Sending refundId read t world :=
  (Protocol.Spec.of_within within (sending_respects same) sending_stable).conseq
    (fun _ _ given => given) (fun _ _ _ ends => ends) fun _ _ _ ends => ⟨read, ends⟩

/-- A part of an execution within its footprint keeps what was read. -/
theorem spec_sent {α : Type} {program : Service α} (same : calls t = .executing refundId)
    (within : Within (Step (sending refundId read t) t) t program)
    : (koboDiscipline calls orderId amount).accountable.Spec t (Sending refundId read t) program
        (fun _ world => ∃ read, Sending refundId read t world)
        fun _ world => ∃ read, Sending refundId read t world :=
  (spec_sending same within).conseq (fun _ _ given => given)
    (fun _ _ _ ends => ⟨read, ends.2⟩) fun _ _ _ ends => ends

/-- The refund that is read is the one whose amount is sent. -/
theorem spec_readSent
    : (koboDiscipline calls orderId amount).accountable.Spec t (Sending refundId none t)
        (findUniqueOrThrow none (.refund refundId))
        (fun refund => Sending refundId (some refund) t)
        fun _ world => ∃ read, Sending refundId read t world := by
  refine spec_findUniqueOrThrow (Discipline.reading_accountable kobo_observable) sending_stable
    (fun world refund inv given _ found => ⟨given.1, fun other there => ?_⟩)
    fun world db _ _ given aborted => ?_
  · obtain rfl := Option.some.inj there
    exact ⟨refund, found, rfl, rfl⟩
  · rcases aborted with rfl | ⟨y, client, _⟩
    · exact ⟨none, given⟩
    · simp at client

/-- The amount that is sent is the one that has been read. -/
theorem spec_sendClaimed (same : calls t = .executing refundId) (config : Config)
    (lock : Option DistributedLock)
    : (koboDiscipline calls orderId amount).accountable.Spec t (Sending refundId none t)
        (executeClaimedRefund config refundId lock)
        (fun _ world => ∃ read, Sending refundId read t world)
        fun _ world => ∃ read, Sending refundId read t world := by
  refine Protocol.Spec.bind spec_readSent fun refund => ?_
  refine spec_sent same (Within.bind within_findUniqueOrThrow fun order _ => ?_)
  refine Within.bind (within_paymentOf refund) fun payment _ => ?_
  refine Within.bind (within_get config _) fun provider _ => ?_
  refine Within.bind (within_throwIfLost lock _) fun _ _ => ?_
  refine Within.bind (Q := fun _ => True) ?_ fun response _ => ?_
  · refine Within.bind (within_emit ⟨by simp [Event.owner], ?_⟩) fun _ _ => ?_
    · intro u id ofOrder kobo asked
      obtain ⟨rfl, rfl, rfl, rfl⟩ := Event.refundRequested.inj asked
      exact ⟨refund, rfl, rfl, rfl, rfl⟩
    refine Within.bind (within_providerRefund config provider _) fun response _ => ?_
    exact Within.bind (within_emit ⟨by simp [Event.owner], by simp⟩) fun _ _ => Within.pure trivial
  · exact within_settleRefund sending_allowsRefund refundId (fun _ _ => trivial) order response

/-- Under its lock an execution reads its refund and sends the amount. -/
theorem spec_sendLocked (same : calls t = .executing refundId) (config : Config)
    (lock : Option DistributedLock)
    : (koboDiscipline calls orderId amount).accountable.Spec t (Sending refundId none t)
        (executeRefundLocked config refundId lock)
        (fun _ world => ∃ read, Sending refundId read t world)
        fun _ world => ∃ read, Sending refundId read t world := by
  refine Protocol.Spec.bind (spec_sending same within_findUnique) fun found => ?_
  refine Protocol.Spec.assume fun _ => ?_
  cases found with
  | none => exact spec_sent same (Within.throw _)
  | some refund =>
      dsimp only
      split
      · exact spec_sent same (Within.pure trivial)
      split
      · exact spec_sent same (Within.pure trivial)
      refine Protocol.Spec.bind (spec_sending same (within_throwIfLost lock _)) fun _ => ?_
      refine Protocol.Spec.assume fun _ => ?_
      refine Protocol.Spec.bind (spec_sending same within_throwIf) fun _ => ?_
      refine Protocol.Spec.assume fun _ => ?_
      refine Protocol.Spec.bind (spec_sending same (within_claim ?_ fun row _ => ?_)) fun count => ?_
      · exact ⟨by simp [Event.owner], by simp⟩
      · exact ⟨row, rfl, rfl, rfl⟩
      refine Protocol.Spec.assume fun _ => ?_
      split
      · exact spec_sent same within_findUniqueOrThrow
      · exact spec_sendClaimed same config lock

/-- An execution sends the amount of its refund, by the rule for the lock. -/
theorem spec_executeInKobo (same : calls t = .executing refundId) (config : Config)
    : (koboDiscipline calls orderId amount).accountable.Spec t (Sending refundId none t)
        (executeRefund config refundId) (fun _ world => ∃ read, Sending refundId read t world)
        fun _ world => ∃ read, Sending refundId read t world := by
  refine Protocol.Spec.bind (spec_sending same (within_acquire config _)) fun lock => ?_
  refine Protocol.Spec.assume fun own => ?_
  refine spec_finally' (spec_sendLocked same config lock) ?_
  exact Protocol.Spec.exists fun read => spec_sent same (within_releaseAny own)

/-- Every call is safe, by cases on the call. -/
theorem CaptureCall.kobo_safe (fits : amount < 10 ^ 18) (config : Config) {rows : AList Row}
    (holds : (koboDiscipline calls orderId amount).accountable.inv (World.start rows))
    : (koboDiscipline calls orderId amount).accountable.Safe t (fun _ _ => True)
        ((calls t).thread config) (World.start rows) := by
  cases same : calls t with
  | creating userId input isAdmin header =>
      refine Service.thread_safe ((spec_requestInKobo fits same).conseq (fun _ _ given => given)
        (fun _ _ _ _ => trivial) fun _ _ _ ends => ends) holds ?_
      exact ⟨Phased.start t _ rows, trivial⟩
  | executing refundId =>
      refine Service.thread_safe ((spec_executeInKobo same config).conseq (fun _ _ given => given)
        (fun _ _ _ _ => trivial) fun _ _ _ ends => ends) holds ?_
      exact ⟨Phased.start t _ rows, fun _ none_read => absurd none_read (Option.not_mem_none _)⟩

end

-----------------------------------------------------------------------------------------
-- Runs
-----------------------------------------------------------------------------------------

/-- Refunds that the provider has been asked for and that have not failed, each once. -/
structure Sent (orderId : Id) (world : World) (sent : List (Id × Int)) : Prop where
  once : (sent.map Prod.fst).Nodup
  requested : ∀ entry ∈ sent, ∃ t, .refundRequested t entry.1 orderId entry.2 ∈ world.trace
  active : ∀ entry ∈ sent, ∃ refund, world.db.committed.lookup (.refund entry.1) = some refund
    ∧ refund.status.isActive

/-- Every request is for at least a kobo, and all that have been sent for refunds that have not
failed add up to no more than has been captured.
-/
structure KoboConserved (orderId : Id) (capturedInKobo : Int) (world : World) : Prop where
  positive : ∀ t refundId amountInKobo,
    .refundRequested t refundId orderId amountInKobo ∈ world.trace → 1 ≤ amountInKobo
  within : ∀ sent, Sent orderId world sent → (sent.map Prod.snd).sum ≤ capturedInKobo

/-- No two executions of a refund overlap, and what is asked of the order are amounts in kobo. -/
structure AsksInKobo (config : Config) (calls : Tid → CaptureCall) (orderId : Id) (amount : Int)
    (before after : Pool World Input) : Prop where
  one : OneExecution config calls before after
  asks : ∀ t input, before.move (machine anyExpiry) (.run t input) = some after
    → RequestsInKobo calls orderId amount t before.state after.state

section

variable {config : Config} {calls : Tid → CaptureCall} {orderId : Id} {amount : Int}
  {rows : AList Row} {world : World} {last : Pool World Input}

/-- What was sent in all was sent in part. -/
theorem Sent.tail {entry : Id × Int} {sent : List (Id × Int)}
    (all : Sent orderId world (entry :: sent))
    : Sent orderId world sent :=
  ⟨(List.nodup_cons.mp all.once).2, fun other member => all.requested other (.tail _ member),
    fun other member => all.active other (.tail _ member)⟩

/-- The refunds that have been sent are among the active ones of the order, by induction on them. -/
theorem Sent.refunds {sent : List (Id × Int)} (recorded : KoboRecorded orderId amount world)
    (all : Sent orderId world sent)
    : ∃ refunds : List (Id × Refund), refunds.map Prod.fst = sent.map Prod.fst
      ∧ (∀ refund ∈ refunds, refund ∈ (refundsOf orderId world.db.committed).filter fun refund =>
        refund.2.status.isActive)
      ∧ 100 * (sent.map Prod.snd).sum ≤ (refunds.map fun refund => refund.2.amount).sum := by
  induction sent with
  | nil => exact ⟨[], rfl, by simp, by simp⟩
  | cons entry sent ih =>
      obtain ⟨refunds, names, listed, le⟩ := ih all.tail
      obtain ⟨t, requested⟩ := all.requested entry List.mem_cons_self
      obtain ⟨refund, found, active⟩ := all.active entry List.mem_cons_self
      obtain ⟨row, found', of_order, kobo⟩ := recorded.sent t entry.1 orderId entry.2 requested
      obtain rfl := Option.some.inj (found.symm.trans found')
      have sent_le := (recorded.refunds entry.1 refund found of_order).sent.2
      refine ⟨(entry.1, refund) :: refunds, by simp [names], fun other member => ?_, ?_⟩
      · rcases List.mem_cons.mp member with rfl | later
        · exact List.mem_filter.mpr ⟨mem_refundsOf.mpr ⟨found, of_order⟩, active⟩
        · exact listed other later
      · rw [← kobo] at sent_le
        simp only [List.map_cons, List.sum_cons]
        linarith

/-- What has been sent is no more than what is refunded of the order. -/
theorem Sent.sum_le {sent : List (Id × Int)} (recorded : KoboRecorded orderId amount world)
    (all : Sent orderId world sent)
    : 100 * (sent.map Prod.snd).sum ≤ totalRefunded orderId world.db.committed := by
  obtain ⟨refunds, names, listed, le⟩ := all.refunds recorded
  have once : refunds.Nodup := List.Nodup.of_map Prod.fst (names ▸ all.once)
  obtain ⟨among, same, sublist⟩ := once.subperm listed
  have sums := same.map fun refund : Id × Refund => refund.2.amount
  rw [← sum_refundsOf, ← sums.sum_eq] at *
  refine le.trans (List.Sublist.sum_le_sum (sublist.map _) fun value member => ?_)
  obtain ⟨⟨id, refund⟩, active, rfl⟩ := List.mem_map.mp member
  obtain ⟨found, of_order⟩ := mem_refundsOf.mp (List.mem_filter.mp active).1
  have inKobo := recorded.refunds id refund found of_order
  exact le_trans (by norm_num) inKobo.1

/-- Every send is one of a refund of the order, in the amount that is stored. -/
theorem kobo_recorded (fits : amount < 10 ^ 18) (captured : WithinCapture orderId amount rows)
    (inKobo : ∀ id refund, rows.lookup (.refund id) = some refund → refund.orderId = orderId
      → InKobo refund.amount)
    (steps : Steps (machine anyExpiry) (AsksInKobo config calls orderId amount)
      ⟨World.start rows, fun t => (calls t).thread config⟩ last)
    : KoboRecorded orderId amount last.state := by
  have holds : (koboDiscipline calls orderId amount).inv (World.start rows) :=
    ⟨captured.payments, inKobo, fun _ _ _ _ member => absurd member List.not_mem_nil⟩
  have run : Run (machine anyExpiry) (koboDiscipline calls orderId amount).allowed _ last :=
    steps.allowed fun _ _ _ _ asked moved => asked.asks _ _ moved
  exact (Discipline.accountable_verified kobo_observable rfl holds
    (fun t => CaptureCall.kobo_safe fits config ⟨holds, Server.AllJustified.start rows⟩) run).inv.1

/-- However the calls interleave, fail and crash: as long as no two executions of a refund overlap
and everything that is asked of an order is an amount in kobo, what the provider is asked for is at
least a kobo each and adds up to no more than has been captured. What is sent are the stored amounts,
which are not rounded up, and these are within the capture.
-/
theorem kobo_conserved (fits : amount < 10 ^ 18) (whole : 100 ∣ amount)
    (captured : WithinCapture orderId amount rows)
    (inKobo : ∀ id refund, rows.lookup (.refund id) = some refund → refund.orderId = orderId
      → InKobo refund.amount)
    (steps : Steps (machine anyExpiry) (AsksInKobo config calls orderId amount)
      ⟨World.start rows, fun t => (calls t).thread config⟩ last)
    : KoboConserved orderId (money amount).toKobo last.state := by
  have recorded := kobo_recorded fits captured inKobo steps
  have total := (capture_verified fits captured (steps.mono fun _ _ asked => asked.one)).1.inv.1.total
  refine ⟨fun t refundId kobo member => ?_, fun sent all => ?_⟩
  · obtain ⟨refund, found, of_order, rfl⟩ := recorded.sent t refundId orderId kobo member
    exact (recorded.refunds refundId refund found of_order).sent.1
  · have sent_le := all.sum_le recorded
    rw [toKobo_money]
    omega

end

/-- An order that has failed after so much was paid for it through Paystack. -/
def failedAfter (amount : Int) : AList Row :=
  ((∅ : AList Row).insert (.order "order")
    ({ userId := "user", quoteId := "quote", status := .FAILED, sourceCurrency := "NGN",
       destinationAsset := "USDC", sourceAmount := amount, destinationAmount := 700000 }
      : Order)).insert (.payment "payment")
    ({ orderId := "order", userId := "user", provider := "PAYSTACK_NGN_BANK_TRANSFER",
       amount := amount, currency := "NGN", status := .SUCCEEDED, reference := "PAY_1" } : Payment)

/-- Half of the payment is asked for twice, and both refunds are executed. -/
def halves (half : Decimal) : Tid → CaptureCall
  | 2 => .executing "first"
  | 3 => .executing "second"
  | _ => .creating "admin"
      { orderId := "order", amount := some (.finite half), reason := "partial" } true none

/-- Witness: the rows that the run starts with have no refund. -/
theorem failedAfter_unrefunded (amount : Int) (id : Id)
    : (failedAfter amount).lookup (.refund id) = none := by
  simp [failedAfter, AList.lookup_insert_ne, -AList.insert_empty]

/-- Witness: the rows that the run starts with are within the capture. -/
theorem failedAfter_captured {amount : Int} (nonneg : 0 ≤ amount)
    : WithinCapture "order" amount (failedAfter amount) := by
  refine ⟨fun id payment found _ => ?_, fun id refund found => ?_, ?_⟩
  · by_cases same : id = "payment"
    · subst same
      obtain rfl := Option.some.inj ((AList.lookup_insert _).symm.trans found)
      rfl
    · rw [failedAfter, AList.lookup_insert_ne (by simpa using same),
        AList.lookup_insert_ne (by simp)] at found
      simp at found
  · simp [failedAfter_unrefunded] at found
  · rw [← sum_refundsOf]
    exact nonneg

/-- The two calls of the run that execute a refund. -/
theorem halves_executing {half : Decimal} {t : Tid} {refundId : Id}
    (executes : halves half t = .executing refundId)
    : t = 2 ∧ refundId = "first" ∨ t = 3 ∧ refundId = "second" := by
  unfold halves at executes
  split at executes
  · exact Or.inl ⟨rfl, (CaptureCall.executing.inj executes).symm⟩
  · exact Or.inr ⟨rfl, (CaptureCall.executing.inj executes).symm⟩
  · cases executes

/-- The two refunds are executed by one call each. -/
theorem halves_oneExecution (config : Config) (half : Decimal) (before after : Pool World Input)
    : OneExecution config (halves half) before after := by
  intro t u refundId input first second other
  rcases halves_executing first with ⟨rfl, rfl⟩ | ⟨rfl, rfl⟩
  · rcases halves_executing second with ⟨rfl, _⟩ | ⟨_, same⟩
    · exact absurd rfl other
    · exact absurd same (by decide)
  · rcases halves_executing second with ⟨_, same⟩ | ⟨rfl, _⟩
    · exact absurd same (by decide)
    · exact absurd rfl other

/-- Both halves are accepted and sent to the provider, one after the other. -/
def halvesSent (half : Decimal) (amount : Int) : Option (Pool World Input) :=
  Pool.scheduleWhere (machine anyExpiry) (fun _ _ _ => true)
    ⟨World.start (failedAfter amount), fun t => (halves half t).thread paystackConfig⟩
    (List.replicate 13 (.run 0 { text := "first" }) ++ [.env (.tick 1)]
      ++ List.replicate 13 (.run 1 { text := "second" }) ++ List.replicate 9 (.run 2 {})
      ++ List.replicate 9 (.run 3 {}))

/-- The requests of the two halves and the statuses of their refunds. -/
def sentHalves (amountInKobo : Int) (pool : Pool World Input) : List Bool :=
  [decide (.refundRequested 2 "first" "order" amountInKobo ∈ pool.state.trace),
    decide (.refundRequested 3 "second" "order" amountInKobo ∈ pool.state.trace),
    (pool.state.db.committed.lookup (.refund "first")).any fun refund : Refund =>
      refund.status.isActive,
    (pool.state.db.committed.lookup (.refund "second")).any fun refund : Refund =>
      refund.status.isActive]

/-- What was evaluated of the pool says that both halves were sent. -/
theorem sent_of_halves {amountInKobo : Int} {pool : Pool World Input}
    (both : sentHalves amountInKobo pool = [true, true, true, true])
    : Sent "order" pool.state [("first", amountInKobo), ("second", amountInKobo)] := by
  simp only [sentHalves, List.cons.injEq, decide_eq_true_eq, Option.any_eq_true, and_true] at both
  obtain ⟨first, second, ⟨row, found, active⟩, row', found', active'⟩ := both
  refine ⟨by simp, fun entry member => ?_, fun entry member => ?_⟩
  · rcases List.mem_pair.mp member with rfl | rfl
    · exact ⟨2, first⟩
    · exact ⟨3, second⟩
  · rcases List.mem_pair.mp member with rfl | rfl
    · exact ⟨row, found, active⟩
    · exact ⟨row', found', active'⟩

/-- Halves of whole kobo are conserved. -/
theorem kobo_conserved_halves
    : ∃ last : Pool World Input, Sent "order" last.state [("first", 5000), ("second", 5000)]
        ∧ KoboConserved "order" (money 1000000).toKobo last.state := by
  have went : (halvesSent ⟨50, 0⟩ 1000000).map (sentHalves 5000) = some [true, true, true, true] := by
    decide +kernel
  obtain ⟨last, reached, both⟩ := Option.map_eq_some_iff.mp went
  refine ⟨last, sent_of_halves both, kobo_conserved (by norm_num) (by norm_num)
    (failedAfter_captured (by norm_num)) (fun id refund found => ?_)
    (Steps.of_schedule (fun _ _ => ⟨halves_oneExecution _ _ _ _, ?_⟩) reached)⟩
  · simp [failedAfter_unrefunded] at found
  · intro t input _ userId asked isAdmin header requests _
    unfold halves at requests
    split at requests
    · cases requests
    · cases requests
    · obtain ⟨rfl, rfl, rfl, rfl⟩ := CaptureCall.creating.inj requests
      exact fun _ _ => ⟨by decide, by decide⟩

/-- Of 67 kobo two halves are refunded, of 34 kobo each. -/
theorem kobo_not_conserved
    : WithinCapture "order" 6700 (failedAfter 6700)
      ∧ ∃ last, Steps (machine anyExpiry) (OneExecution paystackConfig (halves ⟨335, 3⟩))
          ⟨World.start (failedAfter 6700), fun t => (halves ⟨335, 3⟩ t).thread paystackConfig⟩ last
        ∧ ¬KoboConserved "order" (money 6700).toKobo last.state := by
  have went : (halvesSent ⟨335, 3⟩ 6700).map (sentHalves 34) = some [true, true, true, true] := by
    decide +kernel
  obtain ⟨last, reached, both⟩ := Option.map_eq_some_iff.mp went
  refine ⟨failedAfter_captured (by norm_num), last, Steps.of_schedule
    (fun _ _ => halves_oneExecution _ _ _ _) reached, fun conserved => ?_⟩
  have within := conserved.within _ (sent_of_halves both)
  rw [toKobo_money] at within
  norm_num at within

end LuminaRail
