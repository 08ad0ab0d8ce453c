import LuminaRail.Model.Phases
import LuminaRail.Model.Queries
import LuminaRail.Services.Footprints

/-! How much of an order is refunded. Whoever creates a refund adds up the active ones under the
lock of the order, and whoever executes one revives none, as long as nobody else executes it at the
same time.
-/

namespace LuminaRail

open Concurrency Database Service RefundService

/-- The calls that write refunds. -/
inductive CaptureCall
  | creating (userId : Id) (input : CreateRefundInput) (isAdmin : Bool)
    (idempotencyKeyHeader : Option String)
  | executing (refundId : Id)

def CaptureCall.thread (config : Config) : CaptureCall → Program World Input Unit
  | .creating userId input isAdmin idempotencyKeyHeader =>
      (createRefund userId input isAdmin idempotencyKeyHeader).thread
  | .executing refundId => (executeRefund config refundId).thread

-----------------------------------------------------------------------------------------
-- Active refunds
-----------------------------------------------------------------------------------------

/-- What a row counts among the active refunds of an order. -/
def activeAmount (orderId : Id) : Sigma Row → Int
  | ⟨.refund _, (refund : Refund)⟩ =>
      if refund.orderId = orderId ∧ refund.status.isActive then refund.amount else 0
  | _ => 0

/-- The amounts of the PENDING, PROCESSING and SUCCEEDED refunds of an order. -/
def totalRefunded (orderId : Id) (rows : AList Row) : Int := total (activeAmount orderId) rows

/-- It is the sum that `createRefund` computes, by induction on the rows. -/
theorem sum_refundsOf (orderId : Id) (rows : AList Row)
    : (((refundsOf orderId rows).filter fun refund => refund.2.status.isActive).map
        fun refund => refund.2.amount).sum = totalRefunded orderId rows := by
  rw [refundsOf, totalRefunded, total]
  induction rows.entries with
  | nil => rfl
  | cons entry entries ih =>
      rw [List.map_cons, List.sum_cons, ← ih]
      obtain ⟨key, row⟩ := entry
      cases key with
      | refund id =>
          by_cases of_order : (row : Refund).orderId = orderId <;>
            by_cases active : (row : Refund).status.isActive <;>
              simp [activeAmount, of_order, active]
      | _ => simp [activeAmount]

section

variable {before after : AList Row}

/-- Only the rows of refunds count. -/
theorem totalRefunded_le (orderId : Id)
    (le : ∀ id, weightAt (activeAmount orderId) after (.refund id)
      ≤ weightAt (activeAmount orderId) before (.refund id))
    : totalRefunded orderId after ≤ totalRefunded orderId before := by
  refine total_le_total fun key => ?_
  cases key with
  | refund id => exact le id
  | _ =>
      rw [weightAt, weightAt]
      cases after.lookup _ <;> cases before.lookup _ <;> exact le_refl _

/-- The total depends on the refunds only. -/
theorem totalRefunded_eq (orderId : Id)
    (same : ∀ id, after.lookup (.refund id) = before.lookup (.refund id))
    : totalRefunded orderId after = totalRefunded orderId before := by
  refine le_antisymm (totalRefunded_le orderId fun id => ?_) (totalRefunded_le orderId fun id => ?_)
  all_goals rw [weightAt, weightAt, same]

end

-----------------------------------------------------------------------------------------
-- Who executes a refund
-----------------------------------------------------------------------------------------

/-- Who claims the refund. -/
def Event.claimedBy (refundId : Id) : Event → Option Tid
  | .refundClaimed t id _ => if id = refundId then some t else none
  | _ => none

/-- The program that was last to claim the refund. -/
def claimant (refundId : Id) (trace : List Event) : Option Tid :=
  trace.findSome? (Event.claimedBy refundId)

/-- Only a claim of the refund is claimed by somebody, by cases on the event. -/
theorem claimedBy_eq_some {refundId : Id} {event : Event} {t : Tid}
    : event.claimedBy refundId = some t ↔ ∃ status, event = .refundClaimed t refundId status := by
  cases event <;> simp [Event.claimedBy, and_comm]

/-- The last of the later claims counts, and otherwise the last of the earlier ones. -/
theorem claimant_append (refundId : Id) (events trace : List Event)
    : claimant refundId (events ++ trace)
      = (claimant refundId events).or (claimant refundId trace) :=
  List.findSome?_append

/-- A claim makes its call the claimant. -/
theorem claimant_claimed (t : Tid) (refundId : Id) (status : RefundStatus) (trace : List Event)
    : claimant refundId (.refundClaimed t refundId status :: trace) = some t := by
  simp [claimant, Event.claimedBy]

/-- There is no claimant if and only if nobody has claimed the refund. -/
theorem claimant_eq_none {refundId : Id} {events : List Event}
    : claimant refundId events = none ↔ ∀ t status, .refundClaimed t refundId status ∉ events := by
  rw [claimant, List.findSome?_eq_none_iff]
  constructor
  · intro unclaimed t status member
    have claims := unclaimed _ member
    simp [Event.claimedBy] at claims
  · intro unclaimed event member
    by_contra claims
    obtain ⟨t, claims⟩ := Option.ne_none_iff_exists'.mp claims
    obtain ⟨status, rfl⟩ := claimedBy_eq_some.mp claims
    exact unclaimed t status member

/-- Who was the last to claim a refund has claimed it before, or does so now. -/
theorem Grows.claimant {kind : Event → Prop} {before after : List Event} {refundId : Id} {t : Tid}
    (grows : Grows kind before after) (last : claimant refundId after = some t)
    : LuminaRail.claimant refundId before = some t
      ∨ ∃ status, kind (.refundClaimed t refundId status)
        ∧ .refundClaimed t refundId status ∈ after := by
  obtain ⟨events, rfl, of_kind⟩ := grows
  rw [claimant_append, Option.or_eq_some_iff] at last
  rcases last with new | ⟨_, old⟩
  · obtain ⟨event, member, found⟩ := List.exists_of_findSome?_eq_some new
    obtain ⟨status, rfl⟩ := claimedBy_eq_some.mp found
    exact Or.inr ⟨status, of_kind _ member, List.mem_append_left _ member⟩
  · exact Or.inl old

/-- Without a new claim the last one stays. -/
theorem Grows.claimant_eq {kind : Event → Prop} {before after : List Event} {refundId : Id}
    (grows : Grows kind before after)
    (unclaimed : ∀ t status, ¬kind (.refundClaimed t refundId status))
    : LuminaRail.claimant refundId after = LuminaRail.claimant refundId before := by
  obtain ⟨events, rfl, of_kind⟩ := grows
  have quiet : LuminaRail.claimant refundId events = none :=
    claimant_eq_none.mpr fun t status member => unclaimed t status (of_kind _ member)
  rw [claimant_append, quiet, Option.none_or]

-----------------------------------------------------------------------------------------
-- What the calls agree on
-----------------------------------------------------------------------------------------

/-- All payments of the order have one amount, and no more of it is refunded. -/
structure WithinCapture (orderId : Id) (amount : Int) (rows : AList Row) : Prop where
  payments : ∀ id payment, rows.lookup (.payment id) = some payment → payment.orderId = orderId
    → payment.amount = amount
  nonneg : ∀ id refund, rows.lookup (.refund id) = some refund → 0 ≤ refund.amount
  total : totalRefunded orderId rows ≤ amount

/-- What the program `t` relies on: nobody places an order, adds a refund to one that it has locked
or changes a refund that it was last to claim.
-/
structure LeavesRefunds (t : Tid) (before after : World) : Prop where
  isolated : Server.Isolated t before.db after.db
  trace : Grows (fun event => event.owner ≠ some t) before.trace after.trace
  locked : ∀ {orderId x}, x.owner = t → (after.db.pending x).isSome
    → before.db.holder (.order orderId) = some x
    → totalRefunded orderId after.db.committed ≤ totalRefunded orderId before.db.committed
  claimed : ∀ {refundId row}, claimant refundId after.trace = some t
    → before.db.committed.lookup (.refund refundId) = some row
    → after.db.committed.lookup (.refund refundId) = some row
  orders : ∀ {id}, before.db.committed.lookup (.order id) = none
    → after.db.committed.lookup (.order id) = none

/-- What the program `t` does: it adds refunds to orders that it has locked, and changes refunds
that it was last to claim.
-/
structure WritesRefunds (t : Tid) (before after : World) : Prop where
  isolated : ∀ u, u ≠ t → Server.Isolated u before.db after.db
  trace : Grows (fun event => ∀ u ∈ event.owner, u = t) before.trace after.trace
  locked : ∀ orderId,
    totalRefunded orderId after.db.committed ≤ totalRefunded orderId before.db.committed
      ∨ ∃ x, x.owner = t ∧ before.db.holder (.order orderId) = some x
  claimed : ∀ {refundId row}, before.db.committed.lookup (.refund refundId) = some row
    → after.db.committed.lookup (.refund refundId) = some row
      ∨ claimant refundId after.trace = some t
  orders : ∀ {id}, before.db.committed.lookup (.order id) = none
    → after.db.committed.lookup (.order id) = none

/-- Nobody else has claimed a refund that the program has claimed since. -/
def StillClaims (t : Tid) (before _ : World) : Prop :=
  ∀ refundId status, .refundClaimed t refundId status ∈ before.trace
    → claimant refundId before.trace = some t

/-- Any number of calls that create refunds and execute them. -/
def captureProtocol (calls : Tid → CaptureCall) (orderId : Id) (amount : Int)
    : Protocol World where
  inv world := WithinCapture orderId amount world.db.committed
    ∧ ∀ t refundId status, .refundClaimed t refundId status ∈ world.trace
      → calls t = .executing refundId
  rely := LeavesRefunds
  guar := WritesRefunds
  allowed := StillClaims
  rely_refl t world := ⟨Server.Isolated.refl t world.db, Grows.refl _ _, fun _ _ _ => le_refl _,
    fun _ found => found, id⟩
  rely_trans first second := by
    refine ⟨first.isolated.trans second.isolated, first.trace.trans second.trace,
      fun own opened held => ?_, fun last found => ?_,
      fun absent => second.orders (first.orders absent)⟩
    · have middle := second.isolated.isSome own opened
      have still := (first.isolated.locks own middle).mpr held
      exact (second.locked own opened still).trans (first.locked own middle held)
    · have earlier := (second.trace.claimant last).resolve_right fun new => by
        obtain ⟨_, other, _⟩ := new
        exact other rfl
      exact second.claimed last (first.claimed earlier found)
  guar_rely other _ _ guaranteed :=
    ⟨guaranteed.isolated _ (Ne.symm other),
      guaranteed.trace.mono fun _ own mine => other (own _ mine).symm,
      fun {orderId _} own _ held => (guaranteed.locked orderId).resolve_right fun locked => by
        obtain ⟨x, owner, locked⟩ := locked
        obtain rfl := Option.some.inj (locked.symm.trans held)
        exact other (owner.symm.trans own),
      fun last found => (guaranteed.claimed found).resolve_right fun claims =>
        other (Option.some.inj (claims.symm.trans last)),
      guaranteed.orders⟩

section

variable {calls : Tid → CaptureCall} {orderId : Id} {amount : Int} {t : Tid}
  {world after : World}

/-- Steps that change no rows and claim nothing. -/
theorem captured_calm (after : World) (captured : WithinCapture orderId amount world.db.committed)
    (isolated : ∀ u, u ≠ t → Server.Isolated u world.db after.db)
    (grows : Grows (fun event => ∀ u ∈ event.owner, u = t) world.trace after.trace)
    (same : ∀ key, after.db.committed.lookup key = world.db.committed.lookup key)
    : WithinCapture orderId amount after.db.committed ∧ WritesRefunds t world after := by
  have refunds (id : Id) : after.db.committed.lookup (.refund id)
      = world.db.committed.lookup (.refund id) := same _
  have total (other : Id) : totalRefunded other after.db.committed
      = totalRefunded other world.db.committed := totalRefunded_eq other refunds
  refine ⟨⟨fun id payment found => ?_, fun id refund found => ?_, ?_⟩, isolated, grows,
    fun other => Or.inl (total other).le, fun found => Or.inl ((refunds _).trans found),
    fun absent => (same _).trans absent⟩
  · exact captured.payments id payment ((same (.payment id)).symm.trans found)
  · exact captured.nonneg id refund ((refunds id).symm.trans found)
  · exact (total orderId).trans_le captured.total

/-- Writes that stay in a transaction are allowed to every call. -/
theorem capture_transactional : Transactional (captureProtocol calls orderId amount) t where
  isolated relied := relied.isolated
  unseen {world db} inv unseen := by
    obtain ⟨kept, guaranteed⟩ := captured_calm { world with db := db } inv.1
      unseen.isolated (Grows.refl _ _) fun key => by rw [unseen.committed]
    exact ⟨⟨kept, inv.2⟩, guaranteed⟩

-----------------------------------------------------------------------------------------
-- Executing a refund
-----------------------------------------------------------------------------------------

/-- What a call is observed to do apart from claiming a refund. -/
structure Event.Remark (t : Tid) (event : Event) : Prop where
  own : event.owner = some t
  unclaimed : ∀ u refundId status, event ≠ .refundClaimed u refundId status

/-- Before it stores the answer of the provider, a call writes nothing. -/
def requesting (t : Tid) : Footprint := ⟨fun _ _ _ => False, Event.Remark t⟩

/-- Then it moves the refund to a status that is active or not, and follows up on its payment. -/
def resolving (t : Tid) (refundId : Id) (active : Bool) : Footprint where
  writes
    | .refund id, old, new =>
        id = refundId ∧ new.status.isActive = active ∧ ∃ row ∈ old, row.SameRequest new
    | .payment _, old, new => ∃ row ∈ old, new.orderId = row.orderId ∧ new.amount = row.amount
    | .order _, old, _ => old ≠ none
    | _, _, _ => True
  events := Event.Remark t

/-- Two writes of a resolution are one, by cases on the kind of row. -/
theorem resolving_transitive (refundId : Id) (active : Bool)
    : (resolving t refundId active).writes.Transitive := by
  intro key old row next first second
  cases key with
  | refund id =>
      obtain ⟨same, _, first_row, stored, first⟩ := first
      obtain ⟨_, status, middle, replaced, second⟩ := second
      obtain rfl := Option.some.inj replaced
      exact ⟨same, status, first_row, stored, first.trans second⟩
  | payment id =>
      obtain ⟨first_row, stored, order, paid⟩ := first
      obtain ⟨middle, replaced, order', paid'⟩ := second
      obtain rfl := Option.some.inj replaced
      exact ⟨first_row, stored, order'.trans order, paid'.trans paid⟩
  | order id => exact first
  | _ => trivial

/-- The call has claimed the refund, and it is active if this matters and nobody else has claimed it
since.
-/
structure Working (t : Tid) (refundId : Id) (active : Bool) (world : World) : Prop where
  claimed : ∃ status, .refundClaimed t refundId status ∈ world.trace
  still : active = true → claimant refundId world.trace = some t
    → ∃ row, world.db.committed.lookup (.refund refundId) = some row ∧ row.status.isActive

variable {refundId : Id} {active : Bool}

/-- A claimed refund is left to its claimant. -/
theorem working_stable
    : (captureProtocol calls orderId amount).Stable t (Working t refundId active) := by
  intro world after _ _ relied working
  obtain ⟨status, claimed⟩ := working.claimed
  refine ⟨⟨status, relied.trace.mem.mpr (Or.inl claimed)⟩, fun matters last => ?_⟩
  have earlier := (relied.trace.claimant last).resolve_right fun new => by
    obtain ⟨_, other, _⟩ := new
    exact other rfl
  obtain ⟨row, found, is_active⟩ := working.still matters earlier
  exact ⟨row, relied.claimed last found, is_active⟩

/-- Settling a refund adds to no order's active refunds. -/
theorem resolving_le (nonneg : ∀ id refund, world.db.committed.lookup (.refund id) = some refund
      → 0 ≤ refund.amount)
    (rows : Server.Evolves (resolving t refundId active).writes world.db.committed
      after.db.committed)
    (still : active = true → ∃ row, world.db.committed.lookup (.refund refundId) = some row
      ∧ row.status.isActive)
    (other : Id)
    : totalRefunded other after.db.committed ≤ totalRefunded other world.db.committed := by
  refine totalRefunded_le other fun id => ?_
  rw [weightAt, weightAt]
  cases found : after.db.committed.lookup (.refund id) with
  | none =>
      have absent : world.db.committed.lookup (.refund id) = none := by
        by_contra present
        have kept := rows.kept (Option.isSome_iff_ne_none.mpr present)
        simp [found] at kept
      simp [absent]
  | some new =>
      rcases rows.rows found with same | ⟨same, status, row, stored, request⟩
      · rw [same]
      · have stored : world.db.committed.lookup (.refund id) = some row := stored
        rw [stored, Option.elim_some, Option.elim_some, activeAmount, activeAmount,
          request.orderId, request.amount, status]
        cases active with
        | true =>
            subst same
            obtain ⟨row', stored', is_active⟩ := still rfl
            obtain rfl := Option.some.inj (stored.symm.trans stored')
            simp [is_active]
        | false =>
            have nonneg := nonneg id row stored
            simp only [Bool.false_eq_true, and_false, if_false]
            split <;> omega

/-- Remarks claim nothing. -/
theorem claimant_remarked {refundId : Id} (grows : Grows (Event.Remark t) world.trace after.trace)
    : claimant refundId after.trace = claimant refundId world.trace :=
  grows.claimant_eq fun u status remark => remark.unclaimed u refundId status rfl

/-- Each claim is older than remarks. -/
theorem claimed_remarked (grows : Grows (Event.Remark t) world.trace after.trace) {u : Tid}
    {id : Id} {status : RefundStatus}
    : .refundClaimed u id status ∈ after.trace ↔ .refundClaimed u id status ∈ world.trace :=
  grows.mem_iff fun remark => remark.unclaimed u id status rfl

/-- Remarks are the call's own. -/
theorem remarked_own (grows : Grows (Event.Remark t) world.trace after.trace)
    : Grows (fun event => ∀ u ∈ event.owner, u = t) world.trace after.trace :=
  grows.mono fun _ remark u own => (Option.some.inj (remark.own.symm.trans own)).symm

/-- Steps that write nothing and claim nothing. -/
theorem requesting_respects {P : World → Prop}
    (calm : ∀ {world after : World}, Effect (requesting t) t world after → P world → P after)
    : (captureProtocol calls orderId amount).Respects t (Step (requesting t) t) fun world =>
        Phased t (requesting t).writes world ∧ P world := by
  intro world after inv given step _
  have effect := given.1.effect step
  obtain ⟨kept, guaranteed⟩ := captured_calm _ inv.1 effect.isolated
    (remarked_own effect.trace) fun key => effect.rows.lookup_eq fun _ _ => id
  refine ⟨⟨kept, fun u id status member => ?_⟩, guaranteed,
    given.1.step step (fun _ _ _ _ never => never.elim), calm effect given.2⟩
  exact inv.2 u id status ((claimed_remarked effect.trace).mp member)

/-- A call that writes no refund keeps its claim. -/
theorem working_calm {refundId : Id} {active : Bool} (effect : Effect (requesting t) t world after)
    (working : Working t refundId active world)
    : Working t refundId active after := by
  obtain ⟨status, claimed⟩ := working.claimed
  refine ⟨⟨status, effect.trace.mem.mpr (Or.inl claimed)⟩, fun matters last => ?_⟩
  rw [claimant_remarked effect.trace] at last
  obtain ⟨row, found, is_active⟩ := working.still matters last
  exact ⟨row, (effect.rows.lookup_eq fun _ _ => id).trans found, is_active⟩

/-- Steps that settle the refund, taken by the last to have claimed it. -/
theorem captured_resolving {refundId : Id} {active : Bool} (after : World)
    (captured : WithinCapture orderId amount world.db.committed)
    (isolated : ∀ u, u ≠ t → Server.Isolated u world.db after.db)
    (grows : Grows (fun event => ∀ u ∈ event.owner, u = t) world.trace after.trace)
    (rows : Server.Evolves (resolving t refundId active).writes world.db.committed
      after.db.committed)
    (still : active = true → ∃ row, world.db.committed.lookup (.refund refundId) = some row
      ∧ row.status.isActive)
    (last : claimant refundId after.trace = some t)
    : WithinCapture orderId amount after.db.committed ∧ WritesRefunds t world after := by
  have le := resolving_le captured.nonneg rows still
  refine ⟨⟨fun id payment found of_order => ?_, fun id refund found => ?_,
    (le orderId).trans captured.total⟩, isolated, grows, fun other => Or.inl (le other),
    fun {id row} found => ?_, fun {id} absent => ?_⟩
  · rcases rows.rows found with same | ⟨row, stored, same_order, same_amount⟩
    · exact captured.payments id payment same of_order
    · exact same_amount.trans (captured.payments id row stored (same_order.symm.trans of_order))
  · rcases rows.rows found with same | ⟨_, _, row, stored, same⟩
    · exact captured.nonneg id refund same
    · exact same.amount ▸ captured.nonneg id row stored
  · obtain ⟨new, found'⟩ := Option.isSome_iff_exists.mp (rows.kept (by rw [found]; rfl))
    rcases rows.rows found' with same | ⟨rfl, _, _⟩
    · exact Or.inl (found'.trans (same.symm.trans found))
    · exact Or.inr last
  · by_contra present
    obtain ⟨row, found⟩ := Option.ne_none_iff_exists'.mp present
    rcases rows.rows found with same | there
    · simp [absent] at same
    · exact there absent

/-- A resolution of the claimed refund is allowed: it frees its amount, and nobody counted on it. -/
theorem resolving_respects {refundId : Id} {active : Bool}
    : (captureProtocol calls orderId amount).Respects t (Step (resolving t refundId active) t)
        fun world => Phased t (resolving t refundId active).writes world
          ∧ Working t refundId active world := by
  intro world after inv given step allowed
  have effect := given.1.effect step
  obtain ⟨status, claimed⟩ := given.2.claimed
  have last := allowed refundId status claimed
  obtain ⟨kept, guaranteed⟩ := captured_resolving _ inv.1 effect.isolated
    (remarked_own effect.trace) effect.rows (fun matters => given.2.still matters last)
    ((claimant_remarked effect.trace).trans last)
  refine ⟨⟨kept, fun u id status member => ?_⟩, guaranteed,
    given.1.step step (resolving_transitive refundId active),
    ⟨status, (claimed_remarked effect.trace).mpr claimed⟩, fun matters _ => ?_⟩
  · exact inv.2 u id status ((claimed_remarked effect.trace).mp member)
  obtain ⟨row, stored, is_active⟩ := given.2.still matters last
  obtain ⟨new, found⟩ := Option.isSome_iff_exists.mp (effect.rows.kept (by rw [stored]; rfl))
  refine ⟨new, found, ?_⟩
  rcases effect.rows.rows found with same | ⟨_, status, _⟩
  · exact Option.some.inj (stored.symm.trans same) ▸ is_active
  · exact status.trans matters

section

variable {α : Type} {program : Service α} {Q : α → Prop} {refundId : Id} {active : Bool}

/-- Before its claim an execution writes nothing. -/
theorem spec_before (within : Within (Step (requesting t) t) t program Q)
    : (captureProtocol calls orderId amount).Spec t (Phased t (requesting t).writes) program
        (fun value world => Q value ∧ Phased t (requesting t).writes world) fun _ _ => True := by
  have stable : (captureProtocol calls orderId amount).Stable t fun world =>
      Phased t (requesting t).writes world ∧ True :=
    fun _ _ _ _ relied given => ⟨given.1.stable relied.isolated, trivial⟩
  exact (Protocol.Spec.of_within within (requesting_respects fun _ _ => trivial) stable).conseq
    (fun _ _ given => ⟨given, trivial⟩) (fun _ _ _ ends => ⟨ends.1, ends.2.1⟩)
    fun _ _ _ _ => trivial

/-- What the call does between its claim and the answer of the provider. -/
theorem spec_working (within : Within (Step (requesting t) t) t program Q)
    : (captureProtocol calls orderId amount).Spec t
        (fun world => Phased t (requesting t).writes world ∧ Working t refundId active world) program
        (fun value world => Q value ∧ Phased t (requesting t).writes world
          ∧ Working t refundId active world) fun _ _ => True := by
  have stable : (captureProtocol calls orderId amount).Stable t fun world =>
      Phased t (requesting t).writes world ∧ Working t refundId active world :=
    fun world after before_inv after_inv relied given => ⟨given.1.stable relied.isolated,
      working_stable world after before_inv after_inv relied given.2⟩
  exact (Protocol.Spec.of_within within (requesting_respects working_calm) stable).conseq
    (fun _ _ given => given) (fun _ _ _ ends => ends) fun _ _ _ _ => trivial

/-- After its claim an execution resolves its refund. -/
theorem spec_resolving (within : Within (Step (resolving t refundId active) t) t program Q)
    : (captureProtocol calls orderId amount).Spec t
        (fun world => Phased t (requesting t).writes world ∧ Working t refundId true world) program
        (fun _ _ => True) fun _ _ => True := by
  have stable : (captureProtocol calls orderId amount).Stable t fun world =>
      Phased t (resolving t refundId active).writes world ∧ Working t refundId active world :=
    fun world after before_inv after_inv relied given => ⟨given.1.stable relied.isolated,
      working_stable world after before_inv after_inv relied given.2⟩
  refine (Protocol.Spec.of_within within resolving_respects stable).conseq
    (fun world _ given => ⟨given.1.mono fun _ _ _ never => never.elim, given.2.claimed, fun _ =>
      given.2.still rfl⟩) (fun _ _ _ _ => trivial) fun _ _ _ _ => trivial

/-- A resolution allows the settlement of a refund with its own status. -/
theorem resolving_allows (status : RefundStatus) (payments : Id → Prop)
    : (resolving t refundId status.isActive).AllowsSettling t refundId status payments where
  pool _ _ _ := trivial
  reservation _ _ _ := trivial
  treasury _ _ _ := trivial
  refund row _ same is := ⟨rfl, is ▸ rfl, row, rfl, same⟩
  payment _ row _ := ⟨row, rfl, rfl, rfl⟩
  order _ _ _ _ := by simp [resolving]
  checked _ _ _ _ := ⟨rfl, by simp⟩

/-- Who claims a refund is the last to have done so, and the refund is active. -/
theorem spec_claimRefundOnce {refund : Refund} (same : calls t = .executing refundId)
    (nonterminal : RefundStateMachine.isTerminal refund.status = false)
    : (captureProtocol calls orderId amount).Spec t (Phased t (requesting t).writes)
        (claim (.refund refundId) (fun row => row.status = refund.status)
          (fun row => { row with status := .PROCESSING })
          fun t => .refundClaimed t refundId refund.status)
        (fun count world => Phased t (requesting t).writes world
          ∧ (count ≠ 0 → Working t refundId true world)) fun _ _ => True := by
  refine Protocol.Spec.action (fun _ _ _ _ relied phased => phased.stable relied.isolated)
    fun world input result after inv phased acted _ => ?_
  have idle : ((captureProtocol calls orderId amount).inv world
      ∧ WritesRefunds t world world) := by
    refine ⟨inv, (captured_calm _ inv.1 (fun u _ => Server.Isolated.refl u _) (Grows.refl _ _)
      fun _ => rfl).2⟩
  split at acted
  · obtain ⟨rfl, rfl⟩ := Prod.mk.inj (Option.some.inj acted)
    exact ⟨idle.1, idle.2, trivial⟩
  split at acted
  · obtain ⟨rfl, rfl⟩ := Prod.mk.inj (Option.some.inj acted)
    exact ⟨idle.1, idle.2, phased, fun some_claimed => absurd rfl some_claimed⟩
  split at acted
  · rename_i row found unchanged
    obtain ⟨db, granted, answer⟩ := Option.map_eq_some_iff.mp acted
    obtain ⟨rfl, rfl⟩ := Prod.mk.inj answer
    have unchanged : row.status = refund.status := of_decide_eq_true unchanged
    have is_active : row.status.isActive := by
      rw [unchanged]
      cases status : refund.status <;>
        simp_all [RefundStateMachine.isTerminal, RefundStatus.isActive]
    have rows : Server.Evolves (resolving t refundId true).writes world.db.committed
        db.committed := by
      refine Server.save_none_evolves granted fun entry member => ?_
      obtain rfl := List.mem_singleton.mp member
      exact ⟨rfl, rfl, row, found, rfl, rfl, rfl, rfl, rfl, rfl⟩
    have last := claimant_claimed t refundId refund.status world.trace
    obtain ⟨kept, guaranteed⟩ := captured_resolving
      { world with db := db, trace := .refundClaimed t refundId refund.status :: world.trace } inv.1
      (fun u _ => Server.save_isolated granted (by simp))
      ⟨[.refundClaimed t refundId refund.status], rfl, by simp [Event.owner]⟩ rows
      (fun _ => ⟨row, found, is_active⟩) last
    refine ⟨⟨kept, fun u id status member => ?_⟩, guaranteed, ?_, fun _ =>
      ⟨⟨refund.status, List.mem_cons_self⟩, fun _ _ => ⟨{ row with status := .PROCESSING }, ?_, rfl⟩⟩⟩
    · rcases List.mem_cons.mp member with new | old
      · obtain ⟨rfl, rfl, rfl⟩ := Event.refundClaimed.inj new
        exact same
      · exact inv.2 u id status old
    · refine Phased.of_justified fun x rows own opened => ?_
      have before : world.db.pending x = some rows :=
        (congrFun (Server.save_none_eq_some granted).2.2.1 x).symm.trans opened
      exact phased.justified own before
    · exact (congrArg (AList.lookup _) (Server.save_none_eq_some granted).2.1).trans
        (AList.lookup_insert _)
  · obtain ⟨rfl, rfl⟩ := Prod.mk.inj (Option.some.inj acted)
    exact ⟨idle.1, idle.2, phased, fun some_claimed => absurd rfl some_claimed⟩

/-- A claimed execution asks the provider and resolves its refund once. -/
theorem spec_executeClaimedOnce (config : Config) (lock : Option DistributedLock)
    : (captureProtocol calls orderId amount).Spec t
        (fun world => Phased t (requesting t).writes world ∧ Working t refundId true world)
        (executeClaimedRefund config refundId lock) (fun _ _ => True) fun _ _ => True := by
  refine Protocol.Spec.bind (spec_working within_findUniqueOrThrow) fun refund => ?_
  refine Protocol.Spec.assume fun _ => ?_
  refine Protocol.Spec.bind (spec_working within_findUniqueOrThrow) fun order => ?_
  refine Protocol.Spec.assume fun _ => ?_
  refine Protocol.Spec.bind (spec_working (within_paymentOf refund)) fun payment => ?_
  refine Protocol.Spec.assume fun _ => ?_
  refine Protocol.Spec.bind (spec_working (within_get config _)) fun provider => ?_
  refine Protocol.Spec.assume fun _ => ?_
  refine Protocol.Spec.bind (spec_working (within_throwIfLost lock _)) fun _ => ?_
  refine Protocol.Spec.assume fun _ => ?_
  refine Protocol.Spec.bind (Q := fun _ world => Phased t (requesting t).writes world
    ∧ Working t refundId true world) ?_ fun response => ?_
  · refine (spec_working (Q := fun _ => True) ?_).conseq (fun _ _ given => given)
      (fun _ _ _ ends => ends.2) fun _ _ _ _ => trivial
    refine Within.bind (within_emit ⟨rfl, by simp⟩) fun _ _ => ?_
    refine Within.bind (within_providerRefund config provider _) fun answer _ => ?_
    exact Within.bind (within_emit ⟨rfl, by simp⟩) fun _ _ => Within.pure trivial
  · exact spec_resolving (within_settleRefundAs response
      (resolving_allows response.status.settled fun _ => True) (fun _ _ => trivial) order)

/-- A lock may be released at any time. -/
theorem spec_releaseOnce (lock : Option DistributedLock)
    : (captureProtocol calls orderId amount).Spec t (fun _ => True)
        (DistributedLock.release lock) (fun _ _ => True) fun _ _ => True := by
  cases lock with
  | none => exact Protocol.Spec.pure _ fun _ _ _ => trivial
  | some lock =>
      refine Protocol.Spec.bind (Q := fun _ _ => True) (Protocol.Spec.action
        (Protocol.Stable.const True) fun world input result after inv _ acted _ => ?_) fun _ =>
        Protocol.Spec.pure _ fun _ _ _ => trivial
      have quiet : after.db = world.db ∧ after.trace = world.trace := by
        split at acted
        · obtain ⟨rfl, rfl⟩ := Prod.mk.inj (Option.some.inj acted)
          exact ⟨rfl, rfl⟩
        split at acted <;>
          · obtain ⟨rfl, rfl⟩ := Prod.mk.inj (Option.some.inj acted)
            exact ⟨rfl, rfl⟩
      obtain ⟨kept, guaranteed⟩ := captured_calm after (t := t) inv.1
        (fun u _ => quiet.1 ▸ Server.Isolated.refl u _) (quiet.2 ▸ Grows.refl _ _)
        fun key => by rw [quiet.1]
      refine ⟨⟨kept, quiet.2 ▸ inv.2⟩, guaranteed, ?_⟩
      cases result <;> trivial

/-- An execution claims its refund, by the rule for the claim, and then resolves it. -/
theorem spec_executeRefundOnce (same : calls t = .executing refundId) (config : Config)
    : (captureProtocol calls orderId amount).Spec t (Phased t (requesting t).writes)
        (executeRefund config refundId) (fun _ _ => True) fun _ _ => True := by
  refine Protocol.Spec.bind (spec_before (within_acquire config _)) fun lock => ?_
  refine Protocol.Spec.assume fun _ => ?_
  refine spec_finally' (D := fun _ => True) ?_ (spec_releaseOnce lock)
  refine Protocol.Spec.bind (spec_before within_findUnique) fun found => ?_
  refine Protocol.Spec.assume fun _ => ?_
  cases found with
  | none => exact Protocol.Spec.throw _ fun _ _ _ => trivial
  | some refund =>
      dsimp only
      split
      · exact Protocol.Spec.pure _ fun _ _ _ => trivial
      rename_i nonterminal
      split
      · exact Protocol.Spec.pure _ fun _ _ _ => trivial
      refine Protocol.Spec.bind (spec_before (within_throwIfLost lock _)) fun _ => ?_
      refine Protocol.Spec.assume fun _ => ?_
      refine Protocol.Spec.bind (spec_before within_throwIf) fun _ => ?_
      refine Protocol.Spec.assume fun _ => ?_
      refine Protocol.Spec.bind
        (spec_claimRefundOnce same (Bool.eq_false_iff.mpr nonterminal)) fun count => ?_
      split
      · exact (spec_before within_findUniqueOrThrow).conseq (fun _ _ given => given.1)
          (fun _ _ _ _ => trivial) fun _ _ _ ends => ends
      · rename_i claimed
        exact (spec_executeClaimedOnce config lock).pre fun _ _ given => ⟨given.1, given.2 claimed⟩

end

-----------------------------------------------------------------------------------------
-- Creating a refund
-----------------------------------------------------------------------------------------

/-- The writes of a transaction that has moved the order, if anything, and then stored the refund,
if there is one.
-/
def Stores (x : TxId) (ofOrder : Id) (writes : List (Sigma Row)) (server : Server Row)
    : Option (Id × Refund) → Prop
  | none => ∀ write ∈ writes, ∃ row, write = ⟨.order ofOrder, row⟩
  | some (id, refund) => ∃ key earlier,
      writes = ⟨.refundIdempotencyKey key, id⟩ :: ⟨.refund id, refund⟩ :: earlier
      ∧ (∀ write ∈ earlier, ∃ row, write = ⟨.order ofOrder, row⟩)
      ∧ Server.HeldAs x (.refund id) none server

/-- The transaction has locked the order, of which at most so much is refunded. -/
structure Locking (x : TxId) (ofOrder : Id) (bound : Int) (new : Option (Id × Refund))
    (writes : List (Sigma Row)) (server : Server Row) : Prop where
  order : ∃ row, Server.HeldAs x (.order ofOrder) (some row) server
  total : totalRefunded ofOrder server.committed ≤ bound
  stores : Stores x ofOrder writes server new

variable {x : TxId} {ofOrder : Id} {bound : Int} {new : Option (Id × Refund)}

/-- What a transaction stores depends on its own writes and the rows that it has locked. -/
theorem stores_local : Server.Local x fun writes server => Stores x ofOrder writes server new := by
  intro writes before after locks rows stores
  cases new with
  | none => exact stores
  | some new =>
      obtain ⟨key, earlier, same, only, held⟩ := stores
      exact ⟨key, earlier, same, only, (locks _).mpr held.1, (rows _ held.1).trans held.2⟩

/-- Nobody else adds a refund to the order. -/
theorem locking_stable (own : x.owner = t)
    : (captureProtocol calls orderId amount).Stable t fun world =>
        world.db.During x (Locking x ofOrder bound new) := by
  intro world after _ _ relied locking writes opened
  have isolated : Server.Isolated x.owner world.db after.db := own ▸ relied.isolated
  have before := locking writes (isolated.writes rfl opened)
  have still : (after.db.pending x).isSome := by rw [opened]; rfl
  obtain ⟨row, held⟩ := before.order
  refine ⟨⟨row, (isolated.locks rfl still).mpr held.1, (isolated.rows rfl still held.1).trans held.2⟩,
    (relied.locked own still held.1).trans before.total, ?_⟩
  exact stores_local writes world.db after.db (fun _ => isolated.locks rfl still)
    (fun _ held => isolated.rows rfl still held) before.stores

/-- The rows of which the refunds and their limits are computed. -/
def Key.capturing : Key → Prop
  | .payment _ | .refund _ => True
  | _ => False

/-- What is committed is the refund, as far as it matters. -/
theorem Stores.lookup {writes : List (Sigma Row)} {server : Server Row} {id : Id} {refund : Refund}
    (stores : Stores x ofOrder writes server (some (id, refund))) {key : Key}
    (capturing : key.capturing)
    : (overlay writes server.committed).lookup key
      = (server.committed.insert (.refund id) refund).lookup key := by
  obtain ⟨index, earlier, rfl, only, _⟩ := stores
  have unwritten : earlier.dlookup key = none := by
    rw [List.dlookup_eq_none]
    intro member
    obtain ⟨row, member⟩ := List.exists_of_mem_keys member
    obtain ⟨_, moved⟩ := only _ member
    obtain ⟨rfl, _⟩ := Sigma.mk.inj moved
    exact capturing
  have unindexed : key ≠ .refundIdempotencyKey index := by
    rintro rfl
    exact capturing
  rw [overlay_cons, AList.lookup_insert_ne unindexed, overlay_cons]
  by_cases same : key = .refund id
  · subst same
    rw [AList.lookup_insert, AList.lookup_insert]
  · rw [AList.lookup_insert_ne same, AList.lookup_insert_ne same,
      lookup_overlay_of_unwritten _ unwritten]

/-- The refund that a transaction stores is new. -/
theorem Stores.absent {writes : List (Sigma Row)} {server : Server Row} {id : Id} {refund : Refund}
    (stores : Stores x ofOrder writes server (some (id, refund)))
    : server.committed.lookup (.refund id) = none := by
  obtain ⟨_, _, _, _, held⟩ := stores
  exact held.2

/-- No order is touched but the one that was locked. -/
theorem Stores.lookup_order {writes : List (Sigma Row)} {server : Server Row} {id other : Id}
    {refund : Refund} (stores : Stores x ofOrder writes server (some (id, refund)))
    (different : other ≠ ofOrder)
    : (overlay writes server.committed).lookup (.order other)
      = server.committed.lookup (.order other) := by
  obtain ⟨index, earlier, rfl, only, _⟩ := stores
  refine lookup_overlay_of_unwritten _ ?_
  rw [List.dlookup_cons_ne _ _ (by simp), List.dlookup_cons_ne _ _ (by simp), List.dlookup_eq_none]
  intro member
  obtain ⟨row, member⟩ := List.exists_of_mem_keys member
  obtain ⟨_, moved⟩ := only _ member
  exact different (Key.order.inj (Sigma.mk.inj moved).1)

/-- It adds to the refunds of its order. -/
theorem totalRefunded_overlay {writes : List (Sigma Row)} {server : Server Row} {id : Id}
    {refund : Refund} (stores : Stores x ofOrder writes server (some (id, refund))) (other : Id)
    : totalRefunded other (overlay writes server.committed)
      = totalRefunded other server.committed + activeAmount other ⟨.refund id, refund⟩ := by
  rw [totalRefunded_eq other fun id => stores.lookup trivial, totalRefunded,
    total_insert, weightAt, stores.absent, Option.elim_none, sub_zero, totalRefunded]

/-- What is left of the order has been asked for at most. -/
structure Affordable (orderId : Id) (amount : Int) (ofOrder : Id) (bound : Int) (refund : Refund)
    : Prop where
  of_order : refund.orderId = ofOrder
  nonneg : 0 ≤ refund.amount
  enough : ofOrder = orderId → bound + refund.amount ≤ amount

/-- Such a refund may be committed. -/
theorem Locking.commits {id : Id} {refund : Refund} {writes : List (Sigma Row)}
    (locking : Locking x ofOrder bound (some (id, refund)) writes world.db) (own : x.owner = t)
    (affordable : Affordable orderId amount ofOrder bound refund)
    (captured : WithinCapture orderId amount world.db.committed)
    (opened : world.db.pending x = some writes)
    : WithinCapture orderId amount (world.db.commit x).committed
      ∧ WritesRefunds t world { world with db := world.db.commit x } := by
  have overlays : (world.db.commit x).committed = overlay writes world.db.committed := by
    simp [opened]
  have lookup (key : Key) (capturing : key.capturing) : (world.db.commit x).committed.lookup key
      = (world.db.committed.insert (.refund id) refund).lookup key := by
    rw [overlays, locking.stores.lookup capturing]
  have total (other : Id) : totalRefunded other (world.db.commit x).committed
      = totalRefunded other world.db.committed + activeAmount other ⟨.refund id, refund⟩ := by
    rw [overlays, totalRefunded_overlay locking.stores]
  obtain ⟨row, order⟩ := locking.order
  have elsewhere {other : Id} (different : ofOrder ≠ other)
      : activeAmount other ⟨.refund id, refund⟩ = 0 :=
    if_neg fun given => different (affordable.of_order.symm.trans given.1)
  refine ⟨⟨fun id' payment found => ?_, fun id' row found => ?_, ?_⟩,
    (Apart.commit world.db own).isolated, Grows.refl _ _, fun other => ?_, fun {id' row} found => ?_,
    fun {id'} absent => ?_⟩
  · rw [lookup (.payment id') trivial, AList.lookup_insert_ne (by simp)] at found
    exact captured.payments id' payment found
  · rw [lookup (.refund id') trivial] at found
    by_cases same : id' = id
    · subst same
      rw [AList.lookup_insert] at found
      exact Option.some.inj found ▸ affordable.nonneg
    · rw [AList.lookup_insert_ne (by simpa using same)] at found
      exact captured.nonneg id' row found
  · rw [total]
    by_cases same : ofOrder = orderId
    · have enough := affordable.enough same
      have bounded := locking.total
      have added : activeAmount orderId ⟨.refund id, refund⟩ ≤ refund.amount := by
        rw [activeAmount]
        split
        · exact le_refl _
        · exact affordable.nonneg
      subst same
      omega
    · rw [elsewhere same, add_zero]
      exact captured.total
  · by_cases same : ofOrder = other
    · exact Or.inr ⟨x, own, same ▸ order.1⟩
    · refine Or.inl (le_of_eq ?_)
      rw [total, elsewhere same, add_zero]
  · refine Or.inl ?_
    have different : id' ≠ id := by
      intro same
      subst same
      simp [locking.stores.absent] at found
    exact (lookup (.refund id') trivial).trans
      ((AList.lookup_insert_ne (by simpa using different)).trans found)
  · have different : id' ≠ ofOrder := by
      intro same
      subst same
      exact absurd (absent.symm.trans order.2) (by simp)
    rw [overlays, locking.stores.lookup_order different]
    exact absent

/-- The transaction has locked the order and written nothing. -/
def Alone (x : TxId) (ofOrder : Id) (writes : List (Sigma Row)) (server : Server Row) : Prop :=
  writes = [] ∧ ∃ row, Server.HeldAs x (.order ofOrder) (some row) server

/-- Nobody else writes a refund of an order that is locked. -/
theorem alone_stable (own : x.owner = t)
    : (captureProtocol calls orderId amount).Stable t fun world =>
        world.db.During x (Alone x ofOrder) :=
  stable_during capture_transactional.reading own
    ((Server.Local.const _).and (Server.Local.exists fun row => Server.Local.heldAs (some row)))

/-- The active refunds of the order are added up. -/
theorem spec_selectRefunds (own : x.owner = t)
    : (captureProtocol calls orderId amount).Spec t (fun world => world.db.During x (Alone x ofOrder))
        (select (some x) fun rows =>
          (refundsOf ofOrder rows).filter fun refund => refund.2.status.isActive)
        (fun refunds world => 0 ≤ (refunds.map fun refund => refund.2.amount).sum
          ∧ world.db.During x (Locking x ofOrder (refunds.map fun refund => refund.2.amount).sum none))
        fun _ _ => True := by
  refine spec_select capture_transactional.reading (alone_stable own)
    (fun world inv alone opened => ⟨?_, fun writes opened => ?_⟩) fun _ _ _ _ _ _ => trivial
  · obtain ⟨writes, opened⟩ := Option.isSome_iff_exists.mp (opened x rfl)
    obtain ⟨rfl, _⟩ := alone writes opened
    refine List.sum_nonneg fun value member => ?_
    obtain ⟨⟨id, refund⟩, listed, rfl⟩ := List.mem_map.mp member
    have found := (mem_refundsOf.mp (List.mem_filter.mp listed).1).1
    simp only [Server.visible, opened, Option.getD_some, overlay_nil] at found
    exact inv.1.nonneg id refund found
  · obtain ⟨rfl, held⟩ := alone writes opened
    refine ⟨held, ?_, fun _ member => absurd member List.not_mem_nil⟩
    rw [sum_refundsOf]
    simp [Server.visible, opened]

/-- The amount is the one that is asked for, or what remains. -/
theorem spec_requestedAmount {P : World → Prop} (input : CreateRefundInput) (remaining : Decimal)
    : (captureProtocol calls orderId amount).Spec t P (requestedAmount input remaining)
        (fun _ => P) fun _ _ => True := by
  unfold requestedAmount
  split
  · exact Protocol.Spec.pure _ fun _ _ given => given
  · exact Protocol.Spec.pure _ fun _ _ given => given
  · exact Protocol.Spec.throw _ fun _ _ _ => trivial
  · exact Protocol.Spec.throw _ fun _ _ _ => trivial

/-- A write of the order keeps the refunds of the transaction. -/
theorem spec_moveOrder (own : x.owner = t) (data : Order → Order)
    : (captureProtocol calls orderId amount).Spec t
        (fun world => world.db.During x (Locking x ofOrder bound none))
        (update (some x) (.order ofOrder) data)
        (fun _ world => world.db.During x (Locking x ofOrder bound none)) fun _ _ => True := by
  refine spec_update capture_transactional own (locking_stable own)
    (fun world db row _ locking _ granted _ => ?_) fun _ _ _ _ _ _ => trivial
  refine locking.save granted fun writes _ locking locks committed _ =>
    ⟨locking.order.imp fun _ held => held.keep locks committed, committed ▸ locking.total,
      fun write member => ?_⟩
  rcases List.mem_cons.mp member with rfl | earlier
  · exact ⟨_, rfl⟩
  · exact locking.stores write earlier

/-- A new refund within the bound may be stored. -/
theorem spec_storeRefund (own : x.owner = t) {id : Id} {refund : Refund} {key : String}
    : (captureProtocol calls orderId amount).Spec t
        (fun world => world.db.During x (Locking x ofOrder bound none))
        (create (some x) (.refund id) refund [⟨.refundIdempotencyKey key, id⟩])
        (fun _ world => world.db.During x (Locking x ofOrder bound (some (id, refund))))
        fun _ _ => True := by
  refine spec_create capture_transactional own (locking_stable own)
    (fun world db _ locking absent granted _ => ?_) fun _ _ _ _ _ _ => trivial
  have absent := absent ⟨.refund id, refund⟩ List.mem_cons_self
  simp only [Server.visible, lookup_overlay, Option.or_eq_none_iff] at absent
  refine locking.save granted fun writes _ locking locks committed held =>
    ⟨locking.order.imp fun _ held => held.keep locks committed, committed ▸ locking.total, key,
      writes, rfl, locking.stores, ?_⟩
  exact ⟨held ⟨.refund id, refund⟩ List.mem_cons_self, committed ▸ absent.2⟩

/-- A request stores a refund that fits with the others, by the comparison with the remaining
amount.
-/
theorem spec_insertWithin (own : x.owner = t) (fits : amount < 10 ^ 18) (userId : Id)
    (input : CreateRefundInput) (order : Order) (paymentId : Id) (payment : Payment)
    (generatedKey : String) (paid : input.orderId = orderId → payment.amount = amount)
    : (captureProtocol calls orderId amount).Spec t
        (fun world => world.db.During x (Alone x input.orderId))
        (insertRefund x userId input order paymentId payment generatedKey)
        (fun _ world => ∃ bound id refund, Affordable orderId amount input.orderId bound refund
          ∧ world.db.During x (Locking x input.orderId bound (some (id, refund))))
        fun _ _ => True := by
  refine Protocol.Spec.bind (spec_selectRefunds own) fun refunds => ?_
  refine Protocol.Spec.assume fun nonneg => ?_
  set refunded := (refunds.map fun refund => refund.2.amount).sum
  refine Protocol.Spec.bind (spec_throwIf fun _ _ _ => trivial) fun _ => ?_
  refine Protocol.Spec.assume fun some_left => ?_
  refine Protocol.Spec.bind (spec_requestedAmount input _) fun asked => ?_
  refine Protocol.Spec.bind (spec_throwIf fun _ _ _ => trivial) fun _ => ?_
  refine Protocol.Spec.assume fun positive => ?_
  refine Protocol.Spec.bind (spec_throwIf fun _ _ _ => trivial) fun _ => ?_
  refine Protocol.Spec.assume fun within => ?_
  refine Protocol.Spec.bind (spec_throwIf fun _ _ _ => trivial) fun _ => ?_
  refine Protocol.Spec.assume fun _ => ?_
  refine Protocol.Spec.bind (spec_moveOrder own _) fun _ => ?_
  refine Protocol.Spec.bind (spec_randomText capture_transactional.reading (locking_stable own)
    fun _ _ _ given => given) fun id => ?_
  refine Protocol.Spec.bind
    (Q := fun _ world => world.db.During x (Locking x input.orderId refunded none))
    (spec_now capture_transactional.reading (locking_stable own) fun _ _ given => given)
    fun time => ?_
  refine Protocol.Spec.bind (spec_storeRefund own) fun refund => ?_
  refine Protocol.Spec.pure _ fun world _ locking => ⟨refunded, id, _, ⟨rfl, ?_, ?_⟩, locking⟩
  · exact Decimal.stored_nonneg (by omega)
  · intro same
    rw [paid same] at some_left within
    exact Decimal.add_stored_le nonneg (by omega) fits (by omega) within

/-- What a transaction of `createRefund` may commit. -/
def Creating (orderId : Id) (amount : Int) (x : TxId) (ofOrder : Id) (world : World) : Prop :=
  world.db.During x (fun writes _ => writes = [])
    ∨ ∃ bound id refund, Affordable orderId amount ofOrder bound refund
      ∧ world.db.During x (Locking x ofOrder bound (some (id, refund)))

/-- What is known while a refund is created stays so until the transaction ends. -/
theorem creating_stable (own : x.owner = t)
    : (captureProtocol calls orderId amount).Stable t (Creating orderId amount x ofOrder) :=
  Protocol.Stable.or
    (stable_during capture_transactional.reading own (Server.Local.const _))
    (Protocol.Stable.exists fun _ => Protocol.Stable.exists fun _ => Protocol.Stable.exists fun _ =>
      (Protocol.Stable.const _).and (locking_stable own))

/-- The order is locked, unless there is none. -/
def Locked (x : TxId) (ofOrder : Id) (world : World) : Prop :=
  (world.db.During x fun writes server => writes = [] ∧ server.holder (.order ofOrder) = some x)
    ∨ ((world.db.During x fun writes _ => writes = [])
      ∧ world.db.committed.lookup (.order ofOrder) = none)

/-- A transaction without writes stays without writes. -/
theorem begun_stable (own : x.owner = t)
    : (captureProtocol calls orderId amount).Stable t fun world =>
        world.db.During x fun writes _ => writes = [] :=
  stable_during capture_transactional.reading own (Server.Local.const _)

/-- A lock is kept until the transaction ends. -/
theorem locked_stable (own : x.owner = t)
    : (captureProtocol calls orderId amount).Stable t (Locked x ofOrder) := by
  have absent : (captureProtocol calls orderId amount).Stable t fun world =>
      world.db.committed.lookup (.order ofOrder) = none :=
    fun _ _ _ _ relied absent => relied.orders absent
  exact Protocol.Stable.or (stable_during capture_transactional.reading own
    ((Server.Local.const _).and fun _ _ _ locks _ held => (locks _).mpr held))
    ((begun_stable own).and absent)

/-- The row lock is waited for and then held. -/
theorem spec_lockOrder (own : x.owner = t)
    : (captureProtocol calls orderId amount).Spec t
        (fun world => world.db.During x fun writes _ => writes = [])
        (selectForUpdate x (.order ofOrder)) (fun _ => Locked x ofOrder) fun _ _ => True := by
  refine spec_selectForUpdate capture_transactional.reading own (begun_stable own)
    (fun world _ begun missing => Or.inr ⟨begun, ?_⟩)
    (fun world db _ begun granted => Or.inl (begun.lock granted fun _ empty _ _ held =>
      ⟨empty, held⟩)) fun _ _ _ _ _ _ => trivial
  simp only [Server.visible, lookup_overlay, Option.or_eq_none_iff] at missing
  exact missing.2

/-- An order that is read under its lock is alone with its transaction. -/
theorem spec_readOrder (own : x.owner = t)
    : (captureProtocol calls orderId amount).Spec t (Locked x ofOrder)
        (findUnique (some x) (.order ofOrder))
        (fun found world => found ≠ none → world.db.During x (Alone x ofOrder))
        fun _ _ => True := by
  refine spec_findUnique capture_transactional.reading (locked_stable own)
    (fun world _ given _ present => ?_) fun _ _ _ _ _ _ => trivial
  intro writes opened
  rcases given with locked | ⟨begun, absent⟩
  · obtain ⟨rfl, held⟩ := locked writes opened
    simp only [Server.visible, opened, Option.getD_some, overlay_nil] at present
    obtain ⟨row, found⟩ := Option.ne_none_iff_exists'.mp present
    exact ⟨rfl, row, held, found⟩
  · obtain rfl := begun writes opened
    simp [Server.visible, opened, absent] at present

/-- The payments of the order carry the amount of the order. -/
theorem spec_selectPayments (own : x.owner = t)
    : (captureProtocol calls orderId amount).Spec t (fun world => world.db.During x (Alone x ofOrder))
        (select (some x) (paymentsOf ofOrder))
        (fun payments world => (∀ payment ∈ payments, ofOrder = orderId → payment.2.amount = amount)
          ∧ world.db.During x (Alone x ofOrder)) fun _ _ => True := by
  refine spec_select capture_transactional.reading (alone_stable own)
    (fun world inv alone opened => ⟨fun payment listed same => ?_, alone⟩) fun _ _ _ _ _ _ => trivial
  obtain ⟨writes, opened⟩ := Option.isSome_iff_exists.mp (opened x rfl)
  obtain ⟨rfl, _⟩ := alone writes opened
  obtain ⟨found, of_order⟩ := mem_paymentsOf.mp listed
  simp only [Server.visible, opened, Option.getD_some, overlay_nil] at found
  exact inv.1.payments payment.1 payment.2 found (of_order.trans same)

/-- The refund that is created belongs to the order that was locked. -/
theorem spec_createWithinTx (own : x.owner = t) (fits : amount < 10 ^ 18) (userId : Id)
    (input : CreateRefundInput) (isAdmin : Bool) (idempotencyKey : Option String)
    : (captureProtocol calls orderId amount).Spec t
        (fun world => world.db.During x fun writes _ => writes = [])
        (createRefundInTx x userId input isAdmin idempotencyKey)
        (fun _ => Creating orderId amount x input.orderId) fun _ _ => True := by
  refine Protocol.Spec.bind (spec_lockOrder own) fun _ => ?_
  refine Protocol.Spec.bind (spec_readOrder own) fun found => ?_
  cases found with
  | none => exact Protocol.Spec.throw _ fun _ _ _ => trivial
  | some order =>
      refine Protocol.Spec.pre ?_ fun _ _ given => given (by simp)
      refine Protocol.Spec.bind (spec_selectPayments own) fun payments => ?_
      refine Protocol.Spec.assume fun paid => ?_
      refine Protocol.Spec.bind (Q := fun _ world => world.db.During x (Alone x input.orderId))
        (spec_findUnique capture_transactional.reading (alone_stable own)
          (fun _ _ alone _ => alone) fun _ _ _ _ _ _ => trivial) fun settlement => ?_
      refine Protocol.Spec.bind (spec_throwIf fun _ _ _ => trivial) fun _ => ?_
      refine Protocol.Spec.assume fun _ => ?_
      refine Protocol.Spec.bind (spec_throwIf fun _ _ _ => trivial) fun _ => ?_
      refine Protocol.Spec.assume fun _ => ?_
      refine Protocol.Spec.bind (spec_throwIf fun _ _ _ => trivial) fun _ => ?_
      refine Protocol.Spec.assume fun _ => ?_
      dsimp only
      split
      · exact Protocol.Spec.throw _ fun _ _ _ => trivial
      split
      · exact Protocol.Spec.throw _ fun _ _ _ => trivial
      rename_i paymentId payment chosen
      have listed : (paymentId, payment) ∈ payments := by
        split at chosen
        · exact List.mem_of_find?_eq_some chosen
        · rcases Option.or_eq_some_iff.mp chosen with succeeded | ⟨_, first⟩
          · exact List.mem_of_find?_eq_some succeeded
          · exact List.mem_of_head? first
      refine Protocol.Spec.bind (Q := fun _ world => world.db.During x (Alone x input.orderId))
        (spec_now capture_transactional.reading (alone_stable own) fun _ _ alone => alone)
        fun time => ?_
      refine Protocol.Spec.bind (Q := fun _ world => world.db.During x (Alone x input.orderId))
        (spec_select capture_transactional.reading (alone_stable own) (fun _ _ alone _ => alone)
          fun _ _ _ _ _ _ => trivial) fun found => ?_
      cases found with
      | none =>
          refine (spec_insertWithin own fits userId input order paymentId payment _
            (paid _ listed)).conseq (fun _ _ given => given) (fun _ _ _ created => Or.inr created)
            fun _ _ _ ends => ends
      | some existing =>
          refine Protocol.Spec.bind (spec_throwIf fun _ _ _ => trivial) fun _ => ?_
          refine Protocol.Spec.assume fun _ => ?_
          refine Protocol.Spec.pure _ fun world _ alone => Or.inl fun writes opened => ?_
          exact (alone writes opened).1

/-- A request for a refund keeps the total within the captured amount, by the rule for
transactions.
-/
theorem spec_createWithin (fits : amount < 10 ^ 18) (userId : Id) (input : CreateRefundInput)
    (isAdmin : Bool) (idempotencyKeyHeader : Option String)
    : (captureProtocol calls orderId amount).Spec t (fun _ => True)
        (createRefund userId input isAdmin idempotencyKeyHeader) (fun _ _ => True)
        fun _ _ => True := by
  refine spec_transaction (B := fun x world => world.db.During x fun writes _ => writes = [])
    (R := fun x _ => Creating orderId amount x input.orderId) capture_transactional
    (Protocol.Stable.const True) (fun world _ _ => Server.During.begin world.db t)
    (fun x own => spec_createWithinTx own fits userId input isAdmin _)
    (fun x _ own => creating_stable own) (fun x _ world writes own inv creating opened _ => ?_)
    (fun _ _ _ _ => trivial) (fun _ _ _ _ _ _ _ _ => trivial)
    (fun _ => Protocol.Stable.const True) fun _ _ _ _ _ => trivial
  refine and_assoc.mp ⟨?_, trivial⟩
  rcases creating with empty | ⟨bound, id, refund, affordable, locking⟩
  · obtain rfl := empty writes opened
    obtain ⟨kept, guaranteed⟩ := captured_calm { world with db := world.db.commit x }
      inv.1 (Apart.commit world.db own).isolated (Grows.refl _ _) fun key => by simp [opened]
    exact ⟨⟨kept, inv.2⟩, guaranteed⟩
  · obtain ⟨kept, guaranteed⟩ := (locking writes opened).commits own affordable inv.1 opened
    exact ⟨⟨kept, inv.2⟩, guaranteed⟩

/-- Every call is verified. -/
theorem CaptureCall.capture_safe (fits : amount < 10 ^ 18) (config : Config) {rows : AList Row}
    (captured : WithinCapture orderId amount rows)
    : (captureProtocol calls orderId amount).Safe t (fun _ _ => True) ((calls t).thread config)
        (World.start rows) := by
  have holds : (captureProtocol calls orderId amount).inv (World.start rows) :=
    ⟨captured, fun _ _ _ member => absurd member List.not_mem_nil⟩
  cases same : calls t with
  | creating userId input isAdmin idempotencyKeyHeader =>
      exact Service.thread_safe
        (spec_createWithin fits userId input isAdmin idempotencyKeyHeader) holds trivial
  | executing refundId =>
      exact Service.thread_safe (spec_executeRefundOnce same config) holds
        (Phased.start t _ rows)

/-- The machine takes no step that the protocol does not know. -/
theorem capture_fits : (machine anyExpiry).Fits (captureProtocol calls orderId amount) where
  env live world chance after inv happened := by
    obtain ⟨rfl, _⟩ := machine_env happened
    refine ⟨⟨?_, ?_⟩, fun t _ => ⟨chance.apply_isolated world t, ?_, fun _ _ _ => ?_, fun _ => ?_, ?_⟩⟩
    · exact (Chance.apply_committed world chance).symm ▸ inv.1
    · exact (Chance.apply_trace world chance).symm ▸ inv.2
    · exact (Chance.apply_trace world chance).symm ▸ Grows.refl _ _
    all_goals simp
  crash t world inv := by
    refine ⟨⟨inv.1, fun u id status member => ?_⟩,
      fun u other => ⟨Server.Isolated.refl u world.db, ?_, fun _ _ _ => le_refl _, fun _ found => found,
        id⟩⟩
    · rcases List.mem_cons.mp member with crashed | old
      · cases crashed
      · exact inv.2 u id status old
    refine ⟨[.crashed t], rfl, fun event member => ?_⟩
    obtain rfl := List.mem_singleton.mp member
    exact fun same => other (Option.some.inj same).symm

end

-----------------------------------------------------------------------------------------
-- One execution at a time
-----------------------------------------------------------------------------------------

/-- The call has made a step and is not over. -/
def UnderWay (config : Config) (calls : Tid → CaptureCall) (pool : Pool World Input) (t : Tid)
    : Prop :=
  pool.live t ∧ pool.thread t ≠ (calls t).thread config

/-- No call that executes a refund makes a step while another one is under way. -/
def OneExecution (config : Config) (calls : Tid → CaptureCall) (before after : Pool World Input)
    : Prop :=
  ∀ t u refundId input, calls t = .executing refundId → calls u = .executing refundId → t ≠ u
    → before.move (machine anyExpiry) (.run t input) = some after → ¬UnderWay config calls before u

/-- What is known of the calls while their executions do not overlap: a call that has claimed a
refund has begun, and as long as it is not over nobody else has claimed the refund since.
-/
structure Undisturbed (config : Config) (calls : Tid → CaptureCall) (pool : Pool World Input)
    : Prop where
  unbegun : ∀ t, pool.thread t = (calls t).thread config
    ∨ Program.Rest (pool.thread t) ((calls t).thread config) ∨ pool.live t = false
  begun : ∀ {t refundId status}, pool.live t → .refundClaimed t refundId status ∈ pool.state.trace
    → pool.thread t ≠ (calls t).thread config
  last : ∀ {t refundId status}, pool.live t → .refundClaimed t refundId status ∈ pool.state.trace
    → claimant refundId pool.state.trace = some t

section

variable {config : Config} {calls : Tid → CaptureCall} {orderId : Id} {amount : Int}
  {pool last : Pool World Input}

/-- A step of the pool leaves the claims of others. -/
theorem Undisturbed.allowed (undisturbed : Undisturbed config calls pool) {t : Tid} {input : Input}
    (moved : pool.move (machine anyExpiry) (.run t input) = some last)
    : StillClaims t pool.state last.state := by
  intro refundId status claimed
  obtain ⟨_, _, _, _, current, _, _⟩ := Pool.move_run moved
  exact undisturbed.last (by simp [Pool.live, current, Program.live]) claimed

/-- A step of one call leaves the others undisturbed. -/
theorem Undisturbed.run (undisturbed : Undisturbed config calls pool) {t : Tid} {input : Input}
    (claims : ∀ u refundId status, .refundClaimed u refundId status ∈ last.state.trace
      → calls u = .executing refundId)
    (moved : pool.move (machine anyExpiry) (.run t input) = some last)
    (grows : Grows (fun event => ∀ u ∈ event.owner, u = t) pool.state.trace last.state.trace)
    (one : OneExecution config calls pool last)
    : Undisturbed config calls last := by
  obtain ⟨β, act, next, value, current, acted, threads⟩ := Pool.move_run moved
  have running : pool.live t := by simp [Pool.live, current, Program.live]
  have other {u : Tid} (different : u ≠ t) : last.thread u = pool.thread u := by
    rw [threads, Function.update_of_ne different]
  have rest : Program.Rest (last.thread t) ((calls t).thread config) := by
    have step : Program.Rest (last.thread t) (pool.thread t) := by
      rw [threads, current, Function.update_self]
      exact .next act next value
    rcases undisturbed.unbegun t with same | later | ended
    · exact same ▸ step
    · exact step.trans later
    · exact absurd running (by simp [ended])
  have mine {u : Tid} {refundId : Id} {status : RefundStatus} (different : u ≠ t)
      (claimed : .refundClaimed u refundId status ∈ last.state.trace)
      : .refundClaimed u refundId status ∈ pool.state.trace :=
    (grows.mem_iff fun own => different (own u rfl)).mp claimed
  refine ⟨fun u => ?_, fun {u refundId status} alive claimed => ?_,
    fun {u refundId status} alive claimed => ?_⟩
  · by_cases same : u = t
    · exact same ▸ Or.inr (Or.inl rest)
    · rw [other same, Pool.live, other same]
      exact undisturbed.unbegun u
  · by_cases same : u = t
    · subst same
      exact fun unmoved => Program.Rest.irrefl _ (unmoved ▸ rest)
    · rw [other same]
      exact undisturbed.begun (by simpa [Pool.live, other same] using alive) (mine same claimed)
  · obtain ⟨events, traced, own⟩ := grows
    rw [traced, claimant_append]
    cases new : claimant refundId events with
    | none =>
        have old : .refundClaimed u refundId status ∈ pool.state.trace :=
          (List.mem_append.mp (traced ▸ claimed)).resolve_left (claimant_eq_none.mp new u status)
        have before : pool.live u := by
          by_cases same : u = t
          · exact same ▸ running
          · simpa [Pool.live, other same] using alive
        rw [Option.none_or, undisturbed.last before old]
    | some v =>
        obtain ⟨event, member, found⟩ := List.exists_of_findSome?_eq_some new
        obtain ⟨new_status, rfl⟩ := claimedBy_eq_some.mp found
        obtain rfl : v = t := own _ member v rfl
        by_cases same : u = v
        · rw [same, Option.some_or]
        · have before : pool.live u := by simpa [Pool.live, other same] using alive
          have claims_now := claims v refundId new_status
            (traced ▸ List.mem_append_left _ member)
          refine absurd ⟨before, undisturbed.begun before (mine same claimed)⟩
            (one v u refundId input claims_now (claims u refundId status claimed) (Ne.symm same) moved)

/-- So does everything else that happens. -/
theorem Undisturbed.move (undisturbed : Undisturbed config calls pool)
    (verified : pool.Verified (captureProtocol calls orderId amount)) {move : Move Input Chance}
    (moved : pool.move (machine anyExpiry) move = some last)
    (one : OneExecution config calls pool last)
    : Undisturbed config calls last := by
  cases move with
  | run t input =>
      obtain ⟨guaranteed, later⟩ := verified.run moved (undisturbed.allowed moved)
      exact undisturbed.run later.inv.2 moved guaranteed.trace one
  | crash t =>
      obtain ⟨_, state, threads⟩ := Pool.move_crash moved
      have traced : last.state.trace = .crashed t :: pool.state.trace := by rw [state]; rfl
      have other {u : Tid} (alive : last.live u) : last.thread u = pool.thread u := by
        have different : u ≠ t := fun same => by
          simp [Pool.live, threads, same, Program.live] at alive
        rw [threads, Function.update_of_ne different]
      have old {u : Tid} {refundId : Id} {status : RefundStatus}
          (claimed : .refundClaimed u refundId status ∈ last.state.trace)
          : .refundClaimed u refundId status ∈ pool.state.trace := by
        rw [traced] at claimed
        simpa using claimed
      refine ⟨fun u => ?_, fun {u _ _} alive claimed => ?_, fun {u refundId _} alive claimed => ?_⟩
      · cases alive : last.live u with
        | false => exact Or.inr (Or.inr rfl)
        | true =>
            have same := other alive
            have before : pool.live u = true := by simpa [Pool.live, same] using alive
            simpa [same, before] using undisturbed.unbegun u
      · rw [other alive]
        exact undisturbed.begun (by simpa [Pool.live, other alive] using alive) (old claimed)
      · have kept : claimant refundId last.state.trace = claimant refundId pool.state.trace := by
          rw [traced]
          rfl
        rw [kept]
        exact undisturbed.last (by simpa [Pool.live, other alive] using alive) (old claimed)
  | env chance =>
      obtain ⟨happened, threads⟩ := Pool.move_env moved
      obtain ⟨state, _⟩ := machine_env happened
      have traced : last.state.trace = pool.state.trace := by rw [state, Chance.apply_trace]
      have lives (u : Tid) : last.live u = pool.live u := by rw [Pool.live, threads, Pool.live]
      refine ⟨fun u => ?_, fun {u _ _} alive claimed => ?_, fun {u _ _} alive claimed => ?_⟩
      · rw [lives, threads]
        exact undisturbed.unbegun u
      · rw [threads]
        exact undisturbed.begun (lives u ▸ alive) (traced ▸ claimed)
      · rw [traced]
        exact undisturbed.last (lives u ▸ alive) (traced ▸ claimed)

/-- Every pool that is reached without overlapping executions is verified, by induction on the run. -/
theorem capture_verified {rows : AList Row} (fits : amount < 10 ^ 18)
    (captured : WithinCapture orderId amount rows)
    (steps : Steps (machine anyExpiry) (OneExecution config calls)
      ⟨World.start rows, fun t => (calls t).thread config⟩ last)
    : last.Verified (captureProtocol calls orderId amount) ∧ Undisturbed config calls last := by
  have holds : (captureProtocol calls orderId amount).inv (World.start rows) :=
    ⟨captured, fun _ _ _ member => absurd member List.not_mem_nil⟩
  induction steps with
  | refl =>
      refine ⟨⟨holds, fun t _ => CaptureCall.capture_safe fits config captured⟩, fun t => Or.inl rfl,
        fun _ member => absurd member List.not_mem_nil,
        fun _ member => absurd member List.not_mem_nil⟩
  | step _ move moved one ih =>
      refine ⟨ih.1.move capture_fits moved fun t input same => ?_, ih.2.move ih.1 moved one⟩
      subst same
      exact ih.2.allowed moved

/-- However the calls interleave, fail and crash: as long as no two executions of a refund
overlap, the active refunds of an order whose payments are of one amount never add up to more.
By the invariant that bounds the active refunds, which every step keeps.
-/
theorem refunds_within_capture {rows : AList Row} (fits : amount < 10 ^ 18)
    (captured : WithinCapture orderId amount rows)
    (steps : Steps (machine anyExpiry) (OneExecution config calls)
      ⟨World.start rows, fun t => (calls t).thread config⟩ last)
    {id : Id} {payment : Payment}
    (found : last.state.db.committed.lookup (.payment id) = some payment)
    (of_order : payment.orderId = orderId)
    : totalRefunded orderId last.state.db.committed ≤ payment.amount := by
  have kept := (capture_verified fits captured steps).1.inv.1
  exact kept.payments id payment found of_order ▸ kept.total

end

/-- An order that has failed after one hundred naira were paid for it. -/
def failedPaid : AList Row :=
  ((∅ : AList Row).insert (.order "order")
    ({ userId := "user", quoteId := "quote", status := .FAILED, sourceCurrency := "NGN",
       destinationAsset := "USDC", sourceAmount := 1000000, destinationAmount := 700000 }
      : Order)).insert (.payment "payment")
    ({ orderId := "order", userId := "user", amount := 1000000, currency := "NGN",
       status := .SUCCEEDED, reference := "PAY_1" } : Payment)

/-- Witness: the rows that the run starts with are within the capture. -/
theorem failedPaid_captured : WithinCapture "order" 1000000 failedPaid := by
  have refunds (id : Id) : failedPaid.lookup (.refund id) = none := by
    simp [failedPaid, AList.lookup_insert_ne, -AList.insert_empty]
  refine ⟨fun id payment found _ => ?_, fun id refund found => ?_, ?_⟩
  · by_cases same : id = "payment"
    · subst same
      obtain rfl := Option.some.inj ((AList.lookup_insert _).symm.trans found)
      rfl
    · rw [failedPaid, AList.lookup_insert_ne (by simpa using same),
        AList.lookup_insert_ne (by simp)] at found
      simp at found
  · simp [refunds] at found
  · decide +kernel

/-- Two refunds of sixty naira are asked for, and the first is executed. -/
def partialRefunds : Tid → CaptureCall
  | 2 => .executing "first"
  | _ => .creating "admin"
      { orderId := "order", amount := some (.finite ⟨60, 0⟩), reason := "partial" } true none

/-- Witness: a run in which two refunds are requested and one of them is executed. -/
theorem refunds_within_capture_partial
    : ∃ last : Pool World Input, totalRefunded "order" last.state.db.committed = 600000
        ∧ totalRefunded "order" last.state.db.committed ≤ 1000000 := by
  have went : ((Pool.scheduleWhere (machine anyExpiry) (fun _ _ _ => true)
      ⟨World.start failedPaid, fun t => (partialRefunds t).thread {}⟩
      (List.replicate 13 (.run 0 { text := "first" }) ++ [.env (.tick 1)]
        ++ List.replicate 9 (.run 1 { text := "second" })
        ++ List.replicate 8 (.run 2 {}))).map fun last =>
          (totalRefunded "order" last.state.db.committed, last.live 1,
            last.state.db.committed.lookup (.payment "payment")))
      = some (600000, false, some
        { orderId := "order", userId := "user", amount := 1000000, currency := "NGN",
          status := .SUCCEEDED, reference := "PAY_1" }) := by
    decide +kernel
  obtain ⟨last, reached, found⟩ := Option.map_eq_some_iff.mp went
  obtain ⟨total, found⟩ := Prod.mk.inj found
  obtain ⟨_, stored⟩ := Prod.mk.inj found
  have alone {before after : Pool World Input} : OneExecution {} partialRefunds before after := by
    intro t u refundId input first second different
    have executes {t : Tid} (executing : partialRefunds t = .executing refundId) : t = 2 := by
      unfold partialRefunds at executing
      split at executing
      · rfl
      · cases executing
    exact absurd ((executes first).trans (executes second).symm) different
  refine ⟨last, total, ?_⟩
  exact refunds_within_capture (by norm_num) failedPaid_captured
    (Steps.of_schedule (fun _ _ => alone) reached) stored rfl

end LuminaRail
