import LuminaRail.Payments.Verdicts
import LuminaRail.Webhooks.Deliveries

/-! Whether the order of several deliveries about a payment matters. A handler that has changed the
payment holds the lock of its row until it has done the rest, so that the others find the payment
either as it was or settled, and settling it again changes nothing.
-/

namespace LuminaRail

open Concurrency Database Service Exclusive Sections

/-- What all deliveries report about the payment. -/
structure Reports (provider : Provider) (paymentId : Id) (payment : Payment)
    (verdict : PaymentStatus) (rows : AList Row) (event : WebhookEventPayload) : Prop where
  names : Names provider event paymentId payment rows
  status : event.status = verdict
  new : rows.lookup (.webhookEvent provider.providerId event.eventId) = none

/-- How far the verdict has got. -/
inductive Stage (paymentId : Id) (payment : Payment) (verdict : PaymentStatus)
    (rows after : AList Row) : Prop
  | untouched (same : Lasting (tableOf rows) (tableOf after))
  | reserved (allowed : PaymentStateMachine.canTransition payment.status verdict)
    (same : Lasting (settleReservation payment.orderId verdict (tableOf rows)) (tableOf after))
  | settled (allowed : PaymentStateMachine.canTransition payment.status verdict)
    (same : Lasting (settle payment.orderId paymentId verdict (tableOf rows)) (tableOf after))

/-- What the verdict makes of the tables, if the payment may take it. -/
def decided (paymentId : Id) (payment : Payment) (verdict : PaymentStatus) (table : Table) : Table :=
  if PaymentStateMachine.canTransition payment.status verdict then
    settle payment.orderId paymentId verdict table
  else
    table

/-- The verdict has got where it is going. -/
def Reached (paymentId : Id) (payment : Payment) (verdict : PaymentStatus) (rows after : AList Row)
    : Prop :=
  Lasting (decided paymentId payment verdict (tableOf rows)) (tableOf after)

variable {provider : Provider} {paymentId : Id} {payment row : Payment} {verdict : PaymentStatus}
  {rows before after : AList Row} {world : World} {t : Tid}

/-- A verdict that is allowed settles the rows. -/
theorem decided_of_allowed {table : Table}
    (allowed : PaymentStateMachine.canTransition payment.status verdict)
    : decided paymentId payment verdict table
      = settle payment.orderId paymentId verdict table :=
  if_pos allowed

/-- Without a transition the payment stays as it is. -/
theorem Stage.reached_of_not_allowed (stage : Stage paymentId payment verdict rows before)
    (illegal : ¬PaymentStateMachine.canTransition payment.status verdict)
    : Reached paymentId payment verdict rows before := by
  cases stage with
  | untouched same => simpa only [Reached, decided, if_neg illegal] using same
  | reserved allowed | settled allowed => exact absurd allowed illegal

/-- The payment is there all the time. -/
theorem Stage.stored (stage : Stage paymentId payment verdict rows before)
    (stored : rows.lookup (.payment paymentId) = some payment)
    : ∃ row, before.lookup (.payment paymentId) = some row := by
  have stored : tableOf rows (.payment paymentId) = some payment := stored
  cases stage with
  | untouched same => exact ⟨payment, (same _ (by trivial)).trans stored⟩
  | reserved _ same => exact ⟨payment, (same _ (by trivial)).trans stored⟩
  | settled _ same =>
      refine ⟨{ payment with status := verdict }, (same _ (by trivial)).trans ?_⟩
      simp [LuminaRail.settle, settleOrder, settleReservation, settlePayment, stored]

/-- Other payments stay as they are. -/
theorem Stage.other (stage : Stage paymentId payment verdict rows before) {id : Id}
    (other : id ≠ paymentId)
    : before.lookup (.payment id) = rows.lookup (.payment id) := by
  cases stage with
  | untouched same | reserved _ same => exact same (.payment id) (by trivial)
  | settled _ same =>
      refine (same (.payment id) (by trivial)).trans ?_
      simp [LuminaRail.settle, settleOrder, settleReservation, settlePayment, other, tableOf]

/-- A stage depends on the lasting rows only. -/
theorem Stage.agree (stage : Stage paymentId payment verdict rows before)
    (agree : Agree Key.lasting before after)
    : Stage paymentId payment verdict rows after := by
  have same : Lasting (tableOf before) (tableOf after) := agree
  cases stage with
  | untouched early => exact .untouched (early.trans same)
  | reserved allowed early => exact .reserved allowed (early.trans same)
  | settled allowed early => exact .settled allowed (early.trans same)

/-- What is reached depends on the lasting rows only. -/
theorem Reached.agree (reached : Reached paymentId payment verdict rows before)
    (agree : Agree Key.lasting before after)
    : Reached paymentId payment verdict rows after :=
  Lasting.trans reached agree

/-- The payment is as it was, or the verdict has got where it is going. -/
theorem Stage.cases_payment (stage : Stage paymentId payment verdict rows before)
    (stored : rows.lookup (.payment paymentId) = some payment)
    (found : before.lookup (.payment paymentId) = some row)
    : row = payment ∨ row = { payment with status := verdict }
        ∧ PaymentStateMachine.canTransition payment.status verdict
        ∧ Reached paymentId payment verdict rows before := by
  have found : tableOf before (.payment paymentId) = some row := found
  have stored : tableOf rows (.payment paymentId) = some payment := stored
  cases stage with
  | untouched same =>
      rw [same _ (by trivial), stored] at found
      exact Or.inl (Option.some.inj found).symm
  | reserved _ same =>
      rw [same _ (by trivial)] at found
      exact Or.inl (Option.some.inj (stored.symm.trans found)).symm
  | settled allowed same =>
      rw [same _ (by trivial)] at found
      simp only [settle, settleOrder, settleReservation, settlePayment, stored, Option.map_some,
        if_true, Option.some.injEq] at found
      refine Or.inr ⟨found.symm, allowed, ?_⟩
      rw [Reached, decided_of_allowed allowed]
      exact same

/-- The verdict reaches the liquidity. -/
theorem Stage.reserve (stage : Stage paymentId payment verdict rows before)
    (allowed : PaymentStateMachine.canTransition payment.status verdict)
    (same : Lasting (settleReservation payment.orderId verdict (tableOf before)) (tableOf after))
    : Stage paymentId payment verdict rows after := by
  cases stage with
  | untouched early => exact .reserved allowed (early.settleReservation.trans same)
  | reserved _ early =>
      refine .reserved allowed ?_
      rw [← settleReservation_again]
      exact early.settleReservation.trans same
  | settled _ early =>
      refine .settled allowed ?_
      rw [← settleReservation_settle]
      exact early.settleReservation.trans same

/-- Rows whose reservation is settled have been reached, if the verdict is allowed. -/
theorem Reached.reserve (reached : Reached paymentId payment verdict rows before)
    (allowed : PaymentStateMachine.canTransition payment.status verdict)
    (same : Lasting (settleReservation payment.orderId verdict (tableOf before)) (tableOf after))
    : Reached paymentId payment verdict rows after := by
  rw [Reached, decided_of_allowed allowed] at reached ⊢
  rw [← settleReservation_settle]
  exact reached.settleReservation.trans same

/-- From wherever it is, the verdict gets where it is going. -/
theorem Stage.settle (stage : Stage paymentId payment verdict rows before)
    (allowed : PaymentStateMachine.canTransition payment.status verdict)
    (same : Lasting (settle payment.orderId paymentId verdict (tableOf before)) (tableOf after))
    : Reached paymentId payment verdict rows after := by
  rw [Reached, decided_of_allowed allowed]
  cases stage with
  | untouched early => exact early.settle.trans same
  | reserved _ early =>
      rw [← settle_settleReservation]
      exact early.settle.trans same
  | settled _ early =>
      rw [← settle_again]
      exact early.settle.trans same

/-- Rows that an allowed verdict has reached are settled. -/
theorem Stage.of_reached (allowed : PaymentStateMachine.canTransition payment.status verdict)
    (reached : Reached paymentId payment verdict rows before)
    : Stage paymentId payment verdict rows before := by
  rw [Reached, decided_of_allowed allowed] at reached
  exact .settled allowed reached

/-- What is known while the deliveries are processed. -/
structure Settling (provider : Provider) (paymentId : Id) (payment : Payment)
    (verdict : PaymentStatus) (rows : AList Row) (deliveries : Tid → Option Delivery)
    (world : World) : Prop where
  stage : Stage paymentId payment verdict rows world.db.committed
  recorded : ∀ eventId, rows.lookup (.webhookEvent provider.providerId eventId) = none
    → (world.db.committed.lookup (.webhookEvent provider.providerId eventId)).isSome
    → ∃ u, .webhookClaimed u provider.providerId eventId ∈ world.trace
  delivering : ∀ u eventId, .webhookClaimed u provider.providerId eventId ∈ world.trace
    → (deliveries u).isSome
  answered : ∀ u, .webhookAnswered u ∈ world.trace
    → ∃ v eventId, .webhookClaimed v provider.providerId eventId ∈ world.trace
  reached : ∀ u eventId, .webhookClaimed u provider.providerId eventId ∈ world.trace
    → .webhookAnswered u ∈ world.trace → Reached paymentId payment verdict rows world.db.committed

/-- A transaction has the turn while it holds the lock of the payment. -/
def locking (provider : Provider) (paymentId : Id) (payment : Payment)
    (verdict : PaymentStatus) (rows : AList Row) (deliveries : Tid → Option Delivery)
    : Sections TxId where
  owner x := x.owner
  mine x world := world.db.holder (.payment paymentId) = some x
  covers := Key.lasting
  inv := Settling provider paymentId payment verdict rows deliveries
  final := Reached paymentId payment verdict rows

variable {deliveries : Tid → Option Delivery}

/-- Events of other kinds do not matter. -/
theorem Settling.grows (kind : Event → Prop) {after : World}
    (settling : Settling provider paymentId payment verdict rows deliveries world)
    (committed : after.db.committed = world.db.committed)
    (grows : Grows kind world.trace after.trace)
    (unclaimed : ∀ u eventId, ¬kind (.webhookClaimed u provider.providerId eventId))
    (unanswered : ∀ u, ¬kind (.webhookAnswered u))
    : Settling provider paymentId payment verdict rows deliveries after := by
  have claims (u : Tid) (eventId : String)
      : .webhookClaimed u provider.providerId eventId ∈ after.trace
        ↔ .webhookClaimed u provider.providerId eventId ∈ world.trace :=
    grows.mem_iff (unclaimed u eventId)
  have answers (u : Tid) : .webhookAnswered u ∈ after.trace ↔ .webhookAnswered u ∈ world.trace :=
    grows.mem_iff (unanswered u)
  constructor
  · simpa only [committed] using settling.stage
  · simpa only [claims, committed] using settling.recorded
  · simpa only [claims] using settling.delivering
  · simpa only [claims, answers] using settling.answered
  · simpa only [claims, answers, committed] using settling.reached

/-- The protocol of the deliveries is reflexive and transitive. -/
theorem lawful_locking
    : (locking provider paymentId payment verdict rows deliveries).Lawful where
  observable :=
    { calm := fun _ _ committed trace settling =>
        settling.grows (fun _ => False) committed ⟨[], trace, nofun⟩ (fun _ _ => id)
          fun _ => id
      crashed := fun t world settling =>
        settling.grows (· = .crashed t) rfl ⟨[.crashed t], rfl, by simp⟩
          (by simp) (by simp) }
  checked t orderId status next world settling :=
    settling.grows (· = .orderChecked t orderId status next) rfl ⟨[_], rfl, by simp⟩
      (by simp) (by simp)
  still _ _ _ _ _ mine := mine
  one _ mine mine' := Option.some.inj (mine.symm.trans mine')
  held {h t world after} other apart _ mine := by
    have opened := world.db.holder_open mine
    rw [← apart.others h other] at opened
    exact ((apart.isolated h.owner other).locks rfl opened).mpr mine

/-- The turn of a transaction that holds the lock, if the payment may take the verdict. -/
def locked (provider : Provider) (paymentId : Id) (payment : Payment)
    (verdict : PaymentStatus) (rows : AList Row) (deliveries : Tid → Option Delivery)
    (allowed : PaymentStateMachine.canTransition payment.status verdict) (x : TxId)
    : Exclusive (locking provider paymentId payment verdict rows deliveries).protocol x.owner :=
  Sections.exclusive lawful_locking x
    (fun before after =>
      Lasting (settleReservation payment.orderId verdict (tableOf before)) (tableOf after)) (some x)
    (fun {before before' after after'} early late accepted => by
      have early : Lasting (tableOf before') (tableOf before) :=
        fun key lasts => (early key lasts).symm
      have late : Lasting (tableOf after) (tableOf after') := late
      exact early.settleReservation.trans (accepted.trans late))
    (fun mine _ locks => locks _ _ mine)
    fun {world db} inv mine accepted _ frame kept => by
      have accepted : Lasting (settleReservation payment.orderId verdict (tableOf world.db.committed))
        (tableOf db.committed) := accepted
      refine ⟨⟨inv.stage.reserve allowed accepted, fun eventId new there => ?_, inv.delivering,
        inv.answered, fun u eventId claims answers => ?_⟩, kept x rfl _ mine, fun reached => ?_⟩
      · have same := frame (.webhookEvent provider.providerId eventId) id
        exact inv.recorded eventId new (same ▸ there)
      · exact (inv.reached u eventId claims answers).reserve allowed accepted
      · exact Reached.reserve reached allowed accepted

-----------------------------------------------------------------------------------------
-- A handler
-----------------------------------------------------------------------------------------

/-- What a handler has found of the payment. -/
def Seen (paymentId : Id) (payment : Payment) (verdict : PaymentStatus) (rows : AList Row)
    (row : Payment) (committed : AList Row) : Prop :=
  row = payment ∨ row = { payment with status := verdict }
    ∧ PaymentStateMachine.canTransition payment.status verdict
    ∧ Reached paymentId payment verdict rows committed

/-- A verdict that is allowed for the row that was seen is allowed for the payment. -/
theorem Seen.allowed (seen : Seen paymentId payment verdict rows row before)
    (legal : PaymentStateMachine.canTransition row.status verdict)
    : PaymentStateMachine.canTransition payment.status verdict := by
  rcases seen with rfl | ⟨_, allowed, _⟩
  · exact legal
  · exact allowed

/-- The row that was seen is of the same order. -/
theorem Seen.orderId (seen : Seen paymentId payment verdict rows row before)
    : row.orderId = payment.orderId := by
  rcases seen with rfl | ⟨rfl, _, _⟩ <;> rfl

/-- What was seen of the payment is stable, since it only moves by the verdict. -/
theorem stable_seen
    : (locking provider paymentId payment verdict rows deliveries).protocol.Stable t
        fun world => Seen paymentId payment verdict rows row world.db.committed := by
  intro world after _ _ relied seen
  refine seen.imp id fun settled => ?_
  exact ⟨settled.1, settled.2.1, relied.2.2.2 settled.2.2⟩

/-- The writes of a delivery stay covered. -/
theorem stable_covered
    : (locking provider paymentId payment verdict rows deliveries).protocol.Stable t
        fun world => Covered Key.lasting t world.db :=
  fun _ _ _ _ relied covered => covered.stable relied.1

/-- What is reached stays reached. -/
theorem stable_reached
    : (locking provider paymentId payment verdict rows deliveries).protocol.Stable t
        fun world => Reached paymentId payment verdict rows world.db.committed :=
  fun _ _ _ _ relied reached => relied.2.2.2 reached

/-- The transaction has not written anything yet. -/
def Blank (x : TxId) (world : World) : Prop := world.db.During x fun writes _ => writes = []

/-- A transaction without writes stays without writes. -/
theorem stable_blank {x : TxId} (own : x.owner = t)
    : (locking provider paymentId payment verdict rows deliveries).protocol.Stable t (Blank x) :=
  stable_during lawful_locking.transactional.reading own fun _ _ _ _ _ blank => blank

/-- The transaction has done what the verdict asks for and holds the lock of the payment. -/
def Prepared (provider : Provider) (paymentId : Id) (payment : Payment) (verdict : PaymentStatus)
    (rows : AList Row) (deliveries : Tid → Option Delivery)
    (allowed : PaymentStateMachine.canTransition payment.status verdict) (x : TxId) (world : World)
    : Prop :=
  ∃ before last, (locked provider paymentId payment verdict rows deliveries allowed x).At last world
    ∧ Stage paymentId payment verdict rows before
    ∧ tableOf (last.visible (some x)) = settle payment.orderId paymentId verdict (tableOf before)

section

variable (stored : rows.lookup (.payment paymentId) = some payment)
  (allowed : PaymentStateMachine.canTransition payment.status verdict)
include stored

/-- Either the payment gets its status and the transaction its lock, or all is done already. -/
theorem spec_updatePayment {x : TxId}
    : (locking provider paymentId payment verdict rows deliveries).protocol.Spec x.owner
        (fun world => Blank x world ∧ Covered Key.lasting x.owner world.db
          ∧ Seen paymentId payment verdict rows row world.db.committed)
        (updateMany (some x) (.payment paymentId) (fun other => other.status = row.status)
          fun other => { other with status := verdict })
        (fun count world =>
          (count = 0 ∧ Blank x world ∧ Reached paymentId payment verdict rows world.db.committed)
          ∨ (count ≠ 0 ∧ ∃ (s : Snapshot) (found : Payment),
            (locked provider paymentId payment verdict rows deliveries allowed x).At s world
            ∧ Stage paymentId payment verdict rows s.committed
            ∧ s.committed.lookup (.payment paymentId) = some found
            ∧ found.orderId = payment.orderId
            ∧ s.pending x
              = some [⟨.payment paymentId, ({ found with status := verdict } : Payment)⟩]))
        fun _ _ => True := by
  have stable : (locking provider paymentId payment verdict rows deliveries).protocol.Stable x.owner
      fun world => Blank x world ∧ Covered Key.lasting x.owner world.db
        ∧ Seen paymentId payment verdict rows row world.db.committed :=
    (stable_blank rfl).and (stable_covered.and stable_seen)
  refine spec_statement lawful_locking.transactional.reading stable
    (fun world result db inv given opened ran _ => ?_) fun _ _ _ _ _ _ => trivial
  obtain ⟨blank, covered, seen⟩ := given
  obtain ⟨writes, opened⟩ := Option.isSome_iff_exists.mp (opened x rfl).1
  obtain rfl : writes = [] := blank writes opened
  obtain ⟨found, there⟩ := inv.stage.stored stored
  have visible : world.db.visible (some x) = world.db.committed := by
    simp [Server.visible, opened, overlay]
  rw [visible, there] at ran
  dsimp only at ran
  have known := inv.stage.cases_payment stored there
  split at ran
  · obtain ⟨after, granted, same⟩ := Option.map_eq_some_iff.mp ran
    obtain ⟨rfl, rfl⟩ := Prod.mk.inj same
    obtain ⟨kept, guaranteed⟩ :=
      lawful_locking.transactional.unseen inv (Unseen.save granted)
    obtain ⟨committed, pending, _⟩ := Server.save_eq_some opened granted
    have written : after.pending x
        = some [⟨.payment paymentId, ({ found with status := verdict } : Payment)⟩] := by
      simp [pending]
    have held : after.holder (.payment paymentId) = some x :=
      after.writes_held written _ List.mem_cons_self
    refine ⟨kept, guaranteed, Or.inr ⟨one_ne_zero, _, found,
      At.of held (fun _ _ => by rw [committed])
        (covered.save (by simp [Key.lasting]) rfl opened granted) ?_, inv.stage, there, ?_, ?_⟩⟩
    · simp [locked, Sections.exclusive, written]
    · rcases known with rfl | ⟨rfl, _, _⟩ <;> rfl
    · simp [Snapshot.of, written]
  · rename_i other
    obtain ⟨rfl, rfl⟩ := Prod.mk.inj (Option.some.inj ran)
    obtain ⟨kept, guaranteed⟩ := lawful_locking.transactional.reading.refl (t := x.owner) inv
    refine ⟨kept, guaranteed, Or.inl ⟨rfl, blank, ?_⟩⟩
    rcases known with rfl | ⟨_, _, reached⟩
    · rcases seen with rfl | ⟨_, _, reached⟩
      · simp at other
      · exact reached
    · exact reached

/-- What the transaction of a handler leaves to be committed. -/
theorem spec_applyEventInTx {x : TxId}
    : (locking provider paymentId payment verdict rows deliveries).protocol.Spec x.owner
        (fun world => Blank x world ∧ Covered Key.lasting x.owner world.db
          ∧ Seen paymentId payment verdict rows row world.db.committed)
        (WebhookService.applyEventInTx x paymentId row verdict)
        (fun _ world => (Blank x world ∧ Reached paymentId payment verdict rows world.db.committed)
          ∨ Prepared provider paymentId payment verdict rows deliveries allowed x world)
        fun _ _ => True := by
  refine Protocol.Spec.pre (P := fun world => row.orderId = payment.orderId ∧ Blank x world
    ∧ Covered Key.lasting x.owner world.db
    ∧ Seen paymentId payment verdict rows row world.db.committed) ?_
    fun world _ given => ⟨given.2.2.orderId, given⟩
  refine Protocol.Spec.assume fun same => ?_
  refine Protocol.Spec.bind (spec_updatePayment stored allowed) fun count => ?_
  split
  · rename_i none_updated
    refine Protocol.Spec.pure _ fun world _ given => Or.inl ?_
    rcases given with ⟨_, blank, reached⟩ | ⟨updated, _⟩
    · exact ⟨blank, reached⟩
    · exact absurd none_updated updated
  · rename_i updated
    refine Protocol.Spec.of_safe fun world inv given => ?_
    rcases given with ⟨none_updated, _⟩ | ⟨_, s, found, here, stage, there, order, opened⟩
    · exact absurd none_updated updated
    rw [same, ← order]
    refine Protocol.Spec.safe ((yields_newsInTx (fun _ lasts => lasts) there opened
      fun before after equal => ?_).conseq (fun _ _ here => here) (fun _ world _ given => ?_)
      fun _ _ _ _ => trivial) inv here
    · intro key _
      rw [equal, order]
    · obtain ⟨last, there, _, _, settled⟩ := given
      exact Or.inr ⟨s.committed, last, there, stage, order ▸ settled⟩

include allowed in
/-- A handler that has found the payment settles it. -/
theorem spec_applyEventTransaction
    : (locking provider paymentId payment verdict rows deliveries).protocol.Spec t
        (fun world => Covered Key.lasting t world.db
          ∧ Seen paymentId payment verdict rows row world.db.committed)
        (transaction fun tx => WebhookService.applyEventInTx tx paymentId row verdict)
        (fun _ world => Reached paymentId payment verdict rows world.db.committed)
        fun _ _ => True := by
  refine spec_transaction
    (B := fun x world => Blank x world ∧ Covered Key.lasting x.owner world.db
      ∧ Seen paymentId payment verdict rows row world.db.committed)
    (R := fun x _ world => (Blank x world
        ∧ Reached paymentId payment verdict rows world.db.committed)
      ∨ Prepared provider paymentId payment verdict rows deliveries allowed x world)
    lawful_locking.transactional (stable_covered.and stable_seen) (fun world _ given => ?_)
    (fun x own => ?_) (fun x _ own => ?_)
    (fun x _ world writes own inv given opened _ => ?_) (fun _ _ _ _ => trivial)
    (fun _ _ _ _ _ _ _ _ => trivial) (fun _ => Protocol.Stable.const True) fun _ _ _ _ _ => trivial
  · exact ⟨Server.During.begin world.db t, given.1.begin, given.2⟩
  · subst own
    exact spec_applyEventInTx stored allowed
  · subst own
    refine ((stable_blank rfl).and stable_reached).or (Protocol.Stable.exists fun before =>
      Protocol.Stable.exists fun last => ?_)
    exact (At.stable last).and (Protocol.Stable.const _)
  · subst own
    rcases given with ⟨blank, reached⟩ | ⟨before, last, here, stage, settled⟩
    · obtain rfl := blank writes opened
      have same : (world.db.commit x).committed = world.db.committed := by simp [opened, overlay]
      obtain ⟨kept, guaranteed⟩ := lawful_locking.transactional.unseen inv
        ⟨Apart.commit world.db (x := x) rfl, same⟩
      exact ⟨kept, guaranteed, same ▸ reached⟩
    · have agree : Agree Key.lasting (last.visible (some x)) (world.db.commit x).committed := by
        refine here.visible fun y member => ?_
        obtain rfl := Option.some.inj member
        simp [opened]
      have reached : Reached paymentId payment verdict rows (world.db.commit x).committed := by
        refine stage.settle allowed ?_
        rw [← settled]
        exact agree
      refine ⟨⟨.of_reached allowed reached, fun eventId new there => ?_, inv.delivering,
        inv.answered, fun _ _ _ _ => reached⟩, ?_, reached⟩
      · have same : (world.db.commit x).committed.lookup (.webhookEvent provider.providerId eventId)
            = world.db.committed.lookup (.webhookEvent provider.providerId eventId) :=
          here.covered.commit rfl opened id
        exact inv.recorded eventId new (same ▸ there)
      · exact lawful_locking.guar_of_mine inv here.mine rfl (Apart.commit world.db rfl)
          (Grows.refl _ _) fun _ => reached

end

/-- The program has not handled any event of the provider yet, nor written what an event changes. -/
structure Undelivered (provider : Provider) (t : Tid) (world : World) : Prop where
  unclaimed : ∀ eventId, .webhookClaimed t provider.providerId eventId ∉ world.trace
  unanswered : .webhookAnswered t ∉ world.trace
  unwritten : Covered Key.lasting t world.db

/-- Others claim no event for the delivery. -/
theorem stable_unclaimed (eventId : String)
    : (locking provider paymentId payment verdict rows deliveries).protocol.Stable t
        fun world => .webhookClaimed t provider.providerId eventId ∉ world.trace :=
  stable_notMem rfl

/-- Others deliver nothing for the delivery. -/
theorem stable_undelivered
    : (locking provider paymentId payment verdict rows deliveries).protocol.Stable t
        (Undelivered provider t) := by
  intro world after inv inv' relied given
  exact ⟨fun eventId => stable_unclaimed eventId world after inv inv' relied (given.unclaimed eventId),
    stable_notMem rfl world after inv inv' relied given.unanswered, given.unwritten.stable relied.1⟩

/-- The program has claimed nothing, but somebody has. -/
def Duplicate (provider : Provider) (t : Tid) (world : World) : Prop :=
  (∀ eventId, .webhookClaimed t provider.providerId eventId ∉ world.trace)
    ∧ ∃ u eventId, .webhookClaimed u provider.providerId eventId ∈ world.trace

/-- A duplicate stays one. -/
theorem stable_duplicate
    : (locking provider paymentId payment verdict rows deliveries).protocol.Stable t
        (Duplicate provider t) := by
  intro world after inv inv' relied given
  obtain ⟨unclaimed, u, eventId, claimed⟩ := given
  exact ⟨fun other => stable_unclaimed other world after inv inv' relied (unclaimed other), u, eventId,
    stable_mem _ world after inv inv' relied claimed⟩

section

variable {event : WebhookEventPayload}
  (reports : Reports provider paymentId payment verdict rows event)
include reports

/-- A handler finds the payment, in whatever stage it is. -/
theorem spec_applyEvent
    : (locking provider paymentId payment verdict rows deliveries).protocol.Spec t
        (fun world => Covered Key.lasting t world.db) (WebhookService.applyEvent provider event)
        (fun _ world => Reached paymentId payment verdict rows world.db.committed)
        fun _ _ => True := by
  obtain ⟨name, same_name, of_name, only⟩ := reports.names.named
  have stored := reports.names.stored
  unfold WebhookService.applyEvent
  rw [same_name]
  refine Protocol.Spec.bind (Q := fun found world => Covered Key.lasting t world.db
    ∧ ∃ row, found = some (paymentId, row)
      ∧ Seen paymentId payment verdict rows row world.db.committed
      ∧ (¬PaymentStateMachine.canTransition row.status verdict
        → Reached paymentId payment verdict rows world.db.committed)) ?_ fun found => ?_
  · refine spec_findFirst lawful_locking.transactional.reading stable_covered (fun found => ?_)
      (fun world found inv covered _ listed missing => ?_) fun _ _ _ _ _ _ => trivial
    · refine stable_covered.and (Protocol.Stable.exists fun row => (Protocol.Stable.const _).and
        (stable_seen.and (Protocol.Stable.imp _ fun _ => stable_reached)))
    · refine ⟨covered, ?_⟩
      obtain ⟨row, there⟩ := inv.stage.stored stored
      have known := inv.stage.cases_payment stored there
      obtain ⟨provided, named⟩ : row.provider = provider.providerId
          ∧ (row.providerPaymentId = some name ∨ row.reference = name) := by
        rcases known with rfl | ⟨rfl, _⟩ <;> exact ⟨reports.names.ofProvider, of_name⟩
      cases found with
      | none =>
          have there := mem_paymentsNamed.mpr ⟨there, provided, named⟩
          have empty : WebhookService.paymentsNamed provider.providerId name world.db.committed = [] :=
            missing rfl
          simp [empty] at there
      | some entry =>
          obtain ⟨id, found⟩ := entry
          obtain ⟨shown, provided, named⟩ := mem_paymentsNamed.mp (listed _ rfl)
          have shown : world.db.committed.lookup (.payment id) = some found := shown
          have same : id = paymentId := by
            by_contra other
            rw [inv.stage.other other] at shown
            exact other (only _ (mem_paymentsNamed.mpr ⟨shown, provided, named⟩))
          subst same
          refine ⟨found, rfl, inv.stage.cases_payment stored shown, fun illegal => ?_⟩
          rcases inv.stage.cases_payment stored shown with rfl | ⟨_, _, reached⟩
          · exact inv.stage.reached_of_not_allowed illegal
          · exact reached
  · refine Protocol.Spec.of_safe fun world inv given => ?_
    obtain ⟨covered, row, rfl, seen, illegal⟩ := given
    dsimp only
    rw [reports.status]
    split
    · rename_i legal
      exact (spec_applyEventTransaction stored (seen.allowed legal)).safe inv ⟨covered, seen⟩
    · rename_i blocked
      exact (Protocol.Spec.pure (P := fun world =>
        Reached paymentId payment verdict rows world.db.committed) () fun _ _ given => given).safe inv
        (illegal blocked)

/-- Either the event is claimed now, or it has been claimed already. -/
theorem spec_claimReported (delivered : (deliveries t).isSome)
    : (locking provider paymentId payment verdict rows deliveries).protocol.Spec t
        (Undelivered provider t) (WebhookService.claimEvent provider event)
        (fun duplicate world => match duplicate with
          | none => .webhookClaimed t provider.providerId event.eventId ∈ world.trace
              ∧ Covered Key.lasting t world.db
          | some _ => Duplicate provider t world)
        fun _ _ => True := by
  refine Protocol.Spec.tryCatch (E := fun error world =>
    (∀ eventId, .webhookClaimed t provider.providerId eventId ∉ world.trace)
      ∧ (error.errorCode = "P2002" → Duplicate provider t world))
    (Protocol.Spec.bind (Q := fun _ world =>
      .webhookClaimed t provider.providerId event.eventId ∈ world.trace
        ∧ Covered Key.lasting t world.db) ?_ fun _ => Protocol.Spec.pure none fun _ _ given => given)
    fun error => ?_
  · refine lawful_locking.spec_insertOutside stable_undelivered id (by simp [Event.owner])
      (fun agree reached => Reached.agree reached agree)
      (fun {world db} inv given absent committed pending => ?_) (fun world inv given present =>
        ⟨given.unclaimed, fun _ => ⟨given.unclaimed, ?_⟩⟩) fun world text given =>
        ⟨given.unclaimed, by simp⟩
    · have agree : Agree Key.lasting world.db.committed db.committed := by
        intro key lasts
        have different : key ≠ .webhookEvent provider.providerId event.eventId := by
          rintro rfl
          exact lasts
        rw [committed, AList.lookup_insert_ne different]
      refine ⟨⟨inv.stage.agree agree, fun eventId new there => ?_, fun u eventId claims => ?_,
        fun u _ => ⟨t, event.eventId, List.mem_cons_self⟩, fun u eventId claims answers => ?_⟩,
        List.mem_cons_self, fun x writes own opened => given.unwritten x writes own (pending ▸ opened)⟩
      · by_cases same : eventId = event.eventId
        · exact ⟨t, by simp [same]⟩
        · rw [committed, AList.lookup_insert_ne (by simpa using same)] at there
          obtain ⟨u, claims⟩ := inv.recorded eventId new there
          exact ⟨u, List.mem_cons_of_mem _ claims⟩
      · rcases List.mem_cons.mp claims with same | before
        · obtain ⟨rfl, _⟩ : u = t ∧ eventId = event.eventId := by simpa using same
          exact delivered
        · exact inv.delivering u eventId before
      · have answered : .webhookAnswered u ∈ world.trace := by simpa using answers
        rcases List.mem_cons.mp claims with same | before
        · obtain ⟨rfl, _⟩ : u = t ∧ eventId = event.eventId := by simpa using same
          exact absurd answered given.unanswered
        · exact (inv.reached u eventId before answered).agree agree
    · obtain ⟨u, claims⟩ := inv.recorded event.eventId reports.new present
      exact ⟨u, event.eventId, claims⟩
  · split
    · refine Protocol.Spec.bind (Q := fun _ => Duplicate provider t) ?_ fun existing => ?_
      · refine (spec_findUnique lawful_locking.transactional.reading stable_duplicate
          (fun _ _ given _ => given) fun _ _ _ _ _ _ => trivial).pre fun world _ given => ?_
        exact given.2 ‹_›
      · split
        · exact Protocol.Spec.pure _ fun _ _ given => given
        · exact Protocol.Spec.pure _ fun _ _ given => given
    · exact Protocol.Spec.throw error fun _ _ _ => trivial

/-- A handler that answers has left the verdict where it is going, or somebody has claimed the same
event.
-/
theorem spec_handleReported (delivered : (deliveries t).isSome)
    : (locking provider paymentId payment verdict rows deliveries).protocol.Spec t
        (Undelivered provider t) (WebhookService.handleEvent provider event)
        (fun _ world => Duplicate provider t world
          ∨ .webhookClaimed t provider.providerId event.eventId ∈ world.trace
            ∧ Reached paymentId payment verdict rows world.db.committed)
        fun _ _ => True := by
  refine Protocol.Spec.bind (spec_claimReported reports delivered) fun duplicate => ?_
  cases duplicate with
  | some duplicate => exact Protocol.Spec.pure _ fun _ _ given => Or.inl given
  | none =>
      have claim_stays {before after : World}
          (grows : ∃ kind, Grows kind before.trace after.trace)
          (claimed : .webhookClaimed t provider.providerId event.eventId ∈ before.trace)
          : .webhookClaimed t provider.providerId event.eventId ∈ after.trace := by
        obtain ⟨kind, grows⟩ := grows
        exact grows.mem.mpr (Or.inl claimed)
      refine Protocol.Spec.bind (Q := fun _ world =>
        Reached paymentId payment verdict rows world.db.committed
          ∧ .webhookClaimed t provider.providerId event.eventId ∈ world.trace) ?_ fun _ => ?_
      · refine ((spec_applyEvent reports).frame (fun relied => claim_stays ⟨_, relied.2.1⟩)
          fun guaranteed => claim_stays ⟨_, guaranteed.2.1⟩).conseq
            (fun _ _ given => ⟨given.2, given.1⟩) (fun _ _ _ given => given) fun _ _ _ _ => trivial
      have stable : (locking provider paymentId payment verdict rows deliveries).protocol.Stable t
          fun world => Reached paymentId payment verdict rows world.db.committed
            ∧ .webhookClaimed t provider.providerId event.eventId ∈ world.trace :=
        stable_reached.and (stable_mem _)
      refine Protocol.Spec.bind (Q := fun _ world =>
        Reached paymentId payment verdict rows world.db.committed
          ∧ .webhookClaimed t provider.providerId event.eventId ∈ world.trace)
        (spec_now lawful_locking.transactional.reading stable fun _ _ given => given) fun time => ?_
      refine Protocol.Spec.bind (Q := fun _ world =>
        Reached paymentId payment verdict rows world.db.committed
          ∧ .webhookClaimed t provider.providerId event.eventId ∈ world.trace)
        (lawful_locking.spec_updateOutside stable id (fun agree reached => Reached.agree reached agree)
          (fun {world db row} inv given found committed => ?_) fun _ _ _ => trivial)
        fun _ => Protocol.Spec.pure _ fun _ _ given => Or.inr ⟨given.2, given.1⟩
      have agree : Agree Key.lasting world.db.committed db.committed := by
        intro key lasts
        have different : key ≠ .webhookEvent provider.providerId event.eventId := by
          rintro rfl
          exact lasts
        rw [committed, AList.lookup_insert_ne different]
      refine ⟨⟨inv.stage.agree agree, fun eventId new there => ?_, inv.delivering, inv.answered,
        fun u eventId claims answers => (inv.reached u eventId claims answers).agree agree⟩,
        given.1.agree agree, given.2⟩
      by_cases same : eventId = event.eventId
      · exact ⟨t, same ▸ given.2⟩
      · rw [committed, AList.lookup_insert_ne (by simpa using same)] at there
        exact inv.recorded eventId new there

end

/-- Processing a delivery is safe. -/
theorem safe_processReported {crypto : Crypto} {config : Config} {delivery : Delivery}
    (carries : delivery.Carries crypto config provider
      (Reports provider paymentId payment verdict rows)) (delivered : (deliveries t).isSome)
    {world : World} (inv : Settling provider paymentId payment verdict rows deliveries world)
    (fresh : Undelivered provider t world)
    : (locking provider paymentId payment verdict rows deliveries).protocol.Safe t (fun _ _ => True)
        (delivery.process crypto config).thread world := by
  have unowned {before after : World} (same : after.db = before.db)
      (grows : Grows (fun event => event.owner = none) before.trace after.trace)
      (inv : Settling provider paymentId payment verdict rows deliveries before)
      : Settling provider paymentId payment verdict rows deliveries after :=
    inv.grows _ (congrArg _ same) grows (by simp [Event.owner]) (by simp [Event.owner])
  have quiet {before after : World} (same : after.db = before.db)
      (grows : Grows (fun event => event.owner = none) before.trace after.trace)
      (given : Undelivered provider t before)
      : Undelivered provider t after :=
    ⟨fun eventId => mt (grows.mem_iff (by simp [Event.owner])).mp (given.unclaimed eventId),
      mt (grows.mem_iff (by simp [Event.owner])).mp given.unanswered, same ▸ given.unwritten⟩
  have answering : (locking provider paymentId payment verdict rows deliveries).protocol.Stable t
      fun world => Duplicate provider t world
        ∨ (∃ eventId, .webhookClaimed t provider.providerId eventId ∈ world.trace)
          ∧ Reached paymentId payment verdict rows world.db.committed :=
    stable_duplicate.or ((Protocol.Stable.exists fun _ => stable_mem _).and stable_reached)
  refine Service.thread_safe (Delivery.spec_process lawful_locking stable_undelivered unowned quiet
    carries (F := fun _ => True) (fun event reports => ?_) (fun _ _ => trivial) answering
    (Protocol.Stable.const True) (fun world inv given => ?_) fun world inv _ => ?_) inv fresh
  · refine (spec_handleReported reports delivered).conseq (fun _ _ given => given)
      (fun _ world _ given => given.imp id fun done => ?_) fun _ _ _ _ => trivial
    exact ⟨⟨event.eventId, done.1⟩, done.2⟩
  · have claims (u : Tid) (eventId : String) : .webhookClaimed u provider.providerId eventId
        ∈ .webhookAnswered t :: world.trace
          ↔ .webhookClaimed u provider.providerId eventId ∈ world.trace := by
      simp
    refine ⟨inv.stage, ?_, ?_, fun u answered => ?_, fun u eventId claimed answered => ?_⟩
    · simpa only [claims] using inv.recorded
    · simpa only [claims] using inv.delivering
    · simp only [claims]
      rcases List.mem_cons.mp answered with same | before
      · rcases given with ⟨_, claimed⟩ | ⟨⟨eventId, claimed⟩, _⟩
        · exact claimed
        · exact ⟨t, eventId, claimed⟩
      · exact inv.answered u before
    · rw [claims] at claimed
      rcases List.mem_cons.mp answered with same | before
      · obtain rfl : u = t := by simpa using same
        exact given.elim (fun other => absurd claimed (other.1 eventId)) And.right
      · exact inv.reached u eventId claimed before
  · exact inv.grows (· = .webhookFailed t) rfl
      ⟨[.webhookFailed t], rfl, by simp⟩ (by simp) (by simp)

/-- Transactions are not aborted by chance. -/
def uninterrupted (mayExpire : (Tid → Bool) → World → String → Bool) : Machine World Chance where
  env live world chance :=
    match chance with
    | .abort _ => none
    | _ => (machine mayExpire).env live world chance
  crash := (machine mayExpire).crash

/-- Once all deliveries have been answered, the verdict has got where it is going. -/
theorem reached_of_answered {crypto : Crypto} {config : Config}
    {mayExpire : (Tid → Bool) → World → String → Bool} {pool : Pool World Input}
    (carries : ∀ t delivery, deliveries t = some delivery
      → delivery.Carries crypto config provider (Reports provider paymentId payment verdict rows))
    (some_delivery : ∃ t, (deliveries t).isSome)
    (run : AnyRun (uninterrupted mayExpire) ⟨World.start rows, processing crypto config deliveries⟩
      pool)
    (answered : ∀ t, (deliveries t).isSome → .webhookAnswered t ∈ pool.state.trace)
    : Reached paymentId payment verdict rows pool.state.db.committed := by
  have start : Settling provider paymentId payment verdict rows deliveries (World.start rows) := by
    refine ⟨.untouched fun _ _ => rfl, fun eventId new there => ?_, nofun, nofun, nofun⟩
    have there : (rows.lookup (.webhookEvent provider.providerId eventId)).isSome := there
    simp [new] at there
  have fits : (uninterrupted mayExpire).Fits
      (locking provider paymentId payment verdict rows deliveries).protocol := by
    refine lawful_locking.fits (fun {live world chance after} happened => ?_) fun _ _ => rfl
    simp only [uninterrupted] at happened
    split at happened
    · simp at happened
    · obtain ⟨rfl, _⟩ := machine_env happened
      refine ⟨rfl, fun h mine => ?_⟩
      cases chance with
      | abort x => simp at *
      | _ => exact mine
  have safe (t : Tid) : (locking provider paymentId payment verdict rows deliveries).protocol.Safe t
      (fun _ _ => True) (processing crypto config deliveries t) (World.start rows) := by
    unfold processing
    split
    · exact Protocol.Safe.done trivial
    · rename_i delivery found
      exact safe_processReported (carries t delivery found) (by simp [found]) start
        ⟨nofun, nofun, nofun⟩
  have inv := (Run.verified fits run ⟨start, fun t _ => safe t⟩).inv
  obtain ⟨t, delivered⟩ := some_delivery
  obtain ⟨u, eventId, claimed⟩ := inv.answered t (answered t delivered)
  exact inv.reached u eventId claimed (answered u (inv.delivering u eventId claimed))

/-- However any number of deliveries interleave that report the same status of a payment, once
all of them have been answered, every payment, order, reservation and pool is as it is after a
single one of them. By what every run of deliveries reaches once it is answered, the lone one
among them.
-/
theorem webhooks_confluent {crypto : Crypto} {config : Config}
    {mayExpire : (Tid → Bool) → World → String → Bool} {pool alone : Pool World Input}
    {delivery : Delivery} (carries : ∀ t delivery, deliveries t = some delivery
      → delivery.Carries crypto config provider (Reports provider paymentId payment verdict rows))
    (some_delivery : ∃ t, deliveries t = some delivery)
    (run : AnyRun (uninterrupted mayExpire) ⟨World.start rows, processing crypto config deliveries⟩
      pool)
    (answered : ∀ t, (deliveries t).isSome → .webhookAnswered t ∈ pool.state.trace)
    (lone : AnyRun (uninterrupted mayExpire)
      ⟨World.start rows, processing crypto config fun t => if t = 0 then some delivery else none⟩
      alone)
    (answered_alone : .webhookAnswered 0 ∈ alone.state.trace) {key : Key} (lasts : key.lasting)
    : pool.state.db.committed.lookup key = alone.state.db.committed.lookup key := by
  obtain ⟨t, delivered⟩ := some_delivery
  have carries_alone (u : Tid) (other : Delivery)
      (given : (if u = 0 then some delivery else none) = some other)
      : other.Carries crypto config provider (Reports provider paymentId payment verdict rows) := by
    split at given
    · obtain rfl := Option.some.inj given
      exact carries t delivery delivered
    · simp at given
  have together := reached_of_answered carries ⟨t, by simp [delivered]⟩ run answered
  have single := reached_of_answered carries_alone ⟨0, by simp⟩ lone fun u given => ?_
  · exact (together key lasts).trans (single key lasts).symm
  · split at given
    · rename_i first
      exact first ▸ answered_alone
    · simp at given

/-- The payment is reported twice, under two event ids. -/
def reportedTwice (t : Tid) : Option Delivery :=
  if t = 0 then some ⟨"paystack", chargeSuccess⟩
  else if t = 1 then
    some ⟨"paystack", { chargeSuccess with body := { chargeSuccess.body with id := some "evt_2" } }⟩
  else none

/-- Witness: both deliveries carry the same verdict on the payment. -/
theorem carries_reportedTwice (t : Tid) (delivery : Delivery)
    (given : reportedTwice t = some delivery)
    : delivery.Carries plainCrypto paystackConfig .PAYSTACK_NGN_BANK_TRANSFER
        (Reports .PAYSTACK_NGN_BANK_TRANSFER "payment" paidThroughPaystack .SUCCEEDED
          (awaitingPayment none)) := by
  have reports (event : WebhookEventPayload) (named : event.providerPaymentId = some "PAY_1")
      (status : event.status = .SUCCEEDED)
      (new : (awaitingPayment none).lookup (.webhookEvent "PAYSTACK_NGN_BANK_TRANSFER" event.eventId)
        = none)
      : Reports .PAYSTACK_NGN_BANK_TRANSFER "payment" paidThroughPaystack .SUCCEEDED
          (awaitingPayment none) event :=
    ⟨⟨by decide, rfl, "PAY_1", named, by decide +kernel⟩, status, new⟩
  unfold reportedTwice at given
  split at given
  · obtain rfl := Option.some.inj given
    exact ⟨by decide +kernel, fun _ => reports (parsePaystackEvent plainCrypto _) (by decide +kernel)
      (by decide +kernel) (by decide +kernel)⟩
  · split at given
    · obtain rfl := Option.some.inj given
      exact ⟨by decide +kernel, fun _ => reports (parsePaystackEvent plainCrypto _)
        (by decide +kernel) (by decide +kernel) (by decide +kernel)⟩
    · simp at given

/-- The second handler waits for the first one's lock and finds that nothing is left to be done. -/
theorem webhooks_confluent_twice
    : ∃ pool alone,
        AnyRun (uninterrupted anyExpiry)
          ⟨World.start (awaitingPayment none), processing plainCrypto paystackConfig reportedTwice⟩
          pool
        ∧ AnyRun (uninterrupted anyExpiry)
          ⟨World.start (awaitingPayment none), processing plainCrypto paystackConfig fun t =>
            if t = 0 then some ⟨"paystack", chargeSuccess⟩ else none⟩ alone
        ∧ ∀ key : Key, key.lasting
          → pool.state.db.committed.lookup key = alone.state.db.committed.lookup key := by
  have together : (Pool.schedule (uninterrupted anyExpiry)
      ⟨World.start (awaitingPayment none), processing plainCrypto paystackConfig reportedTwice⟩
      ([0, 1, 0, 1, 0, 1, 0, 1, 0, 1, 0, 0, 0, 0, 0, 0, 0, 0, 0, 0, 1, 0, 1, 0, 1, 0, 1, 1].map
        fun t => .run t {})).map (fun pool => (decide (Event.webhookAnswered 0 ∈ pool.state.trace),
          decide (Event.webhookAnswered 1 ∈ pool.state.trace))) = some (true, true) := by
    decide +kernel
  have single : (Pool.schedule (uninterrupted anyExpiry)
      ⟨World.start (awaitingPayment none), processing plainCrypto paystackConfig fun t =>
        if t = 0 then some ⟨"paystack", chargeSuccess⟩ else none⟩
      (List.replicate 18 (.run 0 {}))).map (fun pool =>
        decide (Event.webhookAnswered 0 ∈ pool.state.trace)) = some true := by
    decide +kernel
  obtain ⟨pool, run, answers⟩ := AnyRun.of_schedule_map together
  obtain ⟨alone, lone, answered_alone⟩ := AnyRun.of_schedule_map single
  simp only [Prod.mk.injEq, decide_eq_true_eq] at answers answered_alone
  refine ⟨pool, alone, run, lone, fun key lasts => ?_⟩
  refine webhooks_confluent carries_reportedTwice ⟨0, rfl⟩ run (fun t delivered => ?_) lone
    answered_alone lasts
  by_cases first : t = 0
  · exact first ▸ answers.1
  · by_cases second : t = 1
    · exact second ▸ answers.2
    · simp [reportedTwice, first, second] at delivered

end LuminaRail
