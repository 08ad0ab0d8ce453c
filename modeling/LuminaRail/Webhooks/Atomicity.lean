import LuminaRail.Liquidity.Endings
import LuminaRail.Model.LoneRuns
import LuminaRail.Payments.Verdicts
import LuminaRail.Webhooks.Deliveries

/-! Whether an event whose processing fails has changed anything. The liquidity calls commit in
transactions of their own, inside the transaction that applies the event.
-/

namespace LuminaRail

open Concurrency Database Service LiquidityService WebhookService

/-- The liquidity call that follows a status has nothing to do. -/
def NothingToMove (orderId : Id) (rows : AList Row) : PaymentStatus → Prop
  | .SUCCEEDED => ConfirmationDone orderId rows
  | .FAILED => ReleaseDone orderId rows
  | _ => True

-----------------------------------------------------------------------------------------
-- Nothing to move
-----------------------------------------------------------------------------------------

section

variable {t : Tid} {s last : Snapshot} {x : TxId} {rows : AList Row} {orderId paymentId : Id}
  {status : PaymentStatus}

theorem Snapshot.eq_of_same (pending : last.pending = s.pending)
    (committed : last.committed = s.committed)
    : last = s := by
  cases last
  cases s
  cases pending
  cases committed
  rfl

/-- A row that is not there, or is written in the transaction. -/
theorem ends_advanceOrderDraft (drafts : Drafts s x rows last) (orderId : Id)
    : Ends t last (PaymentService.advanceOrder (some x) orderId) (fun _ next => Drafting s x next)
        fun _ next => Drafting s x next := by
  refine Ends.read drafts.findUnique (fun _ _ => ⟨rows, drafts⟩) fun found same => ?_
  cases found with
  | none => exact Ends.pure ⟨rows, drafts⟩
  | some order =>
      dsimp only
      split
      · exact Ends.pure ⟨rows, drafts⟩
      · refine Ends.observe ?_
        exact Ends.bind ((drafts.update same.symm).mono (fun _ _ given => given)
          fun _ _ given => (drafts.interrupted given).1) fun _ _ given => Ends.pure ⟨_, given.2⟩

theorem ends_failOrderDraft (drafts : Drafts s x rows last) (orderId : Id)
    : Ends t last (PaymentService.failOrder (some x) orderId) (fun _ next => Drafting s x next)
        fun _ next => Drafting s x next := by
  refine Ends.read drafts.findUnique (fun _ _ => ⟨rows, drafts⟩) fun found same => ?_
  cases found with
  | none => exact Ends.pure ⟨rows, drafts⟩
  | some order =>
      dsimp only
      split
      · exact Ends.pure ⟨rows, drafts⟩
      · refine Ends.observe ?_
        exact Ends.bind ((drafts.update same.symm).mono (fun _ _ given => given)
          fun _ _ given => (drafts.interrupted given).1) fun _ _ given => Ends.pure ⟨_, given.2⟩

/-- A liquidity call with nothing to do leaves the transaction around it alone. -/
theorem ends_followUpDraft (drafts : Drafts s x rows last)
    (done : NothingToMove orderId s.committed status)
    : Ends t last (PaymentService.followUp (some x) orderId status)
        (fun _ next => Drafting s x next) fun _ next => Drafting s x next := by
  rw [← drafts.committed] at done
  unfold PaymentService.followUp
  cases status with
  | SUCCEEDED =>
      refine Ends.bind ((ends_confirmReservation orderId).mono (fun _ _ given => given)
        fun _ next given => given.1 ▸ ⟨rows, drafts⟩) fun _ next given => ?_
      obtain rfl := Snapshot.eq_of_same given.1 (given.2.2 done)
      exact ends_advanceOrderDraft drafts orderId
  | FAILED =>
      refine Ends.bind ((ends_releaseReservation orderId _).mono (fun _ _ given => given)
        fun _ next given => given.1 ▸ ⟨rows, drafts⟩) fun _ next given => ?_
      obtain rfl := Snapshot.eq_of_same given.1 (given.2.2 done)
      exact ends_failOrderDraft drafts orderId
  | _ => exact Ends.pure ⟨rows, drafts⟩

theorem ends_applyEventInTx {payment : Payment} (drafts : Drafts s x rows last)
    (done : NothingToMove payment.orderId s.committed status)
    : Ends t last (applyEventInTx x paymentId payment status) (fun _ next => Drafting s x next)
        fun _ next => Drafting s x next := by
  refine Ends.bind (drafts.updateMany.mono (fun _ _ given => given)
    fun _ _ given => (drafts.interrupted given).1) fun count next given => ?_
  obtain ⟨written, drafts⟩ := given
  split
  · exact Ends.pure ⟨written, drafts⟩
  · refine Ends.bind (R := fun _ next => Drafting s x next) ?_ fun _ next given => ?_
    · exact Ends.bind (drafts.updateMany.mono (fun _ _ given => given)
        fun _ _ given => (drafts.interrupted given).1) fun _ _ given => Ends.pure given
    · obtain ⟨recorded, drafts⟩ := given
      exact ends_followUpDraft drafts done

/-- Step 4 leaves everything as it is when it fails, where the liquidity call has nothing to do. -/
theorem ends_applyEvent {provider : Provider} {event : WebhookEventPayload}
    (done
      : ∀ name payment id,
          event.providerPaymentId = some name
          → (id, payment) ∈ paymentsNamed provider.providerId name s.committed
          → PaymentStateMachine.canTransition payment.status event.status = true
          → NothingToMove payment.orderId s.committed event.status)
    : Ends t s (applyEvent provider event) (fun _ _ => True) fun _ last => last = s := by
  unfold applyEvent
  cases named : event.providerPaymentId with
  | none => exact Ends.pure trivial
  | some name =>
      refine Ends.bind (R := fun found last => last = s ∧ ∀ entry, found = some entry
        → entry ∈ paymentsNamed provider.providerId name s.committed) ?_ fun found next given => ?_
      · refine Ends.read Ends.select (fun _ _ => rfl) fun found given => ?_
        obtain ⟨rows, agree, rfl⟩ := given
        refine Ends.bind (R := fun _ last => last = s) ?_ fun choice next same => ?_
        · exact (Ends.of_stays (stays_act fun acted => by
            obtain ⟨_, rfl⟩ := Prod.mk.inj (Option.some.inj acted)
            rfl)).mono (fun _ _ same => same) fun _ _ same => same
        · subst same
          refine Ends.pure ⟨rfl, fun entry chosen => ?_⟩
          obtain ⟨id, payment⟩ := entry
          have member := mem_paymentsNamed.mp (List.mem_of_getElem? chosen)
          exact mem_paymentsNamed.mpr ⟨(agree _ trivial).symm.trans member.1, member.2⟩
      · obtain ⟨rfl, listed⟩ := given
        cases found with
        | none => exact Ends.pure trivial
        | some entry =>
            obtain ⟨id, payment⟩ := entry
            dsimp only
            split
            · rename_i allowed
              refine (Ends.drafted (W := fun _ _ => True) (E := fun _ => True) (fun y _ => ?_)
                fun _ _ => trivial).mono (fun _ _ _ => trivial) fun _ _ given => given.1
              refine (ends_applyEventInTx (Drafts.begin next y)
                (done name payment id named (listed _ rfl) allowed)).mono ?_ ?_
              · intro _ last drafting
                obtain ⟨rows, drafts⟩ := drafting
                exact ⟨rows, drafts, trivial⟩
              · exact fun _ _ drafting => ⟨drafting, trivial⟩
            · exact Ends.pure trivial

end

-----------------------------------------------------------------------------------------
-- Something to move
-----------------------------------------------------------------------------------------

/-- The rows that the transaction around an event writes before the liquidity call. -/
def Key.ofPayment : Key → Prop
  | .payment _ | .providerTransaction _ => True
  | _ => False

section

variable {t : Tid} {x : TxId} {world : World} {rows view : AList Row} {orderId paymentId : Id}
  {others : TxId → Option (List (Sigma Row))} {reservation : LiquidityReservation}

/-- A reservation that is reserved can be confirmed. -/
theorem confirmReservation_returns (committed : world.db.committed = rows)
    (found : rows.lookup (.liquidityReservation orderId) = some reservation)
    (reserved : reservation.status = .RESERVED)
    (locks : ∀ key y, world.db.holder key = some y → ¬key.ofLiquidity)
    : ∃ value after, Returns t world (confirmReservation orderId) value after
        ∧ after.db.committed.lookup (.liquidityReservation orderId)
          ≠ rows.lookup (.liquidityReservation orderId)
        ∧ ∀ y, y ≠ world.nextTx t → after.db.pending y = world.db.pending y := by
  have stage : Stage t (world.nextTx t) world.db.pending Key.ofLiquidity
      (fun key => ¬key.ofLiquidity) rows rows { world with db := (world.db.begin t).2 } :=
    Stage.begin committed locks
  obtain ⟨last, updated, stage'⟩ := stage.update (.liquidityReservation orderId) trivial
    (not_not_intro trivial) found fun row => { row with status := .CONFIRMED }
  have body : Returns t { world with db := (world.db.begin t).2 }
      (confirmReservationInTx (world.nextTx t) orderId)
      (some { reservation with status := .CONFIRMED }) last := by
    refine Returns.bind (stage.findUnique _) ?_
    rw [found]
    dsimp only
    rw [if_neg (by simp [reserved]), if_neg (not_not_intro reserved)]
    exact updated.map
  refine ⟨_, _, stage'.transaction body, ?_, fun y other => ?_⟩
  · change (last.db.visible (some (world.nextTx t))).lookup _ ≠ _
    rw [stage'.visible, AList.lookup_insert, found]
    intro same
    have confirmed : LiquidityReservationStatus.CONFIRMED = reservation.status :=
      congrArg LiquidityReservation.status (Option.some.inj same)
    rw [reserved] at confirmed
    cases confirmed
  · exact (Function.update_of_ne other _ _).trans (stage'.others y other)

/-- A reservation that holds an amount of a pool can be released. -/
theorem releaseReservation_returns (committed : world.db.committed = rows) {pool : LiquidityPool}
    (found : rows.lookup (.liquidityReservation orderId) = some reservation)
    (holds : reservation.status = .RESERVED ∨ reservation.status = .CONFIRMED)
    (pooled : rows.lookup (.liquidityPool reservation.poolId) = some pool)
    (locks : ∀ key y, world.db.holder key = some y → ¬key.ofLiquidity)
    : ∃ value after,
        Returns t world (releaseReservation orderId .CANCELLED_RELEASED) value after
        ∧ after.db.committed.lookup (.liquidityReservation orderId)
          ≠ rows.lookup (.liquidityReservation orderId)
        ∧ ∀ y, y ≠ world.nextTx t → after.db.pending y = world.db.pending y := by
  have stage : Stage t (world.nextTx t) world.db.pending Key.ofLiquidity
      (fun key => ¬key.ofLiquidity) rows rows { world with db := (world.db.begin t).2 } :=
    Stage.begin committed locks
  obtain ⟨locked, locks', stage₁⟩ := stage.selectForUpdate (.liquidityPool reservation.poolId)
    trivial (not_not_intro trivial)
  obtain ⟨moved, updated, stage₂⟩ := stage₁.update (.liquidityPool reservation.poolId) trivial
    (not_not_intro trivial) pooled fun row =>
      { row with
        reservedBalance := (released pool reservation.amount).reservedBalance
        availableBalance := (released pool reservation.amount).availableBalance }
  obtain ⟨last, ended, stage₃⟩ := stage₂.update (.liquidityReservation orderId) trivial
    (not_not_intro trivial) ((AList.lookup_insert_ne (by simp)).trans found)
    fun row => { row with status := .CANCELLED_RELEASED }
  have body : Returns t { world with db := (world.db.begin t).2 }
      (releaseReservationInTx (world.nextTx t) orderId .CANCELLED_RELEASED)
      (some { reservation with status := .CANCELLED_RELEASED }) last := by
    refine Returns.bind (stage.findUnique _) ?_
    rw [found]
    dsimp only
    rw [if_neg (by rcases holds with holds | holds <;> simp [holds])]
    refine Returns.bind locks' (Returns.bind (Returns.bind (stage₁.findUnique _) ?_)
      (Returns.bind updated ended.map))
    rw [pooled]
    exact Returns.pure pool
  refine ⟨_, _, stage₃.transaction body, ?_, fun y other => ?_⟩
  · change (last.db.visible (some (world.nextTx t))).lookup _ ≠ _
    rw [stage₃.visible, AList.lookup_insert, found]
    intro same
    have cancelled : LiquidityReservationStatus.CANCELLED_RELEASED = reservation.status :=
      congrArg LiquidityReservation.status (Option.some.inj same)
    rcases holds with holds | holds
    · rw [holds] at cancelled
      cases cancelled
    · rw [holds] at cancelled
      cases cancelled
  · exact (Function.update_of_ne other _ _).trans (stage₃.others y other)

/-- The order can be lost after the liquidity call has moved something. -/
theorem followUp_throws {status : PaymentStatus}
    (stage : Stage t x others Key.ofPayment (fun _ => False) rows view world)
    (pooled : Pooled orderId rows) (moves : ¬NothingToMove orderId rows status)
    : ∃ error after, Throws t world (PaymentService.followUp (some x) orderId status) error after
        ∧ after.db.committed.lookup (.liquidityReservation orderId)
          ≠ rows.lookup (.liquidityReservation orderId) := by
  have locks (key : Key) (y : TxId) (held : world.db.holder key = some y) : ¬key.ofLiquidity := by
    rcases stage.locks key y held with ⟨_, own⟩ | absurd'
    · cases key with
      | payment _ => exact not_false
      | providerTransaction _ => exact not_false
      | _ => exact own.elim
    · exact absurd'.elim
  have different : x ≠ world.nextTx t := by
    intro same
    have older := world.db.serial_new stage.opened
    rw [same] at older
    exact absurd older (Nat.lt_irrefl _)
  -- the statement on the order fails, and with it the transaction around
  have loses {α : Type} {value : Option LiquidityReservation} {next : World}
      {call : Service (Option LiquidityReservation)} {rest : Option Order → Service α}
      (returns : Returns t world call value next)
      (kept : ∀ y, y ≠ world.nextTx t → next.db.pending y = world.db.pending y)
      : Throws t world (call >>= fun _ => findUnique (some x) (.order orderId) >>= rest)
          ⟨"", 500, "P1001"⟩ { next with db := next.db.rollback x } := by
    have opened : (next.db.pending x).isSome := by
      rw [kept x different]
      exact stage.opened
    exact returns.thenThrows (Throws.bind (throws_findUnique opened stage.own _))
  unfold PaymentService.followUp
  cases status with
  | SUCCEEDED =>
      simp only [NothingToMove, ConfirmationDone, not_forall, not_not] at moves
      obtain ⟨reservation, found, reserved⟩ := moves
      obtain ⟨value, next, returns, moved, kept⟩ :=
        confirmReservation_returns stage.committed found reserved locks
      exact ⟨_, _, loses returns kept, moved⟩
  | FAILED =>
      simp only [NothingToMove, ReleaseDone, not_forall] at moves
      obtain ⟨reservation, found, holds⟩ := moves
      have holds : reservation.status = .RESERVED ∨ reservation.status = .CONFIRMED := by
        simpa only [not_and_or, not_not] using holds
      obtain ⟨pool, there⟩ := Option.isSome_iff_exists.mp (pooled reservation found)
      obtain ⟨value, next, returns, moved, kept⟩ :=
        releaseReservation_returns stage.committed found holds there locks
      exact ⟨_, _, loses returns kept, moved⟩
  | _ => exact absurd trivial moves

/-- So the event can fail after the liquidity call that it leads to. -/
theorem applyEventInTx_throws {payment : Payment} {status : PaymentStatus}
    (stage : Stage t x others Key.ofPayment (fun _ => False) rows rows world)
    (stored : rows.lookup (.payment paymentId) = some payment)
    (pooled : Pooled payment.orderId rows) (moves : ¬NothingToMove payment.orderId rows status)
    : ∃ error after, Throws t world (applyEventInTx x paymentId payment status) error after
        ∧ after.db.committed.lookup (.liquidityReservation payment.orderId)
          ≠ rows.lookup (.liquidityReservation payment.orderId) := by
  obtain ⟨paid, counted, stage₁⟩ := stage.updateMany (.payment paymentId)
    (fun row => row.status = payment.status) trivial not_false stored (by simp)
    fun row => { row with status := status }
  have different : Key.providerTransaction paymentId ≠ .payment paymentId := by simp
  cases recorded : rows.lookup (.providerTransaction paymentId) with
  | none =>
      obtain ⟨error, after, throws, moved⟩ := followUp_throws stage₁ pooled moves
      refine ⟨error, after, Returns.thenThrows counted ?_, moved⟩
      rw [if_neg (by simp)]
      have unchanged := stage₁.updateMany_none (fun _ => true)
        ((AList.lookup_insert_ne different).trans recorded) fun row => { row with status := status }
      exact Returns.thenThrows (Returns.bind unchanged (Returns.pure ())) throws
  | some record =>
      obtain ⟨next, updated, stage₂⟩ := stage₁.updateMany (.providerTransaction paymentId)
        (fun _ => true) trivial not_false ((AList.lookup_insert_ne different).trans recorded) rfl
        fun row => { row with status := status }
      obtain ⟨error, after, throws, moved⟩ := followUp_throws stage₂ pooled moves
      refine ⟨error, after, Returns.thenThrows counted ?_, moved⟩
      rw [if_neg (by simp)]
      exact Returns.thenThrows (Returns.bind updated (Returns.pure ())) throws

end

-----------------------------------------------------------------------------------------
-- Atomicity
-----------------------------------------------------------------------------------------

/-- The application of an event to the payment that it is about, run alone, changes nothing when
it fails, exactly if the liquidity call that the event leads to has nothing to do. By a run that
throws where a liquidity call has something to do.
-/
theorem failed_event_undone_iff {rows : AList Row} (pooled : ∀ orderId, Pooled orderId rows)
    (provider : Provider) (event : WebhookEventPayload) (t : Tid) {start : World}
    (fresh : start.db = Server.start rows)
    : (∀ error after,
        Program.Alone t (applyEvent provider event).run start (.error error) after
        → tableOf after.db.committed = tableOf rows)
      ↔ ∀ name payment id,
          event.providerPaymentId = some name
          → (id, payment) ∈ paymentsNamed provider.providerId name rows
          → PaymentStateMachine.canTransition payment.status event.status = true
          → NothingToMove payment.orderId rows event.status := by
  have committed : start.db.committed = rows := by rw [fresh]; rfl
  constructor
  · intro atomic name payment id named listed allowed
    by_contra moves
    have stage : Stage t (start.nextTx t) start.db.pending Key.ofPayment (fun _ => False) rows rows
        { start with db := (start.db.begin t).2 } :=
      Stage.begin committed fun key y held => by simp [fresh, Server.start] at held
    obtain ⟨error, next, throws, moved⟩ :=
      applyEventInTx_throws stage (mem_paymentsNamed.mp listed).1 (pooled payment.orderId) moves
    have run : Throws t start (applyEvent provider event) error
        { next with db := next.db.rollback (start.nextTx t) } := by
      unfold applyEvent
      rw [named]
      refine Returns.thenThrows (returns_findFirst (committed.symm ▸ listed)) ?_
      dsimp only
      rw [if_pos allowed]
      exact throws_transaction throws
    exact moved (congrFun (atomic error _ run) (.liquidityReservation payment.orderId))
  · intro done error after run
    obtain ⟨last, there, ended⟩ := Ends.alone (ends_applyEvent (s := .of t start) (by
      intro name payment id named listed allowed
      change NothingToMove payment.orderId start.db.committed event.status
      rw [committed]
      refine done name payment id named ?_ allowed
      rw [← committed]
      exact listed)) run
    obtain rfl : last = .of t start := ended
    rw [← committed]
    exact funext fun key => there.committed key trivial

/-- The event of a payment that has no reservation. -/
def chargeSucceeded : WebhookEventPayload :=
  ⟨"evt_1", "charge.success", some "PAY_1", .SUCCEEDED, by simp⟩

def unreserved : AList Row :=
  ((∅ : AList Row).insert (.order "order") (awaitingOrder none)).insert (.payment "payment")
    paidThroughPaystack

/-- Without a reservation nothing is left of an event that fails, as it does when its third statement
is lost.
-/
theorem unreserved_event_undone
    : (∃ error after,
        Program.Alone 0 (applyEvent .PAYSTACK_NGN_BANK_TRANSFER chargeSucceeded).run
          (World.start unreserved) (.error error) after)
      ∧ ∀ error after,
        Program.Alone 0 (applyEvent .PAYSTACK_NGN_BANK_TRANSFER chargeSucceeded).run
          (World.start unreserved) (.error error) after
        → tableOf after.db.committed = tableOf unreserved := by
  have absent (orderId : Id) : unreserved.lookup (.liquidityReservation orderId) = none := by
    simp [unreserved, AList.lookup_insert_ne, -AList.insert_empty]
  refine ⟨⟨⟨"", 500, "P1001"⟩, Program.exists_alone_of_evalAlone
    ([{}, {}, { throws := true }, {}] : List Input) (by decide +kernel)⟩,
    (failed_event_undone_iff (fun orderId reservation found => ?_) .PAYSTACK_NGN_BANK_TRANSFER
      chargeSucceeded 0 rfl).mpr fun name payment id _ _ _ reservation found => ?_⟩
  · rw [absent orderId] at found
    cases found
  · rw [absent payment.orderId] at found
    cases found

/-- A payment that waits, with its reservation and its pool. -/
def awaitingReserved : AList Row :=
  (awaitingPayment none).insert (.liquidityPool "pool")
    (⟨1000000000, 500000000, 500000000⟩ : LiquidityPool)

/-- The tenth statement of the run, which reads the order, fails. -/
def lostAfterConfirmation : List Input :=
  List.replicate 9 ({} : Input) ++ [{ throws := true }, ({} : Input)]

/-- The database is lost after the reservation has been confirmed: the payment is still PENDING. -/
theorem failed_event_keeps_confirmation
    : ((applyEvent .PAYSTACK_NGN_BANK_TRANSFER chargeSucceeded).run.evalAlone 0
        (World.start awaitingReserved) lostAfterConfirmation).map
        (fun last => (last.1.toOption.isSome,
          (last.2.db.committed.lookup (.payment "payment")).map Payment.status,
          (last.2.db.committed.lookup (.liquidityReservation "order")).map
            LiquidityReservation.status))
      = some (false, some .PENDING, some .CONFIRMED)
      ∧ (awaitingReserved.lookup (.liquidityReservation "order")).map LiquidityReservation.status
        = some .RESERVED := by
  decide +kernel

end LuminaRail
