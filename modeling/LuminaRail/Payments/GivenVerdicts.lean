import LuminaRail.Liquidity.Endings
import LuminaRail.Payments.FailedAttempts

/-! Verifying a payment when the provider's verdict is given, run alone and to its end: the payment is
settled with the verdict if it may take it, and otherwise everything stays as it is.
-/

namespace LuminaRail

open Concurrency Database Service Exclusive

variable {t : Tid} {s : Snapshot}

/-- What a service yields and how it throws can be shown apart. -/
theorem Ends.of_yields {α : Type} {service : Service α} {Q : α → Snapshot → Prop}
    {F : AppError → Snapshot → Prop} (yields : (exclusiveAlone t).Yields s service Q)
    (throws : Ends t s service (fun _ _ => True) F)
    : Ends t s service Q F :=
  (Protocol.Spec.and yields throws).conseq (fun _ _ here => here) (fun _ _ _ ended => ended.1)
    fun _ _ _ ended => ended.2

theorem ends_updateManyNow {key : Key} {condition : Row key → Bool} {data : Row key → Row key}
    : Ends t s (updateMany none key condition data) (fun count last =>
        (∃ row, s.committed.lookup key = some row ∧ condition row ∧ count = 1
          ∧ last = s.save none [⟨key, data row⟩])
        ∨ ((∀ row, s.committed.lookup key = some row → condition row = false)
          ∧ count = 0 ∧ last = s)) (Interrupted s) := by
  refine Ends.statement yields_updateManyNow (fun world error after _ _ ran => ?_)
    fun _ lost => ⟨lost, rfl⟩
  split at ran
  · simp at ran
  · split at ran
    · simp at ran
    · simp at ran

/-- The payment is there. -/
def Paid (paymentId : Id) (s : Snapshot) : Prop :=
  (s.committed.lookup (.payment paymentId)).isSome

theorem Paid.save {paymentId : Id} (paid : Paid paymentId s) (key : Key) (row : Row key)
    : Paid paymentId (s.save none [⟨key, row⟩]) := by
  by_cases same : Key.payment paymentId = key
  · subst same
    simp [Paid, Snapshot.save, overlay]
  · unfold Paid at paid ⊢
    rw [← paid]
    exact congrArg Option.isSome (AList.lookup_insert_ne same)

theorem Paid.changed {paymentId : Id} {next : Snapshot} (paid : Paid paymentId s)
    (changed : LiquidityChanged s.committed next.committed)
    : Paid paymentId next := by
  unfold Paid at paid ⊢
  rw [changed _ (by simp [Key.ofLiquidity])]
  exact paid

/-- A row of another table does not matter to the pool. -/
theorem Pooled.save {orderId : Id} (pooled : Pooled orderId s.committed) (key : Key)
    (apart : ¬key.ofLiquidity) (row : Row key)
    : Pooled orderId (s.save none [⟨key, row⟩]).committed := by
  have kept (other : Key) (ofLiquidity : other.ofLiquidity)
      : (s.save none [⟨key, row⟩]).committed.lookup other = s.committed.lookup other :=
    AList.lookup_insert_ne (show other ≠ key from fun same => apart (same ▸ ofLiquidity))
  intro reservation found
  rw [kept (.liquidityReservation orderId) trivial] at found
  rw [kept (.liquidityPool reservation.poolId) trivial]
  exact pooled reservation found

namespace PaymentService

/-- An order that was found takes a status. -/
theorem ends_moveOrderNow {orderId paymentId : Id} {order : Order} {status : OrderStatus}
    (found : s.committed.lookup (.order orderId) = some order) (paid : Paid paymentId s)
    : Ends t s (do
        let _ ← update none (.order orderId) fun row => { row with status := status })
        (fun _ last => Paid paymentId last) fun error _ => error.Unavailable := by
  refine Ends.bind ((Ends.updateNow found).mono (fun _ _ given => given)
    fun _ _ interrupted => interrupted.1) fun _ last given => Ends.pure ?_
  rw [given.2]
  exact paid.save _ _

theorem ends_advanceOrderNow {orderId paymentId : Id} (paid : Paid paymentId s)
    : Ends t s (advanceOrder none orderId) (fun _ last => Paid paymentId last)
        fun error _ => error.Unavailable := by
  refine Ends.read Ends.findUnique (fun _ lost => lost) fun found there => ?_
  cases found with
  | none => exact Ends.pure paid
  | some order =>
      dsimp only
      split
      · exact Ends.pure paid
      · exact Ends.observe <| ends_moveOrderNow there.symm paid

theorem ends_failOrderNow {orderId paymentId : Id} (paid : Paid paymentId s)
    : Ends t s (failOrder none orderId) (fun _ last => Paid paymentId last)
        fun error _ => error.Unavailable := by
  refine Ends.read Ends.findUnique (fun _ lost => lost) fun found there => ?_
  cases found with
  | none => exact Ends.pure paid
  | some order =>
      dsimp only
      split
      · exact Ends.pure paid
      · exact Ends.observe <| ends_moveOrderNow there.symm paid

theorem ends_followUpNow {orderId paymentId : Id} {verdict : PaymentStatus}
    (pooled : Pooled orderId s.committed) (paid : Paid paymentId s)
    : Ends t s (followUp none orderId verdict) (fun _ last => Paid paymentId last)
        fun error _ => error.Unavailable := by
  cases verdict with
  | SUCCEEDED =>
      exact Ends.bind ((ends_confirmReservation orderId).mono (fun _ _ given => given)
        fun _ _ failed => failed.2) fun _ next given =>
          ends_advanceOrderNow (paid.changed given.2.1)
  | FAILED =>
      exact Ends.bind ((ends_releaseReservation orderId _).mono (fun _ _ given => given)
        fun _ _ failed => failed.2 pooled) fun _ next given =>
          ends_failOrderNow (paid.changed given.2.1)
  | _ => exact Ends.pure paid

theorem ends_updateProviderTransactionNow {paymentId : Id} {verdict : PaymentStatus} {orderId : Id}
    (pooled : Pooled orderId s.committed) (paid : Paid paymentId s)
    : Ends t s (updateProviderTransaction none paymentId verdict)
        (fun _ last => Pooled orderId last.committed ∧ Paid paymentId last)
        fun error _ => error.Unavailable := by
  refine Ends.bind (ends_updateManyNow.mono (fun _ _ given => given)
    fun _ _ interrupted => interrupted.1) fun _ last given => Ends.pure ?_
  rcases given with ⟨row, _, _, _, rfl⟩ | ⟨_, _, rfl⟩
  · exact ⟨pooled.save _ (by simp [Key.ofLiquidity]) _, paid.save _ _⟩
  · exact ⟨pooled, paid⟩

/-- `verifyPayment` with the answer of the provider given. -/
def verifyGiven (response : NormalizedPaymentResponse)
    : (config : Config) → (paymentId userId : Id) → (isAdmin : Bool) → Service Payment :=
  verifyAsking fun _ _ => pure response

/-- Verifying a payment fails where the database is lost, or because the payment may not take the
verdict, which leaves everything as it is.
-/
theorem ends_verifyGiven {config : Config} {paymentId userId : Id} {isAdmin : Bool}
    {payment : Payment} {provider : Provider} {response : NormalizedPaymentResponse}
    (stored : s.committed.lookup (.payment paymentId) = some payment)
    (access : isAdmin = true ∨ payment.userId = userId)
    (registered : PaymentProviderRegistry.resolve config payment.provider = some provider)
    (pooled : Pooled payment.orderId s.committed)
    : Ends t s (verifyGiven response config paymentId userId isAdmin) (fun _ _ => True)
        fun error last => error.Unavailable
          ∨ PaymentStateMachine.canTransition payment.status response.status = false ∧ last = s := by
  have lost {error : AppError} {last : Snapshot} (lost : error.Unavailable)
      : error.Unavailable
        ∨ PaymentStateMachine.canTransition payment.status response.status = false ∧ last = s :=
    Or.inl lost
  refine Ends.bind (R := fun value last => value = payment ∧ last = s) ?_ fun value last given => ?_
  · refine Ends.read Ends.findUnique (fun _ => lost) fun found there => ?_
    rw [show (s.visible none).lookup (.payment paymentId) = some payment from stored] at there
    subst there
    refine Ends.guard (fun denied => ?_) fun _ => Ends.pure ⟨rfl, rfl⟩
    rcases access with admin | own
    · simp [admin] at denied
    · exact absurd own denied.2
  obtain ⟨rfl, rfl⟩ := given
  refine Ends.read Ends.findUnique (fun _ => lost) fun record known => ?_
  rw [PaymentProviderRegistry.get, registered]
  simp only [pure_bind]
  refine Ends.guard (fun refused => Or.inr ⟨refused, rfl⟩) fun permitted => ?_
  refine Ends.bind (ends_updateManyNow.mono (fun _ _ given => given)
    fun _ _ interrupted => lost interrupted.1) fun count next given => ?_
  rcases given with ⟨row, found, _, rfl, rfl⟩ | ⟨changed, _⟩
  · rw [if_neg (by simp)]
    have written : Paid paymentId (last.save none
        [⟨.payment paymentId, { row with status := response.status }⟩]) := by
      simp [Paid, Snapshot.save, overlay]
    have pooled := pooled.save (.payment paymentId) (by simp [Key.ofLiquidity])
      { row with status := response.status }
    have answers {next : Snapshot} (pooled : Pooled value.orderId next.committed)
        (paid : Paid paymentId next)
        : Ends t next (do
            followUp none value.orderId response.status
            findUniqueOrThrow none (.payment paymentId)) (fun _ _ => True)
            fun error _ => error.Unavailable := by
      refine Ends.bind (ends_followUpNow pooled paid) fun _ after paid => ?_
      obtain ⟨row, there⟩ := Option.isSome_iff_exists.mp paid
      exact (Ends.findUniqueOrThrow there).mono (fun _ _ _ => trivial)
        fun _ _ interrupted => interrupted.1
    refine Ends.mono (F := fun error _ => error.Unavailable) ?_ (fun _ _ given => given)
      fun _ _ => lost
    split
    · exact Ends.bind (ends_updateProviderTransactionNow pooled written) fun _ next given =>
        answers given.1 given.2
    · exact answers pooled written
  · exact absurd (changed value stored) (by simp)

end PaymentService

/-- The database was there to the end. -/
def Completed {α : Type} (result : Except AppError α) : Prop :=
  ∀ error, result = .error error → ¬error.Unavailable

/-- A payment with this status is settled with the verdict, if it may take it. -/
def settleIfAllowed (orderId paymentId : Id) (status verdict : PaymentStatus) (table : Table)
    : Table :=
  if PaymentStateMachine.canTransition status verdict then settle orderId paymentId verdict table
  else table

theorem tableOf_at {world : World} {last : Snapshot} (there : (exclusiveAlone t).At last world)
    : tableOf world.db.committed = tableOf last.committed :=
  funext fun key => there.committed key trivial

/-- The lone run of a verification with a given verdict. -/
theorem verifyGiven_settles {config : Config} {paymentId userId : Id} {isAdmin : Bool}
    {payment : Payment} {provider : Provider} {response : NormalizedPaymentResponse}
    {world after : World} {result : Except AppError Payment}
    (stored : world.db.committed.lookup (.payment paymentId) = some payment)
    (access : isAdmin = true ∨ payment.userId = userId)
    (registered : PaymentProviderRegistry.resolve config payment.provider = some provider)
    (pooled : Pooled payment.orderId world.db.committed)
    (run : Program.Alone t
      (PaymentService.verifyGiven response config paymentId userId isAdmin).run world result after)
    (completed : Completed result)
    : tableOf after.db.committed
        = settleIfAllowed payment.orderId paymentId payment.status response.status
          (tableOf world.db.committed)
      ∧ (∀ error, result = .error error
        → PaymentStateMachine.canTransition payment.status response.status = false) := by
  have yields : (exclusiveAlone t).Yields (.of t world)
      (PaymentService.verifyGiven response config paymentId userId isAdmin) _ :=
    yields_verifyAsking (R := fun answered => answered = response)
      (fun _ _ => Yields.pure ⟨rfl, rfl⟩) config paymentId userId isAdmin
  obtain ⟨last, there, ended⟩ := Ends.alone (Ends.of_yields yields
    (PaymentService.ends_verifyGiven stored access registered pooled)) run
  rw [tableOf_at there]
  cases result with
  | ok paid =>
      obtain ⟨_, _, same, rfl, permitted, _, settled⟩ := ended
      obtain rfl := Option.some.inj (stored.symm.trans same)
      refine ⟨?_, fun error same => by cases same⟩
      rw [settleIfAllowed, if_pos permitted, settled]
      rfl
  | error error =>
      rcases ended with lost | ⟨refused, rfl⟩
      · exact absurd lost (completed error rfl)
      · refine ⟨?_, fun _ _ => refused⟩
        rw [settleIfAllowed, if_neg (by simp [refused])]
        rfl

end LuminaRail
