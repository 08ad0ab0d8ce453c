import LuminaRail.Model.Discipline
import LuminaRail.Services.Footprints

/-! How often a refund reaches its provider. A call claims the refund by moving it to PROCESSING
and then calls the provider, once; but a refund that is PROCESSING already can be claimed again.
-/

namespace LuminaRail

open Concurrency Database Service RefundService RefundStateMachine

/-- A request of a program to a provider. -/
def Event.requestedBy (t : Tid) : Event → Bool
  | .refundRequested u _ _ _ => u = t
  | _ => false

/-- A request to refund a refund. -/
def Event.requestsRefund (refundId : Id) : Event → Bool
  | .refundRequested _ id _ _ => id = refundId
  | _ => false

/-- No action claims a refund that its call has read as PROCESSING. -/
def ClaimsPending (_ : Tid) (before after : World) : Prop :=
  ∀ t refundId, after.trace ≠ .refundClaimed t refundId .PROCESSING :: before.trace

/-- A refund that has been claimed once is not PENDING any more, so nobody else claims it, and
nobody asks the provider more than once for what he has claimed.
-/
structure ClaimedOnce (world : World) : Prop where
  started : ∀ {t refundId status}, .refundClaimed t refundId status ∈ world.trace
    → ∃ row, world.db.committed.lookup (.refund refundId) = some row ∧ row.status ≠ .PENDING
  unique : ∀ {t u refundId status status'}, .refundClaimed t refundId status ∈ world.trace
    → .refundClaimed u refundId status' ∈ world.trace → t = u
  claimed : ∀ {t refundId orderId amountInKobo},
    .refundRequested t refundId orderId amountInKobo ∈ world.trace
      → ∃ status, .refundClaimed t refundId status ∈ world.trace
  once : ∀ t, world.trace.countP (Event.requestedBy t) ≤ 1

/-- A refund does not become PENDING again. -/
def KeepsStarted : Server.Replaces Row
  | .refund _, old, new => ∀ row ∈ old, row.status ≠ .PENDING → new.status ≠ .PENDING
  | _, _, _ => True

theorem KeepsStarted.transitive : KeepsStarted.Transitive := by
  intro key old row next first second
  cases key with
  | refund _ => exact fun before found started => second row rfl (first before found started)
  | _ => trivial

/-- Any number of calls of `executeRefund`. -/
def refundDiscipline : Discipline where
  rows := KeepsStarted
  transitive := KeepsStarted.transitive
  writes _ := KeepsStarted
  inv := ClaimedOnce
  allowed := ClaimsPending

/-- An event by which no refund is claimed or asked for. -/
structure Event.Aside (event : Event) : Prop where
  unclaimed : ∀ t refundId status, event ≠ .refundClaimed t refundId status
  unrequested : ∀ t refundId orderId amountInKobo,
    event ≠ .refundRequested t refundId orderId amountInKobo

/-- The steps that claim nothing and ask no provider. -/
def silent (t : Tid) : Footprint :=
  ⟨KeepsStarted, fun event => event.Aside ∧ ∀ u ∈ event.owner, u = t⟩

variable {world after : World} {t : Tid} {refundId : Id}

theorem silent_allowsRefund : (silent t).AllowsRefund t where
  pool _ _ _ := trivial
  reservation _ _ _ := trivial
  treasury _ _ _ := trivial
  refund _ _ _ _ started _ _ _ := started
  payment _ _ _ := trivial
  order _ _ _ _ := trivial
  checked _ _ _ _ := ⟨⟨nofun, nofun⟩, by simp [Event.owner]⟩

theorem refund_admits (t : Tid) : refundDiscipline.Admits (silent t) t where
  transitive := KeepsStarted.transitive
  writes := rfl
  events _ aside := aside.2

theorem Event.Aside.requestedBy {event : Event} (aside : event.Aside) (t : Tid)
    : event.requestedBy t = false := by
  cases event with
  | refundRequested u id orderId amountInKobo => exact absurd rfl (aside.unrequested _ _ _ _)
  | _ => rfl

/-- What has been claimed stays claimed while refunds only move forward. -/
theorem ClaimedOnce.evolve (holds : ClaimedOnce world)
    (grows : Grows Event.Aside world.trace after.trace)
    (rows : Server.Evolves KeepsStarted world.db.committed after.db.committed)
    : ClaimedOnce after := by
  have claims (t : Tid) (refundId : Id) (status : RefundStatus)
      : .refundClaimed t refundId status ∈ after.trace
        ↔ .refundClaimed t refundId status ∈ world.trace :=
    grows.mem_iff fun aside => aside.unclaimed _ _ _ rfl
  refine ⟨fun member => ?_, fun first second => ?_, fun member => ?_, fun t => ?_⟩
  · rw [claims] at member
    obtain ⟨row, found, started⟩ := holds.started member
    obtain ⟨row', found'⟩ := Option.isSome_iff_exists.mp (rows.kept (by rw [found]; rfl))
    refine ⟨row', found', ?_⟩
    rcases rows.rows found' with unchanged | replaced
    · exact Option.some.inj (found.symm.trans unchanged) ▸ started
    · exact replaced row found started
  · exact holds.unique ((claims _ _ _).mp first) ((claims _ _ _).mp second)
  · obtain ⟨status, claimed⟩ :=
      holds.claimed ((grows.mem_iff fun aside => aside.unrequested _ _ _ _ rfl).mp member)
    exact ⟨status, (claims _ _ _).mpr claimed⟩
  · rw [grows.countP fun _ aside => aside.requestedBy t]
    exact holds.once t

theorem claimedOnce_observable : Observable ClaimedOnce where
  calm world after committed trace holds :=
    holds.evolve (trace ▸ Grows.refl _ _) (Server.Evolves.of_eq committed)
  crashed t world holds := by
    refine ⟨fun member => ?_, fun first second => ?_, fun member => ?_, fun u => ?_⟩
    · exact holds.started (by simpa using member)
    · exact holds.unique (by simpa using first) (by simpa using second)
    · obtain ⟨status, claimed⟩ := holds.claimed (by simpa using member)
      exact ⟨status, List.mem_cons_of_mem _ claimed⟩
    · simpa [List.countP_cons, Event.requestedBy] using holds.once u

/-- The program has asked no provider yet. -/
def Unasked (t : Tid) (world : World) : Prop :=
  world.trace.countP (Event.requestedBy t) = 0

/-- The program has claimed the refund and asked no provider yet. -/
def Claimed (t : Tid) (refundId : Id) (world : World) : Prop :=
  Unasked t world ∧ ∃ status, .refundClaimed t refundId status ∈ world.trace

theorem unasked_stable (t : Tid) : refundDiscipline.protocol.Stable t (Unasked t) := by
  intro world after _ _ relied unasked
  rw [Unasked, relied.2.2.countP, unasked]
  intro event other
  cases event with
  | refundRequested u id orderId amountInKobo =>
      exact decide_eq_false fun same => other (congrArg some same)
  | _ => rfl

theorem claimed_stable (t : Tid) (refundId : Id)
    : refundDiscipline.protocol.Stable t (Claimed t refundId) := by
  intro world after before_inv after_inv relied given
  obtain ⟨unasked, status, claimed⟩ := given
  refine ⟨unasked_stable t world after before_inv after_inv relied unasked, status, ?_⟩
  exact relied.2.2.mem.mpr (Or.inl claimed)

/-- Silent steps keep the invariant and whatever depends on claims and requests only. -/
theorem silent_respects {P : World → Prop}
    (traced : ∀ {world after : World}, Grows Event.Aside world.trace after.trace → P world → P after)
    : refundDiscipline.protocol.Respects t (Step (silent t) t) P := by
  refine (refund_admits t).respects fun world after holds given effect _ => ?_
  have grows : Grows Event.Aside world.trace after.trace := effect.trace.mono fun _ => And.left
  exact ⟨effect.rows, holds.evolve grows effect.rows, traced grows given⟩

theorem Unasked.grows (unasked : Unasked t world)
    (grows : Grows Event.Aside world.trace after.trace)
    : Unasked t after := by
  rw [Unasked, grows.countP fun _ aside => aside.requestedBy t]
  exact unasked

section

variable {α : Type} {program : Service α} {Q : α → Prop}

theorem spec_silent (within : Within (Step (silent t) t) t program Q)
    : refundDiscipline.protocol.Spec t (fun _ => True) program (fun value _ => Q value)
        fun _ _ => True := by
  refine (Protocol.Spec.of_within within (silent_respects fun _ _ => trivial)
    (Protocol.Stable.const True)).conseq (fun _ _ given => given) (fun _ _ _ ends => ends.1) ?_
  exact fun _ _ _ _ => trivial

theorem spec_unasked (within : Within (Step (silent t) t) t program Q)
    : refundDiscipline.protocol.Spec t (Unasked t) program
        (fun value world => Q value ∧ Unasked t world) fun _ _ => True := by
  refine (Protocol.Spec.of_within within (silent_respects fun grows unasked => unasked.grows grows)
    (unasked_stable t)).conseq (fun _ _ given => given) (fun _ _ _ ends => ends) ?_
  exact fun _ _ _ _ => trivial

theorem spec_claimed (within : Within (Step (silent t) t) t program Q)
    : refundDiscipline.protocol.Spec t (Claimed t refundId) program
        (fun _ => Claimed t refundId) fun _ _ => True := by
  refine (Protocol.Spec.of_within within (silent_respects fun grows given => ?_)
    (claimed_stable t refundId)).conseq (fun _ _ given => given) (fun _ _ _ ends => ends.2) ?_
  · obtain ⟨unasked, status, claimed⟩ := given
    exact ⟨unasked.grows grows, status, grows.mem.mpr (Or.inl claimed)⟩
  · exact fun _ _ _ _ => trivial

end

-----------------------------------------------------------------------------------------
-- The calls
-----------------------------------------------------------------------------------------

/-- A claim is the only one if the refund was PENDING. -/
theorem spec_claimRefund (refund : Refund) (nonterminal : isTerminal refund.status = false)
    : refundDiscipline.protocol.Spec t (Unasked t)
        (claim (.refund refundId) (fun row => row.status = refund.status)
          (fun row => { row with status := .PROCESSING })
          fun t => .refundClaimed t refundId refund.status)
        (fun count world => count ≠ 0 → Claimed t refundId world) fun _ _ => True := by
  refine Discipline.spec_claim (unasked_stable t) rfl (fun row _ => ?_) ?_
    (fun _ _ _ => absurd rfl) fun _ _ _ => trivial
  · exact fun old _ _ => by simp
  intro world after row holds unasked found same committed traced permitted
  have pending : row.status = .PENDING := by
    have read : row.status = refund.status := by simpa using same
    cases status : refund.status with
    | PENDING => exact read.trans status
    | PROCESSING =>
        rw [status] at traced
        exact absurd traced (permitted t refundId)
    | _ => simp [status, isTerminal] at nonterminal
  have fresh : ∀ {u status}, .refundClaimed u refundId status ∉ world.trace := by
    intro u status member
    obtain ⟨row', found', started⟩ := holds.started member
    obtain rfl := Option.some.inj (found.symm.trans found')
    exact started pending
  have unasked' : Unasked t after := by
    rw [Unasked, traced, List.countP_cons, unasked]
    simp [Event.requestedBy]
  refine ⟨⟨fun {u id status} member => ?_, fun {u v id status status'} first second => ?_,
    fun {u id orderId amountInKobo} member => ?_, fun u => ?_⟩,
    fun _ => ⟨unasked', refund.status, ?_⟩⟩
  · rw [committed]
    by_cases own : id = refundId
    · subst own
      exact ⟨_, AList.lookup_insert _, by simp⟩
    · rw [traced] at member
      have old : .refundClaimed u id status ∈ world.trace := by simpa [own] using member
      rw [AList.lookup_insert_ne (by simpa using own)]
      exact holds.started old
  · rw [traced] at first second
    rcases List.mem_cons.mp first with new | old
    · rcases List.mem_cons.mp second with new' | old'
      · simp only [Event.refundClaimed.injEq] at new new'
        exact new.1.trans new'.1.symm
      · obtain ⟨rfl, rfl, rfl⟩ := Event.refundClaimed.inj new
        exact (fresh old').elim
    · rcases List.mem_cons.mp second with new' | old'
      · obtain ⟨rfl, rfl, rfl⟩ := Event.refundClaimed.inj new'
        exact (fresh old).elim
      · exact holds.unique old old'
  · rw [traced] at member
    obtain ⟨status, claimed⟩ := holds.claimed (by simpa using member)
    exact ⟨status, traced ▸ List.mem_cons_of_mem _ claimed⟩
  · rw [traced, List.countP_cons]
    simpa [Event.requestedBy] using holds.once u
  · rw [traced]
    exact List.mem_cons_self

/-- Who has claimed a refund may ask the provider once. -/
theorem spec_requestRefund (orderId : Id) (amountInKobo : Int)
    : refundDiscipline.protocol.Spec t (Claimed t refundId)
        (emit fun t => .refundRequested t refundId orderId amountInKobo) (fun _ _ => True)
        fun _ _ => True := by
  refine Discipline.spec_emit (claimed_stable t refundId) (by simp [Event.owner]) ?_
  intro world holds given _
  obtain ⟨unasked, claim_status, claimed⟩ := given
  refine ⟨⟨fun member => ?_, fun first second => ?_, fun {u id orderId' amountInKobo'} member => ?_,
    fun u => ?_⟩, trivial⟩
  · exact holds.started (by simpa using member)
  · exact holds.unique (by simpa using first) (by simpa using second)
  · rcases List.mem_cons.mp member with new | old
    · obtain ⟨rfl, rfl, rfl, rfl⟩ := Event.refundRequested.inj new
      exact ⟨claim_status, List.mem_cons_of_mem _ claimed⟩
    · obtain ⟨status, claimed⟩ := holds.claimed old
      exact ⟨status, List.mem_cons_of_mem _ claimed⟩
  · rw [List.countP_cons]
    by_cases own : u = t
    · subst own
      rw [unasked]
      simp [Event.requestedBy]
    · simpa [Event.requestedBy, Ne.symm own] using holds.once u

/-- What a provider does after it has been asked is not seen here. -/
theorem spec_processRefund (config : Config) (provider : Provider)
    (request : CreateRefundRequest) (same : request.refundId = refundId)
    : refundDiscipline.protocol.Spec t (Claimed t refundId)
        (provider.processRefund config request) (fun _ _ => True) fun _ _ => True := by
  subst same
  refine Protocol.Spec.bind (spec_requestRefund request.orderId _) fun _ => ?_
  refine spec_silent (Q := fun _ => True) (Within.bind (within_providerRefund config provider request)
    fun response _ => ?_) |>.conseq (fun _ _ given => given) (fun _ _ _ _ => trivial)
      fun _ _ _ ends => ends
  refine Within.bind (within_emit ⟨⟨nofun, nofun⟩, ?_⟩) fun _ _ => Within.pure trivial
  simp [Event.owner]

theorem spec_executeClaimedRefund (config : Config) (lock : Option DistributedLock)
    : refundDiscipline.protocol.Spec t (Claimed t refundId)
        (executeClaimedRefund config refundId lock) (fun _ _ => True) fun _ _ => True := by
  refine Protocol.Spec.bind (spec_claimed within_findUniqueOrThrow) fun refund => ?_
  refine Protocol.Spec.bind (spec_claimed within_findUniqueOrThrow) fun order => ?_
  refine Protocol.Spec.bind (spec_claimed (within_paymentOf refund)) fun payment => ?_
  refine Protocol.Spec.bind (spec_claimed (within_get config _)) fun provider => ?_
  refine Protocol.Spec.bind (spec_claimed (within_throwIfLost lock _)) fun _ => ?_
  refine Protocol.Spec.bind (spec_processRefund config provider _ rfl) fun response => ?_
  refine (spec_silent (within_settleRefund silent_allowsRefund refundId (fun _ _ => trivial) order
    response)).conseq (fun _ _ given => given) (fun _ _ _ _ => trivial) fun _ _ _ ends => ends

theorem spec_executeRefundLocked (config : Config) (lock : Option DistributedLock)
    : refundDiscipline.protocol.Spec t (Unasked t) (executeRefundLocked config refundId lock)
        (fun _ _ => True) fun _ _ => True := by
  refine Protocol.Spec.bind (spec_unasked within_findUnique) fun found => ?_
  refine Protocol.Spec.assume fun _ => ?_
  cases found with
  | none => exact Protocol.Spec.throw _ fun _ _ _ => trivial
  | some refund =>
      dsimp only
      split
      · exact Protocol.Spec.pure _ fun _ _ _ => trivial
      rename_i nonterminal
      split
      · exact Protocol.Spec.pure _ fun _ _ _ => trivial
      refine Protocol.Spec.bind (spec_unasked (within_throwIfLost lock _)) fun _ => ?_
      refine Protocol.Spec.assume fun _ => ?_
      refine Protocol.Spec.bind (spec_unasked within_throwIf) fun _ => ?_
      refine Protocol.Spec.assume fun _ => ?_
      refine Protocol.Spec.bind
        (spec_claimRefund refund (Bool.eq_false_iff.mpr nonterminal)) fun count => ?_
      split
      · refine (spec_silent within_findUniqueOrThrow).conseq (fun _ _ _ => trivial)
          (fun _ _ _ _ => trivial) fun _ _ _ ends => ends
      · rename_i some_claimed
        exact (spec_executeClaimedRefund config lock).pre fun _ _ given => given some_claimed

theorem spec_executeRefund (config : Config) (refundId : Id)
    : refundDiscipline.protocol.Spec t (Unasked t) (executeRefund config refundId)
        (fun _ _ => True) fun _ _ => True := by
  refine Protocol.Spec.bind (spec_unasked (within_acquire config _)) fun lock => ?_
  refine Protocol.Spec.assume fun own => ?_
  exact spec_finally' (spec_executeRefundLocked config lock) (spec_silent (within_releaseAny own))

/-- What has been claimed once is requested once. -/
theorem ClaimedOnce.requested (holds : ClaimedOnce world) (refundId : Id)
    : world.trace.countP (Event.requestsRefund refundId) ≤ 1 := by
  by_cases requested : ∃ t orderId amountInKobo,
      .refundRequested t refundId orderId amountInKobo ∈ world.trace
  · obtain ⟨t, orderId, amountInKobo, member⟩ := requested
    obtain ⟨status, claimed⟩ := holds.claimed member
    refine le_trans (List.countP_mono_left fun event later requests => ?_) (holds.once t)
    cases event with
    | refundRequested u id _ _ =>
        obtain rfl : id = refundId := by simpa [Event.requestsRefund] using requests
        obtain ⟨status', claimed'⟩ := holds.claimed later
        simpa [Event.requestedBy] using holds.unique claimed' claimed
    | _ => simp [Event.requestsRefund] at requests
  · have none_requested : world.trace.countP (Event.requestsRefund refundId) = 0 := by
      refine List.countP_eq_zero.mpr fun event member requests => ?_
      cases event with
      | refundRequested t id orderId amountInKobo =>
          obtain rfl : id = refundId := by simpa [Event.requestsRefund] using requests
          exact requested ⟨t, orderId, amountInKobo, member⟩
      | _ => simp [Event.requestsRefund] at requests
    omega

/-- However the calls of `executeRefund` interleave, fail and crash: if none of them claims a
refund that it has read as PROCESSING, no refund reaches its provider twice. By the invariant
that a request belongs to a claim that nobody else has taken.
-/
theorem refund_requested_once {config : Config} {refundIds : Tid → Id} {rows : AList Row}
    {pool : Pool World Input}
    (run : Run (machine anyExpiry) ClaimsPending
      ⟨World.start rows, fun t => (executeRefund config (refundIds t)).thread⟩ pool)
    (refundId : Id)
    : pool.state.trace.countP (Event.requestsRefund refundId) ≤ 1 := by
  have holds : ClaimedOnce (World.start rows) := ⟨nofun, nofun, nofun, fun _ => Nat.zero_le 1⟩
  have inv : refundDiscipline.protocol.inv (World.start rows) :=
    ⟨holds, Server.AllJustified.start rows⟩
  have verified := Discipline.verified claimedOnce_observable rfl holds
    (fun t => Service.thread_safe (spec_executeRefund config (refundIds t)) inv rfl) run
  exact ClaimedOnce.requested verified.inv.1 refundId

/-- An order that was paid through Paystack and of which the refund is due. -/
def refundDue : AList Row :=
  (((∅ : AList Row).insert (.order "order")
    ({ userId := "user", quoteId := "quote", status := .REFUND_PENDING, sourceCurrency := "NGN",
       destinationAsset := "USDC", sourceAmount := 1000000, destinationAmount := 5000000 }
      : Order)).insert (.payment "payment")
    ({ orderId := "order", userId := "user", provider := "PAYSTACK_NGN_BANK_TRANSFER",
       amount := 1000000, currency := "NGN", status := .SUCCEEDED, reference := "PAY_1" }
      : Payment)).insert (.refund "refund")
    ({ orderId := "order", paymentId := some "payment", userId := "user", amount := 1000000,
       reason := "Requested refund", idempotencyKey := "key" } : Refund)

/-- Two calls of `executeRefund` for it in production. -/
def twoExecutions (_ : Tid) : Program World Input Unit :=
  (executeRefund
    { env := .production, ngnProvider := .paystack, paystack := { secretKey := "sk_live" } }
    "refund").thread

/-- The process of the first call crashes while Paystack carries out its request; the second call
finds the lock taken, goes on without it and asks Paystack once more.
-/
theorem refund_requested_twice
    : ∃ pool, AnyRun (machine anyExpiry) ⟨World.start refundDue, twoExecutions⟩ pool
        ∧ pool.state.trace.countP (Event.requestsRefund "refund") = 2 := by
  have went : (Pool.schedule (machine anyExpiry) ⟨World.start refundDue, twoExecutions⟩
      (List.replicate 9 (.run 0 {}) ++ .crash 0 :: List.replicate 7 (.run 1 {}))).map
      (fun pool => pool.state.trace.countP (Event.requestsRefund "refund")) = some 2 := by
    decide +kernel
  exact AnyRun.of_schedule_map went

/-- The last event of a step is no claim of a refund that was PROCESSING. -/
def claimsNothingProcessing (_ : Tid) (_ after : World) : Bool :=
  match after.trace with
  | .refundClaimed _ _ .PROCESSING :: _ => false
  | _ => true

theorem claimsPending_of_check {t : Tid} {before after : World}
    (check : claimsNothingProcessing t before after = true)
    : ClaimsPending t before after := by
  intro u refundId traced
  simp [claimsNothingProcessing, traced] at check

/-- A call that starts when the first one has ended finds the refund settled. -/
theorem refund_requested_once_twoExecutions
    : ∃ pool, Run (machine anyExpiry) ClaimsPending
        ⟨World.start refundDue, twoExecutions⟩ pool
      ∧ pool.live 0 = false ∧ pool.live 1 = false
      ∧ 0 < pool.state.trace.countP (Event.requestsRefund "refund")
      ∧ pool.state.trace.countP (Event.requestsRefund "refund") ≤ 1 := by
  have went : (Pool.checkedSchedule (machine anyExpiry) claimsNothingProcessing
      ⟨World.start refundDue, twoExecutions⟩
      (List.replicate 9 (.run 0 {}) ++ .run 0 { reply := .refund "1" "processed" "PAY_1" }
        :: List.replicate 12 (.run 0 {}) ++ List.replicate 3 (.run 1 {}))).map
      (fun pool => (pool.live 0, pool.live 1,
        decide (0 < pool.state.trace.countP (Event.requestsRefund "refund"))))
      = some (false, false, true) := by
    decide +kernel
  obtain ⟨pool, reached, found⟩ := Option.map_eq_some_iff.mp went
  have run : Run (machine anyExpiry) ClaimsPending _ pool :=
    Run.of_checkedSchedule (fun _ _ _ => claimsPending_of_check) reached
  obtain ⟨first, found⟩ := Prod.mk.inj found
  obtain ⟨second, asked⟩ := Prod.mk.inj found
  exact ⟨pool, run, first, second, of_decide_eq_true asked, refund_requested_once run "refund"⟩

end LuminaRail
