import LuminaRail.Settlements.Reconciled
import LuminaRail.Workers.SettlementFootprints

/-! What the settlement worker leaves of an order that it processes alone. It keeps away from the other
orders, and a settlement that is no longer PENDING does not become PENDING again.
-/

namespace LuminaRail

open Concurrency Database Service Exclusive

/-- Processing an order. -/
def processingOrder (orderId : Id) : Footprint where
  writes
    | .order id, _, _ => id = orderId
    | .settlement id, old, new => id = orderId ∧ (old = none ∨ new.status ≠ .PENDING)
    | _, _, _ => True
  events _ := True

/-- Two writes of the flow are one, by cases on the kind of row. -/
theorem processing_transitive (orderId : Id) : (processingOrder orderId).writes.Transitive := by
  intro key old row next first second
  cases key with
  | order id => exact first
  | settlement id => exact ⟨first.1, Or.inr (second.2.resolve_left (by simp))⟩
  | _ => trivial

/-- The flow may write the settlement of its order and its reservation. -/
theorem processing_allows (t : Tid) (orderId : Id)
    : (processingOrder orderId).AllowsSubmission t orderId where
  pool _ _ _ := trivial
  reservation _ _ _ := trivial
  treasury _ _ _ := trivial
  checked _ := trivial
  settlement _ _ _ onward := ⟨rfl, Or.inr onward⟩
  completed _ := rfl
  observes _ := trivial

/-- The settlement of the order is there and no longer PENDING. -/
def Onward (orderId : Id) (rows : AList Row) : Prop :=
  ∃ settlement : Settlement,
    rows.lookup (.settlement orderId) = some settlement ∧ settlement.status ≠ .PENDING

section

variable {t : Tid} {orderId : Id} {before world after : World} {α : Type} {done : Prop}

/-- A settlement that has moved on stays moved on. -/
theorem Onward.evolve {rows rows' : AList Row} (onward : Onward orderId rows)
    (evolves : Server.Evolves (processingOrder orderId).writes rows rows')
    : Onward orderId rows' := by
  obtain ⟨settlement, stored, moved⟩ := onward
  have kept : (rows'.lookup (.settlement orderId)).isSome := evolves.kept (by simp [stored])
  obtain ⟨row, found⟩ := Option.isSome_iff_exists.mp kept
  refine ⟨row, found, ?_⟩
  rcases evolves.rows found with same | written
  · obtain rfl := Option.some.inj (stored.symm.trans same)
    exact moved
  · rw [stored] at written
    exact written.2.resolve_left (by simp)

-----------------------------------------------------------------------------------------
-- Keeping away from the others
-----------------------------------------------------------------------------------------

/-- The worker has come here by processing the order, whose settlement has moved on if this is so. -/
def Processing (t : Tid) (orderId : Id) (before : World) (done : Prop) (world : World) : Prop :=
  (processingOrder orderId).Leads t before world ∧ (done → Onward orderId world.db.committed)

/-- What has been done may be forgotten. -/
theorem Processing.mono {done' : Prop} (here : Processing t orderId before done world)
    (weaker : done' → done)
    : Processing t orderId before done' world :=
  ⟨here.1, fun given => here.2 (weaker given)⟩

/-- The parts of the processing lead on from wherever they are called. -/
theorem spec_processing {service : Service α} {Q : α → Prop}
    (within : Within (Step (processingOrder orderId) t) t service Q)
    : (Protocol.alone t).Spec t (Processing t orderId before done) service
        (fun value world => Q value ∧ Processing t orderId before done world)
        fun _ => Processing t orderId before done := by
  refine Protocol.Spec.of_within within (fun world after _ here step _ => ?_)
    fun _ _ _ _ same here => same rfl ▸ here
  have leads := here.1.step (processing_transitive orderId) step
  refine ⟨trivial, fun other => absurd rfl other, leads, fun given => ?_⟩
  have next := here.1.again.step (processing_transitive orderId) step
  exact (here.2 given).evolve next.rows

/-- What follows such a part. -/
theorem spec_afterProcessing {β : Type} {first : Service β} {rest : β → Service α} {Q : β → Prop}
    {R : α → World → Prop} (within : Within (Step (processingOrder orderId) t) t first Q)
    (later : ∀ value, Q value → (Protocol.alone t).Spec t (Processing t orderId before done)
      (rest value) R fun _ => Processing t orderId before False)
    : (Protocol.alone t).Spec t (Processing t orderId before done) (first >>= rest) R
        fun _ => Processing t orderId before False := by
  refine Protocol.Spec.bind ((spec_processing within).conseq (fun _ _ here => here)
    (fun _ _ _ given => given) fun _ _ _ here => here.mono False.elim) fun value => ?_
  exact Protocol.Spec.assume (later value)

/-- What follows when the settlement is read. -/
theorem spec_afterRead {rest : Option Settlement → Service α} {R : α → World → Prop}
    (later : ∀ found, (Protocol.alone t).Spec t
      (Processing t orderId before (done ∨ ∃ settlement ∈ found, settlement.status ≠ .PENDING))
      (rest found) R fun _ => Processing t orderId before False)
    : (Protocol.alone t).Spec t (Processing t orderId before done)
        (findUnique none (.settlement orderId) >>= rest) R
        fun _ => Processing t orderId before False := by
  refine Protocol.Spec.bind (spec_findUnique (transactional_alone t).reading
    (fun _ _ _ _ same here => same rfl ▸ here) (fun world _ here _ => ?_)
    fun world db error _ here aborted => ?_) later
  · refine ⟨here.1, fun given => given.elim here.2 fun found => ?_⟩
    obtain ⟨settlement, stored, onward⟩ := found
    exact ⟨settlement, stored, onward⟩
  · rcases aborted with rfl | ⟨x, absurd', _⟩
    · exact here.mono False.elim
    · simp at absurd'

-----------------------------------------------------------------------------------------
-- Moving the settlement on
-----------------------------------------------------------------------------------------

open SettlementService SettlementWorker

/-- The settlement of the order is found, or it is created PENDING. -/
theorem spec_createSettlementForOrder (config : Config)
    : (Protocol.alone t).Spec t (Processing t orderId before False)
        (createSettlementForOrder config orderId)
        (fun created => Processing t orderId before (created.1.status ≠ .PENDING))
        fun _ => Processing t orderId before False := by
  refine spec_afterProcessing within_findUnique fun found _ => ?_
  cases found with
  | none => exact Protocol.Spec.throw _ fun _ _ here => here
  | some order =>
      refine spec_afterRead fun existing => ?_
      cases existing with
      | some existing =>
          exact Protocol.Spec.pure _ fun _ _ here =>
            here.mono fun onward => Or.inr ⟨existing, rfl, onward⟩
      | none =>
          refine Protocol.Spec.pre (P := Processing t orderId before False) ?_ fun _ _ here =>
            here.mono False.elim
          refine spec_afterProcessing within_throwIf fun _ _ => ?_
          refine spec_afterProcessing (within_select (Q := fun _ => True) fun _ => trivial)
            fun refund _ => ?_
          cases refund with
          | some refund => exact Protocol.Spec.throw _ fun _ _ here => here
          | none =>
              refine spec_afterProcessing within_throwIf fun _ _ => ?_
              refine spec_afterProcessing within_now fun time _ => ?_
              refine spec_afterProcessing within_randomText fun suffix _ => ?_
              refine Protocol.Spec.tryCatch (E := fun _ => Processing t orderId before False)
                ?_ fun error => ?_
              · refine spec_afterProcessing (Q := fun row => row.status = .PENDING)
                  (within_create (by simp) (fun entry member => ?_) rfl) fun row pending => ?_
                · simp only [List.mem_cons, List.not_mem_nil, or_false] at member
                  rcases member with rfl | rfl
                  · exact ⟨rfl, Or.inl rfl⟩
                  · trivial
                · exact Protocol.Spec.pure _ fun _ _ here => here.mono fun onward => onward pending
              · split
                · refine spec_afterRead fun duplicate => ?_
                  cases duplicate with
                  | some duplicate =>
                      exact Protocol.Spec.pure _ fun _ _ here =>
                        here.mono fun onward => Or.inr ⟨duplicate, rfl, onward⟩
                  | none => exact Protocol.Spec.throw _ fun _ _ here => here.mono False.elim
                · exact Protocol.Spec.throw _ fun _ _ here => here

/-- The settlement that is returned is in SUBMITTING. -/
theorem yields_markSubmitting {s : Snapshot}
    : (exclusiveAlone t).Yields s (markSubmitting orderId) fun _ last =>
        Onward orderId last.committed := by
  refine Yields.bind (R := fun _ last => last = s) ?_ fun settlement next same => ?_
  · refine Yields.bind (yields_findUnique trivial) fun found next given => ?_
    obtain ⟨_, rfl⟩ := given
    cases found with
    | none => exact Yields.throw
    | some settlement => exact Yields.pure rfl
  subst same
  refine Yields.bind yields_throwIf fun _ next given => ?_
  obtain ⟨_, rfl⟩ := given
  refine Yields.bind yields_now fun time next same => ?_
  subst same
  refine Yields.bind yields_updateManyNow fun count last given => ?_
  rcases given with ⟨row, _, _, rfl, rfl⟩ | ⟨_, rfl, rfl⟩
  · refine (yields_findUniqueOrThrow trivial).mono fun settlement last given => ?_
    obtain ⟨_, rfl⟩ := given
    exact ⟨_, AList.lookup_insert _, by simp⟩
  · refine Yields.bind (yields_findUnique trivial) fun found next given => ?_
    obtain ⟨read, rfl⟩ := given
    cases found with
    | none => exact Yields.throw
    | some current =>
        dsimp only
        split
        · rename_i submitting
          exact Yields.pure ⟨current, read.symm, by simp [submitting]⟩
        · exact Yields.throw

/-- The mark SUBMITTING moves the settlement on, or throws and leaves it. -/
theorem spec_markSubmitting
    : (Protocol.alone t).Spec t (Processing t orderId before done) (markSubmitting orderId)
        (fun _ => Processing t orderId before True) fun _ => Processing t orderId before False := by
  have moves : (Protocol.alone t).Spec t (Processing t orderId before done) (markSubmitting orderId)
      (fun _ world => Onward orderId world.db.committed) fun _ _ => True := by
    refine Protocol.Spec.of_safe fun world _ _ => ?_
    refine Protocol.Spec.safe (Protocol.Spec.conseq yields_markSubmitting (fun _ _ here => here)
      (fun _ world _ ended => ?_) fun _ _ _ _ => trivial) trivial (at_alone t world)
    obtain ⟨last, there, settlement, stored, onward⟩ := ended
    exact ⟨settlement, (there.committed _ trivial).trans stored, onward⟩
  refine ((spec_processing (within_startSubmitting (processing_allows t orderId))).and moves).conseq
    (fun _ _ here => here) (fun _ _ _ ended => ?_) fun _ _ _ ended => ended.1.mono False.elim
  exact ⟨ended.1.2.1, fun _ => ended.2⟩

/-- A part of the processing after which nothing more is asked of the settlement. -/
theorem spec_onward {service : Service SettlementStatus}
    (within : Within (Step (processingOrder orderId) t) t service)
    : (Protocol.alone t).Spec t (Processing t orderId before True) service
        (fun status => Processing t orderId before (status ≠ .PENDING))
        fun _ => Processing t orderId before False :=
  (spec_processing within).conseq (fun _ _ here => here)
    (fun _ _ _ given => given.2.mono fun _ => trivial) fun _ _ _ here => here.mono False.elim

/-- The flow moves a pending settlement on, unless it throws. -/
theorem spec_processLocked (sdk : StellarSdk) (config : Config) (settlement : Settlement)
    (stopAtSubmitting : Bool) (lock : DistributedLock)
    : (Protocol.alone t).Spec t (Processing t orderId before (settlement.status ≠ .PENDING))
        (processLocked sdk config orderId settlement stopAtSubmitting lock)
        (fun status => Processing t orderId before (status ≠ .PENDING))
        fun _ => Processing t orderId before False := by
  have flows (current : Settlement) : (Protocol.alone t).Spec t (Processing t orderId before True)
      (if stopAtSubmitting then pure current.status
        else executeSettlementFlow sdk config orderId current lock)
      (fun status => Processing t orderId before (status ≠ .PENDING))
      fun _ => Processing t orderId before False := by
    split
    · exact spec_onward (Within.pure trivial)
    · exact spec_onward (within_executeSettlementFlow (processing_allows t orderId) sdk config
        current lock)
  refine spec_afterRead fun found => ?_
  refine Protocol.Spec.pre (P := Processing t orderId before
    ((found.getD settlement).status ≠ .PENDING)) ?_ fun _ _ here => here.mono fun onward => ?_
  · dsimp only
    generalize found.getD settlement = current
    have moved (onward : current.status ≠ .PENDING) : (Protocol.alone t).Spec t
        (Processing t orderId before (current.status ≠ .PENDING))
        (if stopAtSubmitting then pure current.status
          else executeSettlementFlow sdk config orderId current lock)
        (fun status => Processing t orderId before (status ≠ .PENDING))
        fun _ => Processing t orderId before False :=
      (flows current).pre fun _ _ here => here.mono fun _ => onward
    split
    · exact Protocol.Spec.bind spec_markSubmitting flows
    · rename_i submitting
      exact moved (by simp [submitting])
    · rename_i submitted
      exact moved (by simp [submitted])
    · rename_i confirming
      exact moved (by simp [confirming])
    · exact Protocol.Spec.pure _ fun _ _ here => here
  · cases found with
    | none => exact Or.inl onward
    | some current => exact Or.inr ⟨current, rfl, onward⟩

/-- An order is processed by the rule for its lock and the rule for the flow. -/
theorem spec_processSingleOrder (sdk : StellarSdk) (config : Config) (stopAtSubmitting : Bool)
    : (Protocol.alone t).Spec t (Processing t orderId before False)
        (processSingleOrder sdk config orderId stopAtSubmitting)
        (fun status => Processing t orderId before (status ≠ .PENDING))
        fun _ => Processing t orderId before False := by
  refine Protocol.Spec.bind (spec_createSettlementForOrder config) fun created => ?_
  obtain ⟨settlement, existed⟩ := created
  refine spec_afterProcessing (within_acquireSettlementLock config _) fun lock own => ?_
  cases lock with
  | none =>
      refine spec_afterProcessing within_throwIf fun _ _ => ?_
      refine spec_afterRead fun current => Protocol.Spec.pure _ fun _ _ here => ?_
      refine here.mono fun onward => ?_
      cases current with
      | none => exact Or.inl onward
      | some current => exact Or.inr ⟨current, rfl, onward⟩
  | some lock =>
      have cleans (done : Prop) : (Protocol.alone t).Spec t (Processing t orderId before done) _
          (fun _ world => True ∧ Processing t orderId before done world)
          fun _ => Processing t orderId before done :=
        spec_processing (within_finishSettling (processing_allows t orderId) (own lock rfl))
      refine spec_cleanup (spec_processLocked sdk config settlement stopAtSubmitting lock)
        (fun status => ?_) fun error => ?_
      · exact (cleans (status ≠ .PENDING)).conseq (fun _ _ here => here)
          (fun _ _ _ given => given.2) fun _ _ _ here => here.mono False.elim
      · exact (cleans False).conseq (fun _ _ here => here) (fun _ _ _ given => given.2)
          fun _ _ _ here => here

/-- A settlement that is given up is not PENDING afterwards: one that may not fail was not before. -/
theorem yields_giveUp {clock : Nat} {s : Snapshot} {existing : Settlement} (error : AppError)
    (stored : s.committed.lookup (.settlement orderId) = some existing)
    : (exclusiveAt t clock).Yields s (giveUp orderId error) fun _ last =>
        Onward orderId last.committed := by
  refine Yields.bind (yields_findUnique trivial) fun found next given => ?_
  obtain ⟨read, rfl⟩ := given
  obtain rfl := read.trans stored
  dsimp only
  split
  · refine Yields.bind (yields_mark _ _) fun settlement last given => Yields.pure ?_
    obtain ⟨failed, _, stored⟩ := given
    exact ⟨settlement, stored.stored, by simp [failed]⟩
  · rename_i settled
    refine Yields.pure ⟨existing, stored, fun pending => settled ?_⟩
    rw [pending]
    rfl

-----------------------------------------------------------------------------------------
-- Lone runs
-----------------------------------------------------------------------------------------

/-- The order has been processed: its settlement has moved on, and the other orders and settlements
are what they were.
-/
structure Processed (orderId : Id) (before after : World) : Prop where
  onward : Onward orderId after.db.committed
  orders : ∀ id, id ≠ orderId
    → after.db.committed.lookup (.order id) = before.db.committed.lookup (.order id)
  settlements : ∀ id, id ≠ orderId
    → after.db.committed.lookup (.settlement id) = before.db.committed.lookup (.settlement id)
  clock : after.clock = before.clock

/-- What was led to by the flow has been processed. -/
theorem processed_of_leads (leads : (processingOrder orderId).Leads t before after)
    (onward : Onward orderId after.db.committed)
    : Processed orderId before after where
  onward := onward
  orders _ other := leads.rows.lookup_eq fun _ _ => other
  settlements _ other := leads.rows.lookup_eq fun _ _ written => other written.1
  clock := leads.clock

variable {sdk : StellarSdk} {config : Config} {stopAtSubmitting : Bool}

/-- Processing that returns another status than PENDING. -/
theorem processed_alone {status : SettlementStatus}
    (idle : ∀ x, x.owner = t → before.db.pending x = none)
    (processes : Program.Alone t (processSingleOrder sdk config orderId stopAtSubmitting).run before
      (.ok status) after)
    (onward : status ≠ .PENDING)
    : Processed orderId before after := by
  have ended : Processing t orderId before (status ≠ .PENDING) after := Protocol.Spec.of_alone
    (spec_processSingleOrder sdk config stopAtSubmitting) ⟨.start idle, False.elim⟩ processes
  exact processed_of_leads ended.1 (ended.2 onward)

/-- Processing that throws, after which the settlement is given up. -/
theorem givenUp_alone {error : AppError} {middle : World}
    (idle : ∀ x, x.owner = t → before.db.pending x = none)
    (throws : Program.Alone t (processSingleOrder sdk config orderId stopAtSubmitting).run before
      (.error error) middle)
    (settled : (middle.db.committed.lookup (.settlement orderId)).isSome)
    (gaveUp : Program.Alone t (giveUp orderId error).run middle (.ok ()) after)
    : Processed orderId before after := by
  have there : Processing t orderId before False middle := Protocol.Spec.of_alone
    (spec_processSingleOrder sdk config stopAtSubmitting) ⟨.start idle, False.elim⟩ throws
  have ended : True ∧ Processing t orderId before False after := Protocol.Spec.of_alone
    (spec_processing (within_giveUp (processing_allows t orderId) error)) there gaveUp
  obtain ⟨existing, stored⟩ := Option.isSome_iff_exists.mp settled
  have yields : (exclusiveAt t middle.clock).Yields (.of t middle) _ _ :=
    yields_giveUp error stored
  obtain ⟨last, at_last, settlement, found, onward⟩ :=
    Protocol.Spec.of_alone yields (at_clock t middle) gaveUp
  refine processed_of_leads ended.2.1 ⟨settlement, ?_, onward⟩
  exact (at_last.committed _ trivial).trans found

end

end LuminaRail
