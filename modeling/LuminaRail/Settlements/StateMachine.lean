import LuminaRail.Model.Discipline
import LuminaRail.Services.OrderFootprints

/-! Whether settlements follow their state machine. Six methods move a settlement; each checks
the status that it reads, but only `markSubmitting` compares it with the stored one again when
it writes.
-/

namespace LuminaRail

open Concurrency Database Service SettlementService

/-- The moves of a settlement. -/
inductive SettlementMove
  | submitting
  | submitted (transactionHash : String)
  | confirming
  | completed (ledger : Nat)
  | failed (reason : String)
  | requiresReconciliation (reason : String)

namespace SettlementMove

def target : SettlementMove → SettlementStatus
  | .submitting => .SUBMITTING
  | .submitted _ => .SUBMITTED
  | .confirming => .CONFIRMING
  | .completed _ => .COMPLETED
  | .failed _ => .FAILED
  | .requiresReconciliation _ => .REQUIRES_RECONCILIATION

def run (id : Id) : SettlementMove → Service Settlement
  | .submitting => markSubmitting id
  | .submitted transactionHash => markSubmitted id transactionHash
  | .confirming => markConfirming id
  | .completed ledger => markCompleted id ledger
  | .failed reason => markFailed id reason
  | .requiresReconciliation reason => markRequiresReconciliation id reason

end SettlementMove

/-- Who has checked that a settlement may move on from a status changes it from that status. -/
def FindsAsChecked (t : Tid) (before after : World) : Prop :=
  ∀ id source old new, .transitionChecked t id source ∈ before.trace
    → before.db.committed.lookup (.settlement id) = some old
    → after.db.committed.lookup (.settlement id) = some new → old.status ≠ new.status
    → old.status = source

/-- A stored settlement changes its status as the state machine allows. -/
def FollowsStateMachine : Server.Replaces Row
  | .settlement _, old, new =>
      ∀ row ∈ old, SettlementStateMachine.canTransition row.status new.status
  | _, _, _ => True

/-- What a move may write: its settlement with the target as the new status, and for
`markSubmitting` only over a status that allows it.
-/
def MovesTo (id : Id) (move : SettlementMove) : Server.Replaces Row
  | .settlement other, old, new => other = id ∧ new.status = move.target
      ∧ (move = .submitting → ∀ row ∈ old, SettlementStateMachine.canTransition row.status .SUBMITTING)
  | _, _, _ => True

/-- Two writes of a move are one, by cases on the kind of row. -/
theorem MovesTo.transitive (id : Id) (move : SettlementMove) : (MovesTo id move).Transitive := by
  intro key old row next first second
  cases key with
  | settlement other => exact ⟨first.1, second.2.1, first.2.2⟩
  | _ => trivial

/-- Any number of moves of any settlements. -/
def settlementDiscipline (moves : Tid → Id × SettlementMove) : Discipline where
  rows _ _ _ := True
  changes := FollowsStateMachine
  promised _ _ _ _ := trivial
  transitive _ _ _ _ _ _ := trivial
  writes t := MovesTo (moves t).1 (moves t).2
  inv _ := True
  allowed := FindsAsChecked

/-- What a move does apart from its record of the check. -/
def moving (id : Id) (move : SettlementMove) : Footprint := ⟨MovesTo id move, fun _ => False⟩

/-- The program has checked that its settlement may move to the target. -/
def Checked (t : Tid) (id : Id) (target : SettlementStatus) (world : World) : Prop :=
  ∃ source, SettlementStateMachine.canTransition source target
    ∧ .transitionChecked t id source ∈ world.trace

section

variable {moves : Tid → Id × SettlementMove} {t : Tid} {id : Id} {move : SettlementMove}
  {world after : World}

/-- A move may change reservations. -/
theorem moving_allowsLiquidity : (moving id move).AllowsLiquidity :=
  ⟨fun _ _ _ => trivial, fun _ _ _ => trivial, fun _ _ _ => trivial⟩

/-- The writes and events of a move are admitted. -/
theorem moving_admits (same : moves t = (id, move))
    : (settlementDiscipline moves).Admits (moving id move) t where
  transitive := MovesTo.transitive id move
  writes := by simp [settlementDiscipline, moving, same]
  events _ never := never.elim

/-- The invariant is about committed rows and events only. -/
theorem settlement_observable : Observable (settlementDiscipline moves).inv :=
  ⟨fun _ _ _ _ holds => holds, fun _ _ holds => holds⟩

/-- A check stays made. -/
theorem checked_stable (target : SettlementStatus)
    : (settlementDiscipline moves).protocol.Stable t (Checked t id target) := by
  intro world after _ _ relied given
  obtain ⟨source, may_move, checked⟩ := given
  exact ⟨source, may_move, relied.2.2.mem.mpr (Or.inl checked)⟩

/-- A move that finds its settlement as it has been checked follows the state machine. -/
theorem Checked.follows (checked : Checked t id move.target world)
    (effect : Effect (moving id move) t world after) (found : FindsAsChecked t world after)
    : Server.Evolves FollowsStateMachine world.db.committed after.db.committed := by
  refine ⟨fun {key row} shown => ?_, effect.rows.kept⟩
  refine (effect.rows.rows shown).imp_right fun moved => ?_
  cases key with
  | settlement other =>
      obtain ⟨rfl, reached, _⟩ := moved
      intro old stored
      by_cases same : old.status = row.status
      · simp [SettlementStateMachine.canTransition, same]
      · obtain ⟨source, may_move, checked⟩ := checked
        rw [found _ source old row checked stored shown same, reached]
        exact may_move
  | _ => trivial

/-- The steps after the check keep the state machine. -/
theorem checked_respects (same : moves t = (id, move))
    : (settlementDiscipline moves).protocol.Respects t (Step (moving id move) t)
        (Checked t id move.target) := by
  refine (moving_admits same).respects fun world after _ checked effect found => ?_
  refine ⟨checked.follows effect found, trivial, ?_⟩
  obtain ⟨source, may_move, recorded⟩ := checked
  exact ⟨source, may_move, effect.trace.mem.mpr (Or.inl recorded)⟩

/-- `markSubmitting` keeps the state machine by itself. -/
theorem submitting_respects (same : moves t = (id, .submitting))
    : (settlementDiscipline moves).protocol.Respects t (Step (moving id .submitting) t)
        fun _ => True := by
  refine (moving_admits same).respects fun world after _ _ effect _ => ⟨?_, trivial, trivial⟩
  refine effect.rows.mono fun key old new moved => ?_
  cases key with
  | settlement other =>
      obtain ⟨_, reached, guarded⟩ := moved
      intro row stored
      rw [reached]
      exact guarded rfl row stored
  | _ => trivial

-----------------------------------------------------------------------------------------
-- The moves
-----------------------------------------------------------------------------------------

/-- A write of the target over whatever status is stored. -/
theorem moves_to (unguarded : move ≠ .submitting) (old : Option Settlement) {new : Settlement}
    (reached : new.status = move.target)
    : (moving id move).writes (.settlement id) old new :=
  ⟨rfl, reached, fun submitting => absurd submitting unguarded⟩

/-- A settlement is only read. -/
theorem spec_getSettlementById
    : (settlementDiscipline moves).protocol.Spec t (fun _ => True) (getSettlementById id)
        (fun _ _ => True) fun _ _ => True := by
  refine Protocol.Spec.bind (Q := fun _ _ => True)
    (Discipline.spec_select (Protocol.Stable.const True) (fun _ _ _ _ => trivial)
      fun _ _ _ => trivial) fun found => ?_
  cases found with
  | none => exact Protocol.Spec.throw _ fun _ _ _ => trivial
  | some settlement => exact Protocol.Spec.pure _ fun _ _ _ => trivial

/-- A check that passes has been made. -/
theorem spec_checkTransition (target : SettlementStatus)
    : (settlementDiscipline moves).protocol.Spec t (fun _ => True)
        (checkTransition id target) (fun _ => Checked t id target) fun _ _ => True := by
  refine Protocol.Spec.bind spec_getSettlementById fun settlement => ?_
  refine Protocol.Spec.bind (spec_throwIf fun _ _ _ => trivial) fun _ => ?_
  refine Protocol.Spec.assume fun valid => ?_
  refine Discipline.spec_emit (Protocol.Stable.const True) (by simp [Event.owner]) ?_
  intro world _ _ _
  exact ⟨trivial, settlement.status, by simpa using valid, List.mem_cons_self⟩

/-- What follows the check keeps the state machine. -/
theorem spec_checked {α : Type} {target : SettlementStatus} {rest : Unit → Service α}
    (same : moves t = (id, move)) (reach : move.target = target)
    (within : Within (Step (moving id move) t) t (rest ()))
    : (settlementDiscipline moves).protocol.Spec t (fun _ => True)
        (checkTransition id target >>= rest) (fun _ _ => True) fun _ _ => True := by
  subst reach
  refine Protocol.Spec.bind (spec_checkTransition move.target) fun _ => ?_
  refine (Protocol.Spec.of_within within (checked_respects same)
    (checked_stable move.target)).conseq (fun _ _ given => given) ?_ ?_
  · exact fun _ _ _ _ => trivial
  · exact fun _ _ _ _ => trivial

/-- A mark writes what it has checked. -/
theorem spec_mark {target : SettlementStatus} {data : Settlement → Settlement}
    (same : moves t = (id, move)) (reach : move.target = target)
    (unguarded : move ≠ .submitting)
    : (settlementDiscipline moves).protocol.Spec t (fun _ => True) (mark id target data)
        (fun _ _ => True) fun _ _ => True :=
  spec_checked same reach (Within.bind within_now fun _ _ =>
    within_updateNow fun row => by exact moves_to unguarded (some row) reach.symm)

/-- The mark SUBMITTED checks the transition before it writes. -/
theorem spec_markSubmitted {transactionHash : String}
    (same : moves t = (id, .submitted transactionHash))
    : (settlementDiscipline moves).protocol.Spec t (fun _ => True)
        (markSubmitted id transactionHash) (fun _ _ => True) fun _ _ => True := by
  refine spec_checked same rfl (Within.bind within_now fun time _ => ?_)
  exact within_updateNow fun row => by exact moves_to (by simp) (some row) rfl

/-- The mark COMPLETED checks the transition before its transaction writes. -/
theorem spec_markCompleted {ledger : Nat} (same : moves t = (id, .completed ledger))
    : (settlementDiscipline moves).protocol.Spec t (fun _ => True) (markCompleted id ledger)
        (fun _ _ => True) fun _ _ => True := by
  refine spec_checked same rfl (Within.bind (Q := fun _ => True)
    (within_transaction fun x own => ?_) fun settlement _ => ?_)
  · refine Within.bind within_now fun time _ => ?_
    refine Within.bind (within_updateIn own fun row => by exact moves_to (by simp) (some row) rfl)
      fun settlement _ => ?_
    exact Within.bind (within_updateIn own fun _ => trivial) fun _ _ => Within.pure trivial
  · exact Within.bind (within_consumeReservation moving_allowsLiquidity id _ _) fun _ _ =>
      Within.pure trivial

/-- Every move keeps the state machine where it finds its settlement as it has checked it. -/
theorem spec_move (same : moves t = (id, move))
    : (settlementDiscipline moves).protocol.Spec t (fun _ => True) (move.run id)
        (fun _ _ => True) fun _ _ => True := by
  cases move with
  | submitting =>
      have within : Within (Step (moving id .submitting) t) t (markSubmitting id) :=
        within_markSubmitting fun row _ valid =>
          ⟨rfl, rfl, fun _ old stored => Option.some.inj stored ▸ valid⟩
      refine (Protocol.Spec.of_within within (submitting_respects same)
        (Protocol.Stable.const True)).conseq (fun _ _ given => given) ?_ fun _ _ _ ends => ends
      exact fun _ _ _ _ => trivial
  | submitted transactionHash => exact spec_markSubmitted same
  | confirming => exact spec_mark same rfl nofun
  | completed ledger => exact spec_markCompleted same
  | failed reason => exact spec_mark same rfl nofun
  | requiresReconciliation reason => exact spec_mark same rfl nofun

end

/-- However the moves of settlements interleave, fail and crash: as long as every one of them
finds its settlement as it has checked it, each committed change of a status is one that the
state machine allows, and COMPLETED and FAILED settlements stay what they are. By what every
step of a verified run writes.
-/
theorem settlement_follows_stateMachine {moves : Tid → Id × SettlementMove} {rows : AList Row}
    {pool last : Pool World Input} {change : Move Input Chance}
    (run : Run (machine anyExpiry) FindsAsChecked
      ⟨World.start rows, fun t => ((moves t).2.run (moves t).1).thread⟩ pool)
    (moved : pool.move (machine anyExpiry) change = some last)
    (found : ∀ t input, change = .run t input → FindsAsChecked t pool.state last.state)
    {id : Id} {old new : Settlement}
    (before : pool.state.db.committed.lookup (.settlement id) = some old)
    (after : last.state.db.committed.lookup (.settlement id) = some new)
    : SettlementStateMachine.canTransition old.status new.status = true
      ∧ (old.status = .COMPLETED ∨ old.status = .FAILED → new.status = old.status) := by
  have verified := Discipline.verified settlement_observable rfl trivial
    (fun t => Service.thread_safe (spec_move rfl)
      ⟨trivial, Server.AllJustified.start rows⟩ trivial) run
  have follows : SettlementStateMachine.canTransition old.status new.status = true := by
    rcases (Discipline.evolves verified moved found).rows after with same | followed
    · obtain rfl := Option.some.inj (before.symm.trans same)
      simp [SettlementStateMachine.canTransition]
    · exact followed old before
  refine ⟨follows, fun final => ?_⟩
  rcases final with status | status <;>
    simpa [status, SettlementStateMachine.canTransition,
      SettlementStateMachine.allowedTransitions, eq_comm] using follows

/-- A settlement of 50 USDC in some status. -/
def settlementIn (status : SettlementStatus) : AList Row :=
  ((∅ : AList Row).insert (.order "order")
    ({ userId := "user", quoteId := "quote", status := .SETTLEMENT_PENDING,
       sourceCurrency := "NGN",
       destinationAsset := "USDC", sourceAmount := 1000000, destinationAmount := 500000000 }
      : Order)).insert (.settlement "order")
    ({ settlementId := "STL_1", userId := "user", status := status, asset := "USDC",
       amount := 500000 } : Settlement)

def settlementStatus (pool : Pool World Input) : Option SettlementStatus :=
  (pool.state.db.committed.lookup (.settlement "order")).map Settlement.status

/-- One call completes the submitted settlement and another one gives it up. -/
def completedAndFailed (t : Tid) : Program World Input Unit :=
  (SettlementMove.run "order" (if t = 0 then .completed 1 else .failed "Reconciliation error")).thread

/-- `markFailed` has checked that a SUBMITTED settlement may fail; when it writes, `markCompleted`
has completed it.
-/
theorem completed_settlement_fails
    : ∃ pool last, AnyRun (machine anyExpiry)
        ⟨World.start (settlementIn .SUBMITTED), completedAndFailed⟩ pool
      ∧ pool.move (machine anyExpiry) (.run 1 {}) = some last
      ∧ settlementStatus pool = some .COMPLETED ∧ settlementStatus last = some .FAILED
      ∧ SettlementStateMachine.canTransition .COMPLETED .FAILED = false := by
  have went : ((Pool.schedule (machine anyExpiry)
      ⟨World.start (settlementIn .SUBMITTED), completedAndFailed⟩
      (List.replicate 3 (.run 1 {}) ++ List.replicate 7 (.run 0 {}))).bind fun pool =>
      (pool.move (machine anyExpiry) (.run 1 {})).map fun last =>
        (settlementStatus pool, settlementStatus last))
      = some (some .COMPLETED, some .FAILED) := by
    decide +kernel
  obtain ⟨pool, reached, later⟩ := Option.bind_eq_some_iff.mp went
  obtain ⟨last, moved, statuses⟩ := Option.map_eq_some_iff.mp later
  obtain ⟨before, after⟩ := Prod.mk.inj statuses
  exact ⟨pool, last, .of_schedule reached, moved, before, after, rfl⟩

/-- Whoever has checked a settlement finds it as it was. -/
def findsAsChecked (t : Tid) (before after : World) : Bool :=
  before.trace.all fun event =>
    match event with
    | .transitionChecked u id source =>
        u ≠ t || (before.db.committed.lookup (.settlement id)).all fun old =>
          (after.db.committed.lookup (.settlement id)).all fun new =>
            old.status = new.status || old.status = source
    | _ => true

/-- The evaluated check decides the condition on a step. -/
theorem findsAsChecked_of_check {t : Tid} {before after : World}
    (check : findsAsChecked t before after = true)
    : FindsAsChecked t before after := by
  intro id source old new recorded stored written changed
  have held := List.all_eq_true.mp check _ recorded
  simpa [stored, written, changed] using held

/-- A call that nobody interferes with submits its settlement. -/
theorem settlement_follows_stateMachine_submitted
    : ∃ pool last, Run (machine anyExpiry) FindsAsChecked
        ⟨World.start (settlementIn .SUBMITTING),
          fun _ => (SettlementMove.run "order" (.submitted "hash")).thread⟩ pool
      ∧ pool.move (machine anyExpiry) (.run 0 {}) = some last
      ∧ settlementStatus pool = some .SUBMITTING ∧ settlementStatus last = some .SUBMITTED
      ∧ SettlementStateMachine.canTransition .SUBMITTING .SUBMITTED = true := by
  have went : ((Pool.checkedSchedule (machine anyExpiry) findsAsChecked
      ⟨World.start (settlementIn .SUBMITTING),
        fun _ => (SettlementMove.run "order" (.submitted "hash")).thread⟩
      (List.replicate 3 (.run 0 {}))).bind fun pool =>
      (pool.move (machine anyExpiry) (.run 0 {})).map fun last =>
        (settlementStatus pool, settlementStatus last,
          findsAsChecked 0 pool.state last.state))
      = some (some .SUBMITTING, some .SUBMITTED, true) := by
    decide +kernel
  obtain ⟨pool, reached, later⟩ := Option.bind_eq_some_iff.mp went
  obtain ⟨last, moved, found⟩ := Option.map_eq_some_iff.mp later
  obtain ⟨before, found⟩ := Prod.mk.inj found
  obtain ⟨after, check⟩ := Prod.mk.inj found
  obtain ⟨old, stored, old_status⟩ := Option.map_eq_some_iff.mp before
  obtain ⟨new, written, new_status⟩ := Option.map_eq_some_iff.mp after
  let moves : Tid → Id × SettlementMove := fun _ => ("order", .submitted "hash")
  have run : Run (machine anyExpiry) FindsAsChecked
      ⟨World.start (settlementIn .SUBMITTING), fun t => ((moves t).2.run (moves t).1).thread⟩
      pool :=
    Run.of_checkedSchedule (fun _ _ _ => findsAsChecked_of_check) reached
  refine ⟨pool, last, run, moved, before, after, ?_⟩
  have follows := settlement_follows_stateMachine
    run moved (fun t input same => ?_) stored written
  · rw [← old_status, ← new_status]
    exact follows.1
  · obtain ⟨rfl, _⟩ := Move.run.inj same
    exact findsAsChecked_of_check check

end LuminaRail
