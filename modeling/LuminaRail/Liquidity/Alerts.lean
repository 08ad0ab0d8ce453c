import LuminaRail.Liquidity.Transactions

/-! `TreasuryTelemetryService`: alerts about the available balance of a pool. The state of the alerts
is a map of the process, which the liquidity operations update inside their transactions, after the
pool row is written and before the transaction ends.
-/

namespace LuminaRail

open Concurrency Database LiquidityService

section

variable {α β : Type} (classOf : α → β)

/-- The class of the last value. -/
def currentClass (first : β) (values : List α) : β :=
  values.foldl (fun _ value => classOf value) first

/-- The values whose class differs from the class before, the class before the first being given. -/
def changes [DecidableEq β] : β → List α → List α
  | _, [] => []
  | last, value :: rest =>
      if classOf value = last then changes last rest
      else value :: changes (classOf value) rest

variable {classOf}

/-- The class after one more value is the class of that value. -/
theorem currentClass_append (first : β) (values : List α) (value : α)
    : currentClass classOf first (values ++ [value]) = classOf value := by
  simp [currentClass]

/-- One more value is a change if its class is another one, by induction on the values. -/
theorem changes_append [DecidableEq β] (first : β) (values : List α) (value : α)
    : changes classOf first (values ++ [value]) = changes classOf first values
      ++ if classOf value = currentClass classOf first values then [] else [value] := by
  induction values generalizing first with
  | nil => rfl
  | cons head rest ih =>
      have moved : currentClass classOf first (head :: rest)
          = currentClass classOf (classOf head) rest := rfl
      rw [moved, List.cons_append, changes, changes]
      split
      · rename_i same
        rw [ih, same]
      · rw [ih, List.cons_append]

end

-----------------------------------------------------------------------------------------
-- Evaluating a balance
-----------------------------------------------------------------------------------------

inductive TreasuryAlertState
  | HEALTHY
  | WARNING
  | CRITICAL
deriving DecidableEq

/-- `config.treasury.warnThresholdUsdc` and `config.treasury.criticalThresholdUsdc`. -/
structure TreasuryThresholds where
  warnThreshold : Decimal := ⟨5000, 0⟩
  criticalThreshold : Decimal := ⟨1000, 0⟩

def TreasuryThresholds.stateOf (thresholds : TreasuryThresholds) (pool : LiquidityPool)
    : TreasuryAlertState :=
  let available := (stroops pool.availableBalance).value
  if available ≤ thresholds.criticalThreshold.value then .CRITICAL
  else if available ≤ thresholds.warnThreshold.value then .WARNING
  else .HEALTHY

/-- The action of the audit entry that is written when a pool comes into the state. -/
def TreasuryAlertState.action : TreasuryAlertState → String
  | .CRITICAL => "TREASURY_LOW_BALANCE_CRITICAL"
  | .WARNING => "TREASURY_LOW_BALANCE_WARN"
  | .HEALTHY => "TREASURY_BALANCE_RECOVERED"

/-- An audit entry of the telemetry. -/
structure TreasuryAlert where
  action : String
  poolId : Id
  pool : LiquidityPool
  previousState : TreasuryAlertState
  newState : TreasuryAlertState
deriving DecidableEq

/-- What a liquidity operation does to the balances of a pool. -/
inductive PoolMovement
  | reserve (amount : Int)
  | consume (amount : Int)
  | release (amount : Int)
  | record (type : TreasuryTransactionType) (amount : Int)

/-- The pool as it is written, `none` where the operation throws before that. -/
def PoolMovement.apply (pool : LiquidityPool) : PoolMovement → Option LiquidityPool
  | .reserve amount =>
      if 0 < amount ∧ amount ≤ pool.totalBalance - pool.reservedBalance then
        some (reserved pool amount)
      else none
  | .consume amount => some (consumed pool amount)
  | .release amount => some (released pool amount)
  | .record type amount =>
      if 0 < amount ∧ ¬(type = .SETTLEMENT_PAYOUT ∧ adjustedTotal pool type amount < 0)
          ∧ pool.reservedBalance ≤ adjustedTotal pool type amount then
        some (adjusted pool type amount)
      else none

/-- A liquidity operation that is ready to commit writes a pool only by a movement of the committed
version, whose lock it holds.
-/
theorem Ready.movement {seen : ReservationRelation} {x : TxId} {operation : LiquidityOperation}
    {writes : List (Sigma Row)} {server : Server Row} (ready : Ready seen x operation writes server)
    (nonneg : ∀ poolId pool, Server.HeldAs x (.liquidityPool poolId) (some pool) server
      → 0 ≤ pool.reservedBalance) {poolId : Id} {updated : LiquidityPool}
    (written : (⟨.liquidityPool poolId, updated⟩ : Sigma Row) ∈ writes)
    : ∃ pool movement, Server.HeldAs x (.liquidityPool poolId) (some pool) server
      ∧ PoolMovement.apply pool movement = some updated := by
  cases ready with
  | idle => simp at written
  | @reserve params pool _ expiresAt positive available pool_held new =>
      simp only [List.mem_cons, Sigma.mk.injEq, reduceCtorEq, false_and, Key.liquidityPool.injEq,
        List.not_mem_nil, or_false, false_or] at written
      obtain ⟨rfl, same⟩ := written
      obtain rfl := eq_of_heq same
      exact ⟨pool, .reserve params.amount, pool_held, if_pos ⟨positive, available⟩⟩
  | confirm => simp at written
  | @consume _ id externalRef stellarTxHash read row pool payout _ was_active still pool_held =>
      simp only [List.mem_cons, Sigma.mk.injEq, reduceCtorEq, false_and, Key.liquidityPool.injEq,
        List.not_mem_nil, or_false, false_or] at written
      obtain ⟨rfl, same⟩ := written
      obtain rfl := eq_of_heq same
      exact ⟨pool, .consume read.amount, pool_held, rfl⟩
  | @release orderId targetStatus read row pool _ was_active still pool_held =>
      simp only [List.mem_cons, Sigma.mk.injEq, reduceCtorEq, false_and, Key.liquidityPool.injEq,
        List.not_mem_nil, or_false, false_or] at written
      obtain ⟨rfl, same⟩ := written
      obtain rfl := eq_of_heq same
      exact ⟨pool, .release read.amount, pool_held, rfl⟩
  | @record _ id type amount externalRef stellarTxHash pool entry _ positive enough pool_held =>
      simp only [List.mem_cons, Sigma.mk.injEq, reduceCtorEq, false_and, Key.liquidityPool.injEq,
        List.not_mem_nil, or_false, false_or] at written
      obtain ⟨rfl, same⟩ := written
      obtain rfl := eq_of_heq same
      have reserved_nonneg := nonneg _ _ pool_held
      refine ⟨pool, .record type amount, pool_held, if_pos ⟨positive, fun overdrawn => ?_, enough⟩⟩
      omega

-----------------------------------------------------------------------------------------
-- Runs
-----------------------------------------------------------------------------------------

/-- The pool rows with their locks, and the telemetry of the process. -/
structure Treasury where
  /-- The committed versions. -/
  pools : Id → Option LiquidityPool
  /-- The transaction that has locked the row. -/
  holder : Id → Option Tid := fun _ => none
  /-- The version that a transaction has written. -/
  pending : Tid → Option (Id × LiquidityPool) := fun _ => none
  /-- The version that a caller has in its hands and is about to evaluate. -/
  due : Tid → Option (Id × LiquidityPool) := fun _ => none
  poolStates : Id → Option TreasuryAlertState := fun _ => none
  /-- The audit entries, the oldest first. -/
  alerts : List TreasuryAlert := []
  /-- The versions that were committed, the oldest first. -/
  committed : List (Id × LiquidityPool) := []

namespace Treasury

def alertState (s : Treasury) (poolId : Id) : TreasuryAlertState :=
  (s.poolStates poolId).getD .HEALTHY

def alertsOf (s : Treasury) (poolId : Id) : List LiquidityPool :=
  (s.alerts.filter (·.poolId = poolId)).map (·.pool)

def committedOf (s : Treasury) (poolId : Id) : List LiquidityPool :=
  (s.committed.filter (·.1 = poolId)).map Prod.snd

/-- `TreasuryTelemetryService.evaluatePoolBalance`. -/
def evaluatePoolBalance (thresholds : TreasuryThresholds) (s : Treasury) (poolId : Id)
    (pool : LiquidityPool) : Treasury :=
  let previousState := s.alertState poolId
  let newState := thresholds.stateOf pool
  if previousState ≠ newState then
    { s with
      poolStates := Function.update s.poolStates poolId (some newState)
      alerts := s.alerts ++ [⟨newState.action, poolId, pool, previousState, newState⟩] }
  else s

end Treasury

/-- The pool that `getPool` creates where there is none. -/
def initialPool : LiquidityPool := ⟨100000000000, 0, 100000000000⟩

/-- The steps of `getPool`, which reads or creates a pool, and of the operations, which write a
pool in a transaction. Both evaluate what they have got before they go on.
-/
inductive TreasuryAction
  | read (caller : Tid) (poolId : Id)
  | create (caller : Tid) (poolId : Id)
  | move (caller : Tid) (poolId : Id) (movement : PoolMovement)
  | evaluate (caller : Tid)
  | commit (caller : Tid)
  | rollback (caller : Tid)

namespace Treasury

def idle (s : Treasury) (caller : Tid) : Prop := s.pending caller = none ∧ s.due caller = none

instance (s : Treasury) (caller : Tid) : Decidable (s.idle caller) :=
  inferInstanceAs (Decidable (_ ∧ _))

def step (thresholds : TreasuryThresholds) (s : Treasury) : TreasuryAction → Option Treasury
  | .read caller poolId =>
      match s.pools poolId with
      | some pool =>
          if s.idle caller then
            some { s with due := Function.update s.due caller (some (poolId, pool)) }
          else none
      | none => none
  | .create caller poolId =>
      match s.pools poolId with
      | none =>
          if s.idle caller then
            some { s with
              pools := Function.update s.pools poolId (some initialPool)
              committed := s.committed ++ [(poolId, initialPool)]
              due := Function.update s.due caller (some (poolId, initialPool)) }
          else none
      | some _ => none
  | .move caller poolId movement =>
      match (s.pools poolId).bind fun pool => PoolMovement.apply pool movement with
      | some updated =>
          if s.idle caller ∧ s.holder poolId = none then
            some { s with
              holder := Function.update s.holder poolId (some caller)
              pending := Function.update s.pending caller (some (poolId, updated))
              due := Function.update s.due caller (some (poolId, updated)) }
          else none
      | none => none
  | .evaluate caller =>
      match s.due caller with
      | some (poolId, pool) =>
          some ({ s with due := Function.update s.due caller none }.evaluatePoolBalance thresholds
            poolId pool)
      | none => none
  | .commit caller =>
      match s.pending caller, s.due caller with
      | some (poolId, pool), none =>
          some { s with
            pools := Function.update s.pools poolId (some pool)
            holder := Function.update s.holder poolId none
            pending := Function.update s.pending caller none
            committed := s.committed ++ [(poolId, pool)] }
      | _, _ => none
  | .rollback caller =>
      match s.pending caller with
      | some (poolId, _) =>
          some { s with
            holder := Function.update s.holder poolId none
            pending := Function.update s.pending caller none }
      | none => none

/-- A version that a transaction has evaluated and not yet committed. -/
def Evaluated (s : Treasury) (poolId : Id) (pool : LiquidityPool) : Prop :=
  ∃ caller, s.pending caller = some (poolId, pool) ∧ s.due caller = none

/-- A pool is moved when the state of its committed version is known. A version that is evaluated
outside a transaction is in the same state as the committed one and as one that a transaction has
evaluated. A transaction that is rolled back has not evaluated its version yet, or it is in the
same state as the committed one.
-/
def Undisturbed (thresholds : TreasuryThresholds) (s : Treasury) : TreasuryAction → Prop
  | .move _ poolId _ => ∀ pool, s.pools poolId = some pool
      → s.alertState poolId = thresholds.stateOf pool
  | .evaluate caller => ∀ poolId pool, s.due caller = some (poolId, pool)
      → s.pending caller = none
      → ∀ current, s.pools poolId = some current ∨ s.Evaluated poolId current
      → thresholds.stateOf pool = thresholds.stateOf current
  | .rollback caller => ∀ poolId pool, s.pending caller = some (poolId, pool) → s.due caller = none
      → ∀ current, s.pools poolId = some current
      → thresholds.stateOf pool = thresholds.stateOf current
  | _ => True

/-- The states of a run that starts with some pools and whose steps meet the condition. -/
inductive Reached (thresholds : TreasuryThresholds)
    (condition : Treasury → TreasuryAction → Prop) (pools : Id → Option LiquidityPool)
    : Treasury → Prop
  | start : Reached thresholds condition pools { pools := pools }
  | step {s next : Treasury} {action : TreasuryAction}
    (before : Reached thresholds condition pools s) (met : condition s action)
    (taken : s.step thresholds action = some next) : Reached thresholds condition pools next

-----------------------------------------------------------------------------------------
-- One evaluation
-----------------------------------------------------------------------------------------

section

variable {thresholds : TreasuryThresholds} {s next : Treasury} {poolId other : Id} {caller : Tid}
  {pool : LiquidityPool}

@[simp] theorem evaluatePoolBalance_pools
    : (s.evaluatePoolBalance thresholds poolId pool).pools = s.pools := by
  simp only [evaluatePoolBalance]
  split <;> rfl

@[simp] theorem evaluatePoolBalance_holder
    : (s.evaluatePoolBalance thresholds poolId pool).holder = s.holder := by
  simp only [evaluatePoolBalance]
  split <;> rfl

@[simp] theorem evaluatePoolBalance_pending
    : (s.evaluatePoolBalance thresholds poolId pool).pending = s.pending := by
  simp only [evaluatePoolBalance]
  split <;> rfl

@[simp] theorem evaluatePoolBalance_due
    : (s.evaluatePoolBalance thresholds poolId pool).due = s.due := by
  simp only [evaluatePoolBalance]
  split <;> rfl

@[simp] theorem evaluatePoolBalance_committedOf
    : (s.evaluatePoolBalance thresholds poolId pool).committedOf other = s.committedOf other := by
  simp only [evaluatePoolBalance]
  split <;> rfl

theorem evaluatePoolBalance_alertState
    : (s.evaluatePoolBalance thresholds poolId pool).alertState other
      = if other = poolId then thresholds.stateOf pool else s.alertState other := by
  simp only [evaluatePoolBalance]
  split
  · simp only [alertState, Function.update_apply]
    split <;> rfl
  · rename_i same
    split
    · rename_i equal
      rw [equal, Classical.not_not.mp same]
    · rfl

theorem evaluatePoolBalance_alertsOf
    : (s.evaluatePoolBalance thresholds poolId pool).alertsOf other
      = s.alertsOf other ++ if other = poolId ∧ thresholds.stateOf pool ≠ s.alertState poolId
        then [pool] else [] := by
  simp only [evaluatePoolBalance]
  split
  · rename_i changed
    by_cases same : other = poolId
    · subst same
      simp [alertsOf, Ne.symm changed]
    · simp [alertsOf, same, Ne.symm same]
  · rename_i same
    simp [alertsOf, Classical.not_not.mp same]

/-- The alerts about a pool are the changes along some versions of it. -/
structure Aligned (thresholds : TreasuryThresholds) (s : Treasury) (poolId : Id)
    (versions : List LiquidityPool) : Prop where
  alerts : s.alertsOf poolId = changes thresholds.stateOf .HEALTHY versions
  state : s.alertState poolId = currentClass thresholds.stateOf .HEALTHY versions

/-- A version that is evaluated comes next. -/
theorem Aligned.evaluate {versions : List LiquidityPool}
    (aligned : Aligned thresholds s poolId versions)
    : Aligned thresholds (s.evaluatePoolBalance thresholds poolId pool) poolId
      (versions ++ [pool]) where
  alerts := by
    rw [evaluatePoolBalance_alertsOf, changes_append, aligned.alerts, aligned.state]
    simp only [true_and, ne_eq, ite_not]
  state := by
    rw [evaluatePoolBalance_alertState, if_pos rfl, currentClass_append]

/-- A last version in the state of the one before makes no difference. -/
theorem aligned_append_iff {versions : List LiquidityPool}
    (same : thresholds.stateOf pool = currentClass thresholds.stateOf .HEALTHY versions)
    : Aligned thresholds s poolId (versions ++ [pool]) ↔ Aligned thresholds s poolId versions := by
  have changes_eq : changes thresholds.stateOf .HEALTHY (versions ++ [pool])
      = changes thresholds.stateOf .HEALTHY versions := by
    rw [changes_append, if_pos same, List.append_nil]
  constructor
  · intro aligned
    exact ⟨changes_eq ▸ aligned.alerts, by rw [aligned.state, currentClass_append, same]⟩
  · intro aligned
    exact ⟨changes_eq.symm ▸ aligned.alerts, by rw [aligned.state, currentClass_append, same]⟩

-----------------------------------------------------------------------------------------
-- Undisturbed runs
-----------------------------------------------------------------------------------------

/-- How far the alerts about a pool are. -/
inductive Phase (thresholds : TreasuryThresholds) (s : Treasury) (poolId : Id) : Prop
  | free (holder : s.holder poolId = none)
    (aligned : Aligned thresholds s poolId (s.committedOf poolId))
  | moved (caller : Tid) (pool : LiquidityPool) (holder : s.holder poolId = some caller)
    (pending : s.pending caller = some (poolId, pool)) (due : s.due caller = some (poolId, pool))
    (aligned : Aligned thresholds s poolId (s.committedOf poolId))
  | evaluated (caller : Tid) (pool : LiquidityPool) (holder : s.holder poolId = some caller)
    (pending : s.pending caller = some (poolId, pool)) (due : s.due caller = none)
    (aligned : Aligned thresholds s poolId (s.committedOf poolId ++ [pool]))
  | created (holder : s.holder poolId = none) (committed : s.committedOf poolId = [initialPool])
    (stored : s.pools poolId = some initialPool) (aligned : Aligned thresholds s poolId [])
    (due : ∃ caller, s.due caller = some (poolId, initialPool))
    (only : ∀ caller pool, s.due caller = some (poolId, pool) → pool = initialPool)

/-- The phase of a pool that a step does not concern, except that its row may be read. -/
theorem Phase.congr (phase : Phase thresholds s poolId)
    (holder : next.holder poolId = s.holder poolId)
    (holds : ∀ caller, s.holder poolId = some caller
      → next.pending caller = s.pending caller ∧ next.due caller = s.due caller)
    (committed : next.committedOf poolId = s.committedOf poolId)
    (alerts : next.alertsOf poolId = s.alertsOf poolId)
    (state : next.alertState poolId = s.alertState poolId)
    (pools : next.pools poolId = s.pools poolId)
    (still : ∀ caller pool, s.due caller = some (poolId, pool)
      → ∃ caller', next.due caller' = some (poolId, pool))
    (since : ∀ caller pool, next.due caller = some (poolId, pool)
      → s.due caller = some (poolId, pool) ∨ s.pools poolId = some pool)
    : Phase thresholds next poolId := by
  have keeps {versions : List LiquidityPool} (aligned : Aligned thresholds s poolId versions)
      : Aligned thresholds next poolId versions :=
    ⟨alerts.trans aligned.alerts, state.trans aligned.state⟩
  cases phase with
  | free free aligned => exact .free (holder.trans free) (committed.symm ▸ keeps aligned)
  | moved caller pool held pending due aligned =>
      obtain ⟨pending_eq, due_eq⟩ := holds caller held
      exact .moved caller pool (holder.trans held) (pending_eq.trans pending) (due_eq.trans due)
        (committed.symm ▸ keeps aligned)
  | evaluated caller pool held pending due aligned =>
      obtain ⟨pending_eq, due_eq⟩ := holds caller held
      exact .evaluated caller pool (holder.trans held) (pending_eq.trans pending)
        (due_eq.trans due) (committed.symm ▸ keeps aligned)
  | created free initial stored aligned due only =>
      obtain ⟨caller, due⟩ := due
      refine .created (holder.trans free) (committed.trans initial) (pools.trans stored)
        (keeps aligned) (still caller _ due) fun caller pool given => ?_
      rcases since caller pool given with before | read
      · exact only caller pool before
      · exact Option.some.inj (read.symm.trans stored)

/-- What holds in every state of an undisturbed run. -/
structure Consistent (thresholds : TreasuryThresholds) (s : Treasury) : Prop where
  phase : ∀ poolId, Phase thresholds s poolId
  held : ∀ caller poolId pool, s.pending caller = some (poolId, pool)
    → s.holder poolId = some caller
  awaited : ∀ caller version due, s.pending caller = some version → s.due caller = some due
    → due = version
  current : ∀ poolId pool, s.pools poolId = some pool
    → currentClass thresholds.stateOf .HEALTHY (s.committedOf poolId) = thresholds.stateOf pool
  absent : ∀ poolId, s.pools poolId = none → s.committedOf poolId = []
    ∧ s.alertsOf poolId = [] ∧ s.alertState poolId = .HEALTHY ∧ s.holder poolId = none
    ∧ ∀ caller pool, s.due caller ≠ some (poolId, pool)

/-- The holder of a row is a transaction that has written it. -/
theorem Phase.pending (phase : Phase thresholds s poolId) (holder : s.holder poolId = some caller)
    : ∃ pool, s.pending caller = some (poolId, pool) := by
  cases phase with
  | free free => exact absurd (free.symm.trans holder) (by simp)
  | moved caller pool held pending due aligned =>
      obtain rfl := Option.some.inj (held.symm.trans holder)
      exact ⟨pool, pending⟩
  | evaluated caller pool held pending due aligned =>
      obtain rfl := Option.some.inj (held.symm.trans holder)
      exact ⟨pool, pending⟩
  | created free => exact absurd (free.symm.trans holder) (by simp)

/-- What an idle caller takes into its hands is a version of a committed row. -/
theorem Consistent.takes (consistent : Consistent thresholds s) (idle : s.idle caller)
    (stored : s.pools poolId = some pool)
    : Consistent thresholds
      { s with due := Function.update s.due caller (some (poolId, pool)) } where
  phase other := by
    refine (consistent.phase other).congr rfl (fun holder held => ⟨rfl, ?_⟩) rfl rfl rfl rfl
      (fun holder version given => ⟨holder, ?_⟩) fun holder version given => ?_
    · obtain ⟨version, pending⟩ := (consistent.phase other).pending held
      refine Function.update_of_ne (fun same => ?_) _ _
      exact absurd (pending.symm.trans (same ▸ idle.1)) (by simp)
    · refine (Function.update_of_ne (fun same => ?_) _ _).trans given
      exact absurd (given.symm.trans (same ▸ idle.2)) (by simp)
    · simp only [Function.update_apply] at given
      split at given
      · obtain ⟨rfl, rfl⟩ := Prod.mk.inj (Option.some.inj given)
        exact .inr stored
      · exact .inl given
  held := consistent.held
  awaited holder version due pending given := by
    simp only [Function.update_apply] at given
    split at given
    · rename_i same
      exact absurd (pending.symm.trans (same ▸ idle.1)) (by simp)
    · exact consistent.awaited holder version due pending given
  current := consistent.current
  absent other missing := by
    obtain ⟨committed, alerts, state, holder, due⟩ := consistent.absent other missing
    refine ⟨committed, alerts, state, holder, fun holder version given => ?_⟩
    simp only [Function.update_apply] at given
    split at given
    · obtain ⟨rfl, rfl⟩ := Prod.mk.inj (Option.some.inj given)
      exact absurd (missing.symm.trans stored) (by simp)
    · exact due holder version given

/-- The versions of one pool after some more are committed. -/
theorem committedOf_append {versions : List (Id × LiquidityPool)}
    (appended : next.committed = s.committed ++ versions)
    : next.committedOf other
      = s.committedOf other ++ (versions.filter (·.1 = other)).map Prod.snd := by
  simp [committedOf, appended]

/-- A pool that is created has its evaluation due. -/
theorem Consistent.creates (consistent : Consistent thresholds s) (idle : s.idle caller)
    (missing : s.pools poolId = none)
    : Consistent thresholds { s with
        pools := Function.update s.pools poolId (some initialPool)
        committed := s.committed ++ [(poolId, initialPool)]
        due := Function.update s.due caller (some (poolId, initialPool)) } where
  phase other := by
    by_cases same : other = poolId
    · subst same
      obtain ⟨committed, alerts, state, holder, due⟩ := consistent.absent other missing
      refine .created holder ?_ (Function.update_self ..) ⟨alerts, state⟩
        ⟨caller, Function.update_self ..⟩ fun holder version given => ?_
      · rw [committedOf_append rfl, committed]
        simp
      · simp only [Function.update_apply] at given
        split at given
        · exact (Prod.mk.inj (Option.some.inj given)).2.symm
        · exact absurd given (due holder version)
    · refine (consistent.phase other).congr rfl (fun holder held => ⟨rfl, ?_⟩) ?_ rfl rfl ?_
        (fun holder version given => ⟨holder, ?_⟩) fun holder version given => ?_
      · obtain ⟨version, pending⟩ := (consistent.phase other).pending held
        refine Function.update_of_ne (fun same => ?_) _ _
        exact absurd (pending.symm.trans (same ▸ idle.1)) (by simp)
      · rw [committedOf_append rfl]
        simp [Ne.symm same]
      · exact Function.update_of_ne same _ _
      · refine (Function.update_of_ne (fun same => ?_) _ _).trans given
        exact absurd (given.symm.trans (same ▸ idle.2)) (by simp)
      · simp only [Function.update_apply] at given
        split at given
        · exact absurd (Prod.mk.inj (Option.some.inj given)).1.symm same
        · exact .inl given
  held := consistent.held
  awaited holder version due pending given := by
    simp only [Function.update_apply] at given
    split at given
    · rename_i same
      exact absurd (pending.symm.trans (same ▸ idle.1)) (by simp)
    · exact consistent.awaited holder version due pending given
  current other version stored := by
    by_cases same : other = poolId
    · subst same
      simp only [Function.update_self, Option.some.injEq] at stored
      rw [committedOf_append rfl, ← stored]
      simp [currentClass]
    · rw [committedOf_append rfl]
      simp only [Function.update_of_ne same] at stored
      simpa [Ne.symm same] using consistent.current other version stored
  absent other absent := by
    have same : other ≠ poolId := by
      rintro rfl
      simp at absent
    simp only [Function.update_of_ne same] at absent
    obtain ⟨committed, alerts, state, holder, due⟩ := consistent.absent other absent
    refine ⟨?_, alerts, state, holder, fun holder version given => ?_⟩
    · rw [committedOf_append rfl, committed]
      simp [Ne.symm same]
    · simp only [Function.update_apply] at given
      split at given
      · exact absurd (Prod.mk.inj (Option.some.inj given)).1.symm same
      · exact due holder version given

/-- Before a pool is moved, the alerts have caught up with its committed version. -/
theorem Consistent.moves (consistent : Consistent thresholds s) (idle : s.idle caller)
    (free : s.holder poolId = none) (stored : s.pools poolId = some pool)
    (known : s.alertState poolId = thresholds.stateOf pool) (updated : LiquidityPool)
    : Consistent thresholds { s with
        holder := Function.update s.holder poolId (some caller)
        pending := Function.update s.pending caller (some (poolId, updated))
        due := Function.update s.due caller (some (poolId, updated)) } where
  phase other := by
    by_cases same : other = poolId
    · subst same
      have aligned : Aligned thresholds s other (s.committedOf other) := by
        cases consistent.phase other with
        | free _ aligned => exact aligned
        | moved _ _ holder => exact absurd (free.symm.trans holder) (by simp)
        | evaluated _ _ holder => exact absurd (free.symm.trans holder) (by simp)
        | created _ committed initial aligned =>
            obtain rfl := Option.some.inj (initial.symm.trans stored)
            have healthy : thresholds.stateOf initialPool
                = currentClass thresholds.stateOf .HEALTHY [] :=
              known.symm.trans aligned.state
            rw [committed]
            exact (aligned_append_iff healthy).mpr aligned
      exact .moved caller updated (Function.update_self ..) (Function.update_self ..)
        (Function.update_self ..) ⟨aligned.alerts, aligned.state⟩
    · refine (consistent.phase other).congr (Function.update_of_ne same _ _)
        (fun holder held => ?_) rfl rfl rfl rfl (fun holder version given => ⟨holder, ?_⟩)
        fun holder version given => ?_
      · obtain ⟨version, pending⟩ := (consistent.phase other).pending held
        have different : holder ≠ caller := by
          rintro rfl
          exact absurd (pending.symm.trans idle.1) (by simp)
        exact ⟨Function.update_of_ne different _ _, Function.update_of_ne different _ _⟩
      · refine (Function.update_of_ne (fun same => ?_) _ _).trans given
        exact absurd (given.symm.trans (same ▸ idle.2)) (by simp)
      · simp only [Function.update_apply] at given
        split at given
        · exact absurd (Prod.mk.inj (Option.some.inj given)).1.symm same
        · exact .inl given
  held holder other version pending := by
    simp only [Function.update_apply] at pending ⊢
    split at pending
    · rename_i same
      obtain ⟨rfl, rfl⟩ := Prod.mk.inj (Option.some.inj pending)
      rw [if_pos rfl, same]
    · have held := consistent.held holder other version pending
      rw [if_neg fun same => ?_, held]
      exact absurd (held.symm.trans (same ▸ free)) (by simp)
  awaited holder version due pending given := by
    simp only [Function.update_apply] at pending given
    split at pending
    · rename_i same
      rw [if_pos same] at given
      exact Option.some.inj (given.symm.trans pending)
    · rename_i same
      rw [if_neg same] at given
      exact consistent.awaited holder version due pending given
  current := consistent.current
  absent other missing := by
    have same : other ≠ poolId := by
      rintro rfl
      exact absurd (missing.symm.trans stored) (by simp)
    obtain ⟨committed, alerts, state, holder, due⟩ := consistent.absent other missing
    refine ⟨committed, alerts, state, (Function.update_of_ne same _ _).trans holder,
      fun holder version given => ?_⟩
    simp only [Function.update_apply] at given
    split at given
    · exact absurd (Prod.mk.inj (Option.some.inj given)).1.symm same
    · exact due holder version given

/-- The alerts go ahead with the version that a transaction evaluates, and stay as they are when
anything else is evaluated, except that the alerts about a new pool catch up.
-/
theorem Consistent.evaluates (consistent : Consistent thresholds s)
    (due : s.due caller = some (poolId, pool))
    (undisturbed : s.Undisturbed thresholds (.evaluate caller))
    : Consistent thresholds
      ({ s with due := Function.update s.due caller none }.evaluatePoolBalance thresholds poolId
        pool) := by
  have cleared (version : Id × LiquidityPool) (holder : Tid)
      (given : Function.update s.due caller none holder = some version)
      : s.due holder = some version := by
    simp only [Function.update_apply] at given
    split at given
    · simp at given
    · exact given
  have committed_eq (other : Id) : ({ s with due := Function.update s.due caller none
      }.evaluatePoolBalance thresholds poolId pool).committedOf other = s.committedOf other :=
    evaluatePoolBalance_committedOf
  have still {versions : List LiquidityPool} (aligned : Aligned thresholds s poolId versions)
      : Aligned thresholds { s with due := Function.update s.due caller none } poolId versions :=
    ⟨aligned.alerts, aligned.state⟩
  have outside (free : s.holder poolId ≠ some caller) : s.pending caller = none := by
    by_contra writing
    obtain ⟨⟨_, _⟩, writes⟩ := Option.ne_none_iff_exists'.mp writing
    obtain ⟨rfl, rfl⟩ := Prod.mk.inj (consistent.awaited _ _ _ writes due)
    exact free (consistent.held _ _ _ writes)
  have known (free : s.holder poolId ≠ some caller)
      : thresholds.stateOf pool
        = currentClass thresholds.stateOf .HEALTHY (s.committedOf poolId) := by
    cases stored : s.pools poolId with
    | none => exact absurd due ((consistent.absent poolId stored).2.2.2.2 caller pool)
    | some current =>
        rw [consistent.current poolId current stored]
        exact undisturbed poolId pool due (outside free) current (.inl stored)
  constructor
  case phase =>
    intro other
    by_cases same : other = poolId
    · subst same
      -- a version that is evaluated outside a transaction tells nothing new
      have nothing_new {versions : List LiquidityPool}
          (aligned : Aligned thresholds s other versions)
          (known : thresholds.stateOf pool = currentClass thresholds.stateOf .HEALTHY versions)
          : Aligned thresholds ({ s with due := Function.update s.due caller none
            }.evaluatePoolBalance thresholds other pool) other versions :=
        (aligned_append_iff known).mp (still aligned).evaluate
      cases consistent.phase other with
      | free holder aligned =>
          refine .free (by simpa using holder) ?_
          rw [committed_eq]
          exact nothing_new aligned (known (by simp [holder]))
      | moved holder version held pending awaits aligned =>
          by_cases own : caller = holder
          · subst own
            obtain ⟨_, rfl⟩ := Prod.mk.inj (Option.some.inj (awaits.symm.trans due))
            refine .evaluated caller version (by simpa using held) (by simpa using pending)
              (by simp) ?_
            rw [committed_eq]
            exact (still aligned).evaluate
          · refine .moved holder version (by simpa using held) (by simpa using pending)
              (by simpa [Function.update_of_ne (Ne.symm own)] using awaits) ?_
            rw [committed_eq]
            refine nothing_new aligned (known ?_)
            rw [held]
            exact fun equal => own (Option.some.inj equal).symm
      | evaluated holder version held pending settled aligned =>
          have own : holder ≠ caller := by
            rintro rfl
            exact absurd (settled.symm.trans due) (by simp)
          refine .evaluated holder version (by simpa using held) (by simpa using pending)
            (by simpa [Function.update_of_ne own] using settled) ?_
          rw [committed_eq]
          refine nothing_new aligned ?_
          rw [currentClass_append]
          refine undisturbed other pool due (outside ?_) version (.inr ⟨holder, pending, settled⟩)
          rw [held]
          exact fun equal => own (Option.some.inj equal)
      | created holder committed stored aligned _ only =>
          refine .free (by simpa using holder) ?_
          obtain rfl := only caller pool due
          rw [committed_eq, committed]
          exact (still aligned).evaluate
    · refine (consistent.phase other).congr (by simp) (fun holder held => ⟨by simp, ?_⟩) ?_ ?_ ?_
        (by simp) (fun holder version given => ⟨holder, ?_⟩) fun holder version given => ?_
      · rw [evaluatePoolBalance_due]
        refine Function.update_of_ne (fun equal => ?_) _ _
        obtain ⟨version, pending⟩ := (consistent.phase other).pending held
        exact same (Prod.mk.inj (consistent.awaited _ _ _ (equal ▸ pending) due)).1.symm
      · exact committed_eq other
      · rw [evaluatePoolBalance_alertsOf, if_neg fun both => same both.1, List.append_nil]
        rfl
      · rw [evaluatePoolBalance_alertState, if_neg same]
        rfl
      · rw [evaluatePoolBalance_due]
        refine (Function.update_of_ne (fun equal => ?_) _ _).trans given
        exact same (Prod.mk.inj (Option.some.inj ((equal ▸ given).symm.trans due))).1
      · rw [evaluatePoolBalance_due] at given
        exact .inl (cleared _ _ given)
  case held =>
    intro holder other version pending
    rw [evaluatePoolBalance_pending] at pending
    rw [evaluatePoolBalance_holder]
    exact consistent.held holder other version pending
  case awaited =>
    intro holder version due' pending given
    rw [evaluatePoolBalance_pending] at pending
    rw [evaluatePoolBalance_due] at given
    exact consistent.awaited holder version due' pending (cleared _ _ given)
  case current =>
    intro other version stored
    rw [evaluatePoolBalance_pools] at stored
    rw [committed_eq]
    exact consistent.current other version stored
  case absent =>
    intro other missing
    rw [evaluatePoolBalance_pools] at missing
    obtain ⟨committed, alerts, state, holder, due'⟩ := consistent.absent other missing
    have different : other ≠ poolId := by
      rintro rfl
      exact due' caller pool due
    refine ⟨?_, ?_, ?_, ?_, fun holder version given => ?_⟩
    · exact (committed_eq other).trans committed
    · rw [evaluatePoolBalance_alertsOf, if_neg fun both => different both.1, List.append_nil]
      exact alerts
    · rw [evaluatePoolBalance_alertState, if_neg different]
      exact state
    · rw [evaluatePoolBalance_holder]
      exact holder
    · rw [evaluatePoolBalance_due] at given
      exact due' holder version (cleared _ _ given)

/-- The writer of one pool holds the lock of no other. -/
theorem Consistent.only_lock (consistent : Consistent thresholds s)
    (pending : s.pending caller = some (poolId, pool)) (different : other ≠ poolId) {holder : Tid}
    (held : s.holder other = some holder)
    : holder ≠ caller := by
  rintro rfl
  obtain ⟨version, writes⟩ := (consistent.phase other).pending held
  exact different (Prod.mk.inj (Option.some.inj (writes.symm.trans pending))).1

/-- A transaction ends: its lock is gone, and its version is committed or not. -/
theorem Consistent.ends (consistent : Consistent thresholds s)
    (pending : s.pending caller = some (poolId, pool))
    (holder : next.holder = Function.update s.holder poolId none)
    (writes : next.pending = Function.update s.pending caller none) (due : next.due = s.due)
    (others : ∀ other, other ≠ poolId → next.pools other = s.pools other
      ∧ next.committedOf other = s.committedOf other)
    (alerts : next.alerts = s.alerts) (states : next.poolStates = s.poolStates)
    (aligned : Aligned thresholds next poolId (next.committedOf poolId))
    (current : ∀ version, next.pools poolId = some version
      → currentClass thresholds.stateOf .HEALTHY (next.committedOf poolId)
        = thresholds.stateOf version)
    (present : next.pools poolId ≠ none)
    : Consistent thresholds next where
  phase other := by
    by_cases same : other = poolId
    · subst same
      exact .free (by simp [holder]) aligned
    · refine (consistent.phase other).congr (by simp [holder, same]) (fun holder held => ?_)
        (others other same).2 (by simp [alertsOf, alerts]) (by simp [alertState, states])
        (others other same).1 (fun holder version given => ⟨holder, due ▸ given⟩)
        fun holder version given => .inl (due ▸ given)
      have different := consistent.only_lock pending same held
      exact ⟨by simp [writes, different], by rw [due]⟩
  held writer other version given := by
    rw [writes, Function.update_apply] at given
    split at given
    · simp at given
    · rename_i different
      have held := consistent.held writer other version given
      rw [holder, Function.update_of_ne (fun same => ?_), held]
      subst same
      exact different (Option.some.inj (held.symm.trans (consistent.held _ _ _ pending)))
  awaited writer version due' given awaits := by
    rw [writes, Function.update_apply] at given
    split at given
    · simp at given
    · exact consistent.awaited writer version due' given (due ▸ awaits)
  current other version stored := by
    by_cases same : other = poolId
    · subst same
      exact current version stored
    · obtain ⟨pools, committed⟩ := others other same
      rw [committed]
      exact consistent.current other version (pools.symm.trans stored)
  absent other missing := by
    have different : other ≠ poolId := by
      rintro rfl
      exact present missing
    obtain ⟨pools, committed⟩ := others other different
    obtain ⟨committed', alerts', state, free, due'⟩ :=
      consistent.absent other (pools.symm.trans missing)
    refine ⟨committed.trans committed', ?_, ?_, ?_, fun writer version given => ?_⟩
    · simpa [alertsOf, alerts] using alerts'
    · simpa [alertState, states] using state
    · simpa [holder, different] using free
    · exact due' writer version (due ▸ given)

/-- A commit makes the evaluation of its version due. -/
theorem Consistent.commits (consistent : Consistent thresholds s)
    (pending : s.pending caller = some (poolId, pool)) (due : s.due caller = none)
    : Consistent thresholds { s with
        pools := Function.update s.pools poolId (some pool)
        holder := Function.update s.holder poolId none
        pending := Function.update s.pending caller none
        committed := s.committed ++ [(poolId, pool)] } := by
  have held := consistent.held _ _ _ pending
  have aligned : Aligned thresholds s poolId (s.committedOf poolId ++ [pool]) := by
    cases consistent.phase poolId with
    | free free => exact absurd (free.symm.trans held) (by simp)
    | moved writer version holder _ awaits =>
        obtain rfl := Option.some.inj (holder.symm.trans held)
        exact absurd (due.symm.trans awaits) (by simp)
    | evaluated writer version holder writes _ aligned =>
        obtain rfl := Option.some.inj (holder.symm.trans held)
        obtain ⟨_, rfl⟩ := Prod.mk.inj (Option.some.inj (writes.symm.trans pending))
        exact aligned
    | created free => exact absurd (free.symm.trans held) (by simp)
  have committed : { s with
      pools := Function.update s.pools poolId (some pool)
      holder := Function.update s.holder poolId none
      pending := Function.update s.pending caller none
      committed := s.committed ++ [(poolId, pool)] }.committedOf poolId
      = s.committedOf poolId ++ [pool] := by
    rw [committedOf_append rfl]
    simp
  refine consistent.ends pending rfl rfl rfl (fun other different => ⟨?_, ?_⟩) rfl rfl ?_
    (fun version stored => ?_) (by simp)
  · exact Function.update_of_ne different _ _
  · rw [committedOf_append rfl]
    simp [Ne.symm different]
  · rw [committed]
    exact ⟨aligned.alerts, aligned.state⟩
  · simp only [Function.update_self, Option.some.injEq] at stored
    rw [committed, currentClass_append, stored]

/-- A rollback makes the evaluation due that its caller still has to do. -/
theorem Consistent.rolls_back (consistent : Consistent thresholds s)
    (pending : s.pending caller = some (poolId, pool))
    (undisturbed : s.Undisturbed thresholds (.rollback caller))
    : Consistent thresholds { s with
        holder := Function.update s.holder poolId none
        pending := Function.update s.pending caller none } := by
  have held := consistent.held _ _ _ pending
  obtain ⟨current, stored⟩ : ∃ current, s.pools poolId = some current := by
    refine Option.ne_none_iff_exists'.mp fun missing => ?_
    exact absurd (((consistent.absent poolId missing).2.2.2.1).symm.trans held) (by simp)
  have aligned : Aligned thresholds s poolId (s.committedOf poolId) := by
    cases consistent.phase poolId with
    | free free => exact absurd (free.symm.trans held) (by simp)
    | moved writer version holder _ awaits aligned => exact aligned
    | evaluated writer version holder writes due aligned =>
        obtain rfl := Option.some.inj (holder.symm.trans held)
        obtain ⟨_, rfl⟩ := Prod.mk.inj (Option.some.inj (writes.symm.trans pending))
        refine (aligned_append_iff ?_).mp aligned
        rw [consistent.current poolId current stored]
        exact undisturbed poolId version pending due current stored
    | created free => exact absurd (free.symm.trans held) (by simp)
  refine consistent.ends pending rfl rfl rfl (fun other _ => ⟨rfl, rfl⟩) rfl rfl
    ⟨aligned.alerts, aligned.state⟩ (fun version stored' => ?_) ?_
  · exact consistent.current poolId version stored'
  · show s.pools poolId ≠ none
    simp [stored]

/-- An undisturbed step keeps the alerts about every pool in line with its versions. -/
theorem Consistent.step {action : TreasuryAction} (consistent : Consistent thresholds s)
    (undisturbed : s.Undisturbed thresholds action) (taken : s.step thresholds action = some next)
    : Consistent thresholds next := by
  cases action with
  | read caller poolId =>
      simp only [Treasury.step] at taken
      split at taken
      · rename_i pool stored
        obtain ⟨idle, same⟩ := Option.ite_none_right_eq_some.mp taken
        obtain rfl := Option.some.inj same
        exact consistent.takes idle stored
      · simp at taken
  | create caller poolId =>
      simp only [Treasury.step] at taken
      split at taken
      · rename_i missing
        obtain ⟨idle, same⟩ := Option.ite_none_right_eq_some.mp taken
        obtain rfl := Option.some.inj same
        exact consistent.creates idle missing
      · simp at taken
  | move caller poolId movement =>
      simp only [Treasury.step] at taken
      split at taken
      · rename_i updated moved
        obtain ⟨pool, stored, _⟩ := Option.bind_eq_some_iff.mp moved
        obtain ⟨⟨idle, free⟩, same⟩ := Option.ite_none_right_eq_some.mp taken
        obtain rfl := Option.some.inj same
        exact consistent.moves idle free stored (undisturbed pool stored) updated
      · simp at taken
  | evaluate caller =>
      simp only [Treasury.step] at taken
      split at taken
      · rename_i poolId pool due
        obtain rfl := Option.some.inj taken
        exact consistent.evaluates due undisturbed
      · simp at taken
  | commit caller =>
      simp only [Treasury.step] at taken
      split at taken
      · rename_i poolId pool pending due
        obtain rfl := Option.some.inj taken
        exact consistent.commits pending due
      · simp at taken
  | rollback caller =>
      simp only [Treasury.step] at taken
      split at taken
      · rename_i poolId pool pending
        obtain rfl := Option.some.inj taken
        exact consistent.rolls_back pending undisturbed
      · simp at taken

/-- A run starts with healthy pools and no alerts. -/
theorem Consistent.start {pools : Id → Option LiquidityPool}
    (healthy : ∀ poolId pool, pools poolId = some pool → thresholds.stateOf pool = .HEALTHY)
    : Consistent thresholds { pools := pools } where
  phase _ := .free rfl ⟨rfl, rfl⟩
  held _ _ _ pending := by simp at pending
  awaited _ _ _ pending := by simp at pending
  current poolId pool stored := (healthy poolId pool stored).symm
  absent _ _ := ⟨rfl, rfl, rfl, rfl, fun _ _ => by simp⟩

/-- Every run keeps the invariant, by induction on the run. -/
theorem Reached.consistent {pools : Id → Option LiquidityPool}
    (healthy : ∀ poolId pool, pools poolId = some pool → thresholds.stateOf pool = .HEALTHY)
    (reached : Reached thresholds (Undisturbed thresholds) pools s)
    : Consistent thresholds s := by
  induction reached with
  | start => exact .start healthy
  | step before met taken consistent => exact consistent.step met taken

/-- Every alert is about the change of state that it names. -/
theorem Reached.alert_named {condition : Treasury → TreasuryAction → Prop}
    {pools : Id → Option LiquidityPool} (reached : Reached thresholds condition pools s)
    : ∀ alert ∈ s.alerts, alert.newState = thresholds.stateOf alert.pool
      ∧ alert.previousState ≠ alert.newState ∧ alert.action = alert.newState.action := by
  induction reached with
  | start => simp
  | @step s next action before met taken named =>
      cases action with
      | evaluate caller =>
          simp only [Treasury.step] at taken
          split at taken
          · obtain rfl := Option.some.inj taken
            simp only [evaluatePoolBalance]
            split
            · rename_i changed
              intro alert member
              rcases List.mem_append.mp member with before | new
              · exact named alert before
              · obtain rfl := List.mem_singleton.mp new
                exact ⟨rfl, changed, rfl⟩
            · exact named
          · simp at taken
      | _ =>
          have same : next.alerts = s.alerts := by
            simp only [Treasury.step] at taken
            split at taken <;> grind
          exact same ▸ named

/-- In an undisturbed run the alerts about a pool that no operation is about are the changes of
the state of its committed balance. By the invariant on the phases of a pool, in the phase in
which nobody holds it.
-/
theorem alerts_follow_commits {pools : Id → Option LiquidityPool}
    (healthy : ∀ poolId pool, pools poolId = some pool → thresholds.stateOf pool = .HEALTHY)
    (reached : Reached thresholds (Undisturbed thresholds) pools s)
    (unlocked : s.holder poolId = none)
    (evaluated : ∀ caller pool, s.due caller ≠ some (poolId, pool))
    : s.alertsOf poolId = changes thresholds.stateOf .HEALTHY (s.committedOf poolId)
      ∧ ∀ alert ∈ s.alerts, alert.newState = thresholds.stateOf alert.pool
        ∧ alert.previousState ≠ alert.newState ∧ alert.action = alert.newState.action := by
  refine ⟨?_, reached.alert_named⟩
  cases (reached.consistent healthy).phase poolId with
  | free _ aligned => exact aligned.alerts
  | moved _ _ holder => exact absurd (unlocked.symm.trans holder) (by simp)
  | evaluated _ _ holder => exact absurd (unlocked.symm.trans holder) (by simp)
  | created _ _ _ _ due =>
      obtain ⟨caller, due⟩ := due
      exact absurd due (evaluated caller initialPool)

end

-----------------------------------------------------------------------------------------
-- One pool
-----------------------------------------------------------------------------------------

/-- A pool of 6000 USDC. -/
def onlyPool (poolId : Id) : Option LiquidityPool :=
  if poolId = "pool" then some ⟨60000000000, 0, 60000000000⟩ else none

/-- Witness: the pool of the run starts HEALTHY. -/
theorem onlyPool_healthy (poolId : Id) (pool : LiquidityPool) (stored : onlyPool poolId = some pool)
    : TreasuryThresholds.stateOf {} pool = .HEALTHY := by
  unfold onlyPool at stored
  split at stored
  · obtain rfl := Option.some.inj stored
    decide +kernel
  · simp at stored

/-- Witness: a reservation whose evaluation has ended. -/
theorem alerts_follow_commits_reserved
    : ∃ s, Reached {} (Undisturbed {}) onlyPool s ∧ s.committed ≠ []
      ∧ s.alertsOf "pool" = changes (TreasuryThresholds.stateOf {}) .HEALTHY
        (s.committedOf "pool") := by
  have moved : Reached {} (Undisturbed {}) onlyPool _ :=
    @Reached.step _ _ _ _ _ (.move 0 "pool" (.reserve 20000000000)) .start
      (fun pool stored => (onlyPool_healthy "pool" pool stored).symm) rfl
  have evaluated : Reached {} (Undisturbed {}) onlyPool _ :=
    @Reached.step _ _ _ _ _ (.evaluate 0) moved (fun _ _ _ outside => by simp at outside) rfl
  have committed : Reached {} (Undisturbed {}) onlyPool _ :=
    @Reached.step _ _ _ _ _ (.commit 0) evaluated trivial (by simp [Treasury.step]; rfl)
  refine ⟨_, committed, by simp, (alerts_follow_commits onlyPool_healthy committed ?_ ?_).1⟩
  · simp
  · intro caller pool
    simp

/-- A reservation that is rolled back leaves an alert about a balance that was never committed. -/
theorem alert_of_rolled_back
    : ∃ s, Reached {} (fun _ _ => True) onlyPool s ∧ s.holder "pool" = none
      ∧ (∀ caller pool, s.due caller ≠ some ("pool", pool)) ∧ s.committed = []
      ∧ s.alerts.map TreasuryAlert.action = ["TREASURY_LOW_BALANCE_WARN"]
      ∧ s.alertsOf "pool" ≠ changes (TreasuryThresholds.stateOf {}) .HEALTHY
        (s.committedOf "pool") := by
  have moved : Reached {} (fun _ _ => True) onlyPool _ :=
    @Reached.step _ _ _ _ _ (.move 0 "pool" (.reserve 20000000000)) .start trivial rfl
  have evaluated : Reached {} (fun _ _ => True) onlyPool _ :=
    @Reached.step _ _ _ _ _ (.evaluate 0) moved trivial rfl
  have rolled_back : Reached {} (fun _ _ => True) onlyPool _ :=
    @Reached.step _ _ _ _ _ (.rollback 0) evaluated trivial (by simp [Treasury.step]; rfl)
  refine ⟨_, rolled_back, by simp, fun caller pool => by simp, ?_, ?_, ?_⟩
  · decide +kernel
  · decide +kernel
  · decide +kernel

end Treasury

end LuminaRail
