import Mathlib.Data.List.Basic
import Mathlib.Logic.Function.Basic
import Mathlib.Tactic.Common

/-! The process of the background worker: its sweeps, the graceful shutdown that waits for them, and
the liveness endpoint that watches them. Everything between two awaits is one action; the awaited
functions are left to the environment. Times are in milliseconds.
-/

namespace LuminaRail

-----------------------------------------------------------------------------------------
-- Telemetry
-----------------------------------------------------------------------------------------

/-- The daemons in the order of a sweep. -/
inductive SweepType
  | settlement
  | reservationCleanup
  | paymentReconciliation
  | reconciliation
deriving DecidableEq

namespace SweepType

def all : List SweepType :=
  [.settlement, .reservationCleanup, .paymentReconciliation, .reconciliation]

/-- The message for what is thrown and is no `Error`. -/
def fallback : SweepType → String
  | .settlement => "Settlement sweep error"
  | .reservationCleanup => "Reservation cleanup sweep error"
  | .paymentReconciliation => "Payment reconciliation sweep error"
  | .reconciliation => "Reconciliation sweep error"

end SweepType

/-- How many items a daemon has processed, or the message of the `Error` that it has thrown. -/
inductive SweepOutcome
  | processed (count : Nat)
  | thrown (message : Option String)
deriving DecidableEq

structure WorkerSweepHeartbeat where
  lastSweepAt : Nat
  lastSweepCount : Nat
deriving DecidableEq

inductive WorkerLivenessState
  | NOT_STARTED
  | RUNNING
  | STOPPED
deriving DecidableEq

inductive WorkerHealthState
  | HEALTHY
  | STALLED
  | NOT_STARTED
  | STOPPED
deriving DecidableEq

structure WorkerHealthSnapshot where
  state : WorkerHealthState
  timestamp : Nat
  uptimeSeconds : Nat
  pid : Nat
  lifecycle : WorkerLivenessState × Option Nat × Option Nat
  hasCompletedSweep : Bool
  sweeps : SweepType → Option WorkerSweepHeartbeat
  activeJobs : Nat
  lockAcquisitionFailures : Nat
  stallReason : Option String := none

/-- The memory of `WorkerHealthTelemetryService`. -/
structure WorkerHealthTelemetry where
  lifecycleState : WorkerLivenessState := .NOT_STARTED
  startedAt : Option Nat := none
  stoppedAt : Option Nat := none
  processStartedAtMs : Nat := 0
  sweepHeartbeats : SweepType → Option WorkerSweepHeartbeat := fun _ => none
  activeJobsCount : Nat := 0
  lockAcquisitionFailuresCount : Nat := 0

namespace WorkerHealthTelemetry

def markStarted (health : WorkerHealthTelemetry) (now : Nat) : WorkerHealthTelemetry :=
  { health with
    lifecycleState := .RUNNING, startedAt := some now, stoppedAt := none
    processStartedAtMs := now }

def markStopped (health : WorkerHealthTelemetry) (now : Nat) : WorkerHealthTelemetry :=
  { health with lifecycleState := .STOPPED, stoppedAt := some now }

def recordSweep (health : WorkerHealthTelemetry) (sweepType : SweepType)
    (heartbeat : WorkerSweepHeartbeat) : WorkerHealthTelemetry :=
  { health with
    sweepHeartbeats := Function.update health.sweepHeartbeats sweepType (some heartbeat) }

def incrementActiveJobs (health : WorkerHealthTelemetry) : WorkerHealthTelemetry :=
  { health with activeJobsCount := health.activeJobsCount + 1 }

def decrementActiveJobs (health : WorkerHealthTelemetry) : WorkerHealthTelemetry :=
  if health.activeJobsCount > 0 then
    { health with activeJobsCount := health.activeJobsCount - 1 }
  else health

def recordLockAcquisitionFailure (health : WorkerHealthTelemetry) : WorkerHealthTelemetry :=
  { health with lockAcquisitionFailuresCount := health.lockAcquisitionFailuresCount + 1 }

def hasFreshSweep (health : WorkerHealthTelemetry) (now : Nat) (maxSweepAgeMs : Int) : Bool :=
  SweepType.all.any fun sweepType => (health.sweepHeartbeats sweepType).any fun heartbeat =>
    (now : Int) - heartbeat.lastSweepAt ≤ maxSweepAgeMs

def getHealthSnapshot (health : WorkerHealthTelemetry) (now pid : Nat) (maxSweepAgeMs : Int)
    : WorkerHealthSnapshot :=
  let snapshot : WorkerHealthSnapshot :=
    { state := .NOT_STARTED
      timestamp := now
      uptimeSeconds := (now - health.processStartedAtMs) / 1000
      pid := pid
      lifecycle := (health.lifecycleState, health.startedAt, health.stoppedAt)
      hasCompletedSweep := SweepType.all.any fun sweepType =>
        (health.sweepHeartbeats sweepType).isSome
      sweeps := health.sweepHeartbeats
      activeJobs := health.activeJobsCount
      lockAcquisitionFailures := health.lockAcquisitionFailuresCount }
  match health.lifecycleState with
  | .RUNNING =>
      if health.hasFreshSweep now maxSweepAgeMs then
        { snapshot with state := .HEALTHY }
      else
        { snapshot with
          state := .STALLED
          stallReason := some s!"No fresh sweep heartbeat within the last {maxSweepAgeMs}ms." }
  | .STOPPED => { snapshot with state := .STOPPED }
  | .NOT_STARTED => snapshot

end WorkerHealthTelemetry

/-- What `WorkerLivenessServer` answers with. -/
inductive LivenessReply
  | notFound
  | health (statusCode : Nat) (snapshot : WorkerHealthSnapshot)

def LivenessReply.statusCode : LivenessReply → Nat
  | .notFound => 404
  | .health statusCode _ => statusCode

/-- The request handler of `WorkerLivenessServer`, whose path is `/health`. -/
def livenessReply (health : WorkerHealthTelemetry) (now pid : Nat) (maxSweepAgeMs : Int)
    (method : String) (url : Option String) : LivenessReply :=
  let path := (url.getD "").toList.takeWhile (· ≠ '?')
  if method ≠ "GET" ∨ path ≠ "/health".toList then
    .notFound
  else
    let snapshot := health.getHealthSnapshot now pid maxSweepAgeMs
    .health (if snapshot.state = .HEALTHY then 200 else 503) snapshot

structure WorkerRunnerOptions where
  intervalMs : Option Nat := none
  runOnce : Bool := false
  livenessEnabled : Option Bool := none

/-- What a runner waits for. A sweep keeps its errors, and here also what each daemon came to. -/
inductive RunnerPhase
  | idle
  | listening (runOnce : Bool)
  | announcing (runOnce : Bool)
  | sweeping (runOnce : Bool) (outcomes : List (SweepType × SweepOutcome)) (errors : List String)
    (remaining : List SweepType)
  | reporting (error : String)
  | sleeping (wakeAt : Nat)
  | ended (error : Option String)
deriving DecidableEq

structure LuminaRailWorkerRunner where
  isRunning : Bool := false
  intervalMs : Nat := 5000
  livenessServer : Bool := false
  phase : RunnerPhase := .idle
deriving DecidableEq

def RunnerPhase.isSweeping : RunnerPhase → Bool
  | .sweeping _ _ _ _ => true
  | _ => false

-----------------------------------------------------------------------------------------
-- Shutdown
-----------------------------------------------------------------------------------------

/-- The memory of `ShutdownManager`. -/
structure ShutdownManager where
  registered : Bool := false
  activeJobsCount : Nat := 0
  shuttingDown : Bool := false

namespace ShutdownManager

def registerShutdownHandlers (manager : ShutdownManager) : ShutdownManager :=
  { manager with registered := true }

def incrementActiveJobs (manager : ShutdownManager) : ShutdownManager :=
  { manager with activeJobsCount := manager.activeJobsCount + 1 }

def decrementActiveJobs (manager : ShutdownManager) : ShutdownManager :=
  if manager.activeJobsCount > 0 then
    { manager with activeJobsCount := manager.activeJobsCount - 1 }
  else manager

end ShutdownManager

/-- What `handleSignal` waits for. -/
inductive HandlerPhase
  | waiting (wakeAt : Nat)
  | closing
deriving DecidableEq

/-- A call of `handleSignal`. -/
structure SignalHandler where
  signalledAt : Nat
  waitAttempts : Nat := 0
  phase : HandlerPhase := .closing
deriving DecidableEq

/-- The head of the loop of `handleSignal`. -/
def SignalHandler.await (handler : SignalHandler) (activeJobsCount now : Nat) : SignalHandler :=
  if activeJobsCount > 0 ∧ handler.waitAttempts < 20 then
    { handler with phase := .waiting (now + 250) }
  else
    { handler with phase := .closing }

/-- How the process ends: after a graceful shutdown, because the connections could not be closed,
because the shutdown took too long, or by a signal that nobody handles.
-/
inductive ProcessExit
  | graceful
  | closingFailed
  | shutdownTimeout
  | unhandled
deriving DecidableEq

-----------------------------------------------------------------------------------------
-- The process
-----------------------------------------------------------------------------------------

/-- The worker process, with what has happened in it, the oldest first. -/
structure WorkerProcess where
  now : Nat := 0
  shutdown : ShutdownManager := {}
  health : WorkerHealthTelemetry := {}
  runners : List LuminaRailWorkerRunner
  handlers : List SignalHandler := []
  exit : Option ProcessExit := none
  /-- How many sweeps have begun. -/
  begun : Nat := 0
  /-- The sweeps that have ended, each with its runner. -/
  sweeps : List (Nat × List (SweepType × SweepOutcome)) := []
  /-- The calls of `AuditService.log` for WORKER_LOOP_ERROR, and whether the write succeeded. -/
  logged : List (Nat × String × Bool) := []
  /-- The entries WORKER_LOOP_ERROR of the audit log. -/
  audits : List (Nat × String) := []
  /-- The heartbeats that have been recorded. -/
  heartbeats : List (SweepType × WorkerSweepHeartbeat) := []
  /-- When signals have come. -/
  signals : List Nat := []

/-- What the process does next, and what its awaits come to. -/
inductive WorkerAction
  | elapse (milliseconds : Nat)
  | start (runner : Nat) (options : WorkerRunnerOptions)
  | listened (runner : Nat) (bound : Bool)
  | announced (runner : Nat)
  | swept (runner : Nat) (outcome : SweepOutcome)
  | reported (runner : Nat) (taken : Bool)
  | woken (runner : Nat)
  | stop (runner : Nat)
  | lockFailed
  | signal
  | waited (handler : Nat)
  | closed (handler : Nat) (cleanly : Bool)
  | timedOut (handler : Nat)

namespace WorkerProcess

def put (s : WorkerProcess) (i : Nat) (runner : LuminaRailWorkerRunner) : WorkerProcess :=
  { s with runners := s.runners.set i runner }

/-- `AuditService.log` of a failed sweep, which passes no error on if the write fails. -/
def logLoopError (s : WorkerProcess) (i : Nat) (error : String) (taken : Bool) : WorkerProcess :=
  { s with
    logged := s.logged ++ [(i, error, taken)]
    audits := if taken then s.audits ++ [(i, error)] else s.audits }

/-- `start` up to its first await, once the configuration has been found safe. -/
def startRunner (livenessByDefault : Bool) (s : WorkerProcess) (i : Nat)
    (runner : LuminaRailWorkerRunner) (options : WorkerRunnerOptions) : WorkerProcess :=
  let runner :=
    { runner with intervalMs := (options.intervalMs.filter (· > 0)).getD runner.intervalMs }
  let s := { s with
    shutdown := s.shutdown.registerShutdownHandlers
    health := s.health.markStarted s.now }
  if options.livenessEnabled.getD livenessByDefault then
    s.put i { runner with phase := .listening options.runOnce }
  else
    s.put i { runner with isRunning := true, phase := .announcing options.runOnce }

/-- `runSweep` up to its first await. -/
def beginSweep (s : WorkerProcess) (i : Nat) (runner : LuminaRailWorkerRunner) (runOnce : Bool)
    : WorkerProcess :=
  { s with
    shutdown := s.shutdown.incrementActiveJobs
    health := s.health.incrementActiveJobs
    begun := s.begun + 1 }.put i { runner with phase := .sweeping runOnce [] [] SweepType.all }

/-- The head of the loop of `runLoop`, and the first lines of `runSweep`. -/
def enterLoop (s : WorkerProcess) (i : Nat) (runner : LuminaRailWorkerRunner) : WorkerProcess :=
  if runner.isRunning = true ∧ s.shutdown.shuttingDown = false then
    s.beginSweep i runner false
  else
    s.put i { runner with phase := .ended none }

/-- The end of the body of that loop. -/
def leaveSweep (s : WorkerProcess) (i : Nat) (runner : LuminaRailWorkerRunner) : WorkerProcess :=
  if runner.isRunning = false ∨ s.shutdown.shuttingDown = true then
    s.put i { runner with phase := .ended none }
  else
    s.put i { runner with phase := .sleeping (s.now + runner.intervalMs) }

/-- The last part of `start`. -/
def runAnnounced (s : WorkerProcess) (i : Nat) (runner : LuminaRailWorkerRunner) (runOnce : Bool)
    : WorkerProcess :=
  if runOnce = true then
    if s.shutdown.shuttingDown = true then
      s.put i { runner with isRunning := false, phase := .ended none }
    else
      s.beginSweep i runner true
  else
    s.enterLoop i runner

/-- What is recorded of the outcome of a daemon. -/
def record (s : WorkerProcess) (sweepType : SweepType) : SweepOutcome → WorkerProcess
  | .processed count =>
      let heartbeat : WorkerSweepHeartbeat := ⟨s.now, count⟩
      { s with
        health := s.health.recordSweep sweepType heartbeat
        heartbeats := s.heartbeats ++ [(sweepType, heartbeat)] }
  | .thrown _ => s

/-- The end of `runSweep`, and what follows it. -/
def endSweep (s : WorkerProcess) (i : Nat) (runner : LuminaRailWorkerRunner) (runOnce : Bool)
    (outcomes : List (SweepType × SweepOutcome)) (errors : List String) : WorkerProcess :=
  let s := { s with
    health := s.health.decrementActiveJobs
    shutdown := s.shutdown.decrementActiveJobs
    sweeps := s.sweeps ++ [(i, outcomes)] }
  if errors ≠ [] then
    let error := "; ".intercalate errors
    s.put i { runner with phase := if runOnce then .ended (some error) else .reporting error }
  else if runOnce then
    s.put i { runner with isRunning := false, phase := .ended none }
  else
    s.leaveSweep i runner

/-- The errors of a sweep after the outcome of a daemon. -/
def errorsAfter (errors : List String) (sweepType : SweepType) : SweepOutcome → List String
  | .processed _ => errors
  | .thrown message => errors ++ [message.getD sweepType.fallback]

def stopRunner (s : WorkerProcess) (i : Nat) (runner : LuminaRailWorkerRunner) : WorkerProcess :=
  { s with health := s.health.markStopped s.now }.put i
    { runner with isRunning := false, livenessServer := false }

/-- `handleSignal` up to its first await, if it has been registered. -/
def handleSignal (s : WorkerProcess) : WorkerProcess :=
  if s.shutdown.registered = true then
    let handler : SignalHandler := { signalledAt := s.now }
    { s with
      shutdown := { s.shutdown with shuttingDown := true }
      signals := s.signals ++ [s.now]
      handlers := s.handlers ++ [handler.await s.shutdown.activeJobsCount s.now] }
  else
    { s with exit := some .unhandled }

/-- An action of a runner. -/
def runnerStep (livenessByDefault : Bool) (s : WorkerProcess) (i : Nat)
    (runner : LuminaRailWorkerRunner) : WorkerAction → Option WorkerProcess
  | .start _ options =>
      if runner.phase = .idle then some (s.startRunner livenessByDefault i runner options) else none
  | .listened _ bound =>
      match runner.phase with
      | .listening runOnce => some (s.put i
          { runner with
            livenessServer := bound, isRunning := true, phase := .announcing runOnce })
      | _ => none
  | .announced _ =>
      match runner.phase with
      | .announcing runOnce => some (s.runAnnounced i runner runOnce)
      | _ => none
  | .swept _ outcome =>
      match runner.phase with
      | .sweeping runOnce outcomes errors (sweepType :: remaining) =>
          let s := s.record sweepType outcome
          let outcomes := outcomes ++ [(sweepType, outcome)]
          let errors := errorsAfter errors sweepType outcome
          if remaining = [] then
            some (s.endSweep i runner runOnce outcomes errors)
          else
            some (s.put i { runner with phase := .sweeping runOnce outcomes errors remaining })
      | _ => none
  | .reported _ taken =>
      match runner.phase with
      | .reporting error => some ((s.logLoopError i error taken).leaveSweep i runner)
      | _ => none
  | .woken _ =>
      match runner.phase with
      | .sleeping wakeAt => if wakeAt ≤ s.now then some (s.enterLoop i runner) else none
      | _ => none
  | .stop _ => some (s.stopRunner i runner)
  | _ => none

/-- An action of a signal handler. -/
def handlerStep (s : WorkerProcess) (k : Nat) (handler : SignalHandler)
    : WorkerAction → Option WorkerProcess
  | .waited _ =>
      match handler.phase with
      | .waiting wakeAt =>
          if wakeAt ≤ s.now then
            let waited := { handler with waitAttempts := handler.waitAttempts + 1 }
            some { s with
              handlers := s.handlers.set k (waited.await s.shutdown.activeJobsCount s.now) }
          else none
      | .closing => none
  | .closed _ cleanly =>
      if handler.phase = .closing then
        some { s with exit := some (if cleanly then .graceful else .closingFailed) }
      else none
  | .timedOut _ =>
      if handler.signalledAt + 10000 ≤ s.now then
        some { s with exit := some .shutdownTimeout }
      else none
  | _ => none

/-- One action of the process, which does nothing any more once it has ended. -/
def step (livenessByDefault : Bool) (s : WorkerProcess) (action : WorkerAction)
    : Option WorkerProcess :=
  if s.exit.isSome then none else
    match action with
    | .elapse milliseconds => some { s with now := s.now + milliseconds }
    | .lockFailed => some { s with health := s.health.recordLockAcquisitionFailure }
    | .signal => some s.handleSignal
    | .waited k | .closed k _ | .timedOut k =>
        s.handlers[k]?.bind fun handler => s.handlerStep k handler action
    | .start i _ | .listened i _ | .announced i | .swept i _ | .reported i _ | .woken i | .stop i =>
        s.runners[i]?.bind fun runner => s.runnerStep livenessByDefault i runner action

/-- What the process comes to by its actions. -/
inductive Runs (livenessByDefault : Bool) (s : WorkerProcess) : WorkerProcess → Prop
  | refl : Runs livenessByDefault s s
  | step {middle last : WorkerProcess} {action : WorkerAction}
    (before : Runs livenessByDefault s middle)
    (taken : middle.step livenessByDefault action = some last) : Runs livenessByDefault s last

/-- A process with some runners, none of them started. -/
def start (count : Nat) : WorkerProcess := { runners := List.replicate count {} }

/-- How many sweeps have begun and not ended. -/
def sweepsInProgress (s : WorkerProcess) : Nat :=
  s.runners.countP fun runner => runner.phase.isSweeping

-----------------------------------------------------------------------------------------
-- Moves of a runner
-----------------------------------------------------------------------------------------

/-- What `runSweep` throws after these errors. -/
def thrownFor (errors : List String) : Option String :=
  if errors = [] then none else some ("; ".intercalate errors)

end WorkerProcess

/-- An error of a sweep that is not in the audit log. -/
def RunnerPhase.unreported : RunnerPhase → Option String
  | .reporting error => some error
  | .ended error => error
  | _ => none

namespace WorkerProcess

variable {livenessByDefault : Bool} {s next later : WorkerProcess} {action : WorkerAction} {i k : Nat}
  {runner other : LuminaRailWorkerRunner} {runOnce : Bool} {errors : List String}
  {outcomes : List (SweepType × SweepOutcome)}

/-- Runs compose, by induction on the second one. -/
theorem Runs.trans (first : s.Runs livenessByDefault next)
    (second : next.Runs livenessByDefault later)
    : s.Runs livenessByDefault later := by
  induction second with
  | refl => exact first
  | step _ taken ih => exact ih.step taken

/-- Some actions in a row. -/
def play (livenessByDefault : Bool) (s : WorkerProcess) (actions : List WorkerAction)
    : Option WorkerProcess :=
  actions.foldlM (fun s action => s.step livenessByDefault action) s

/-- Actions that are played make a run, by induction on the actions. -/
theorem Runs.of_play {actions : List WorkerAction}
    (played : s.play livenessByDefault actions = some next)
    : s.Runs livenessByDefault next := by
  induction actions generalizing s with
  | nil =>
      obtain rfl := Option.some.inj played
      exact .refl
  | cons action actions ih =>
      obtain ⟨middle, taken, rest⟩ := Option.bind_eq_some_iff.mp played
      exact (Runs.refl.step taken).trans (ih rest)

/-- A runner is started, and its first daemon has done its work. -/
def firstHeartbeat : List WorkerAction :=
  [.start 0 {}, .listened 0 true, .announced 0, .swept 0 (.processed 2)]

/-- A signal comes while the first sweep is in progress, in which two daemons fail. -/
def interruptedSweep : List WorkerAction :=
  firstHeartbeat ++ [.signal, .swept 0 (.thrown none), .elapse 250, .waited 0,
    .swept 0 (.processed 0), .swept 0 (.thrown (some "timeout")), .reported 0 true, .elapse 250,
    .waited 0, .closed 0 true]

/-- A process that has ended takes no step. -/
theorem not_exited (taken : s.step livenessByDefault action = some next) : s.exit = none := by
  unfold step at taken
  split at taken
  · cases taken
  · simpa using ‹¬s.exit.isSome = true›

/-- A runner that neither sweeps nor has anything left to report. -/
def Quiet (runner : LuminaRailWorkerRunner) : Prop :=
  runner.phase.isSweeping = false ∧ runner.phase.unreported = none

/-- A runner is quiet in a phase without a sweep and without an error. -/
theorem Quiet.of {phase : RunnerPhase} (same : runner.phase = phase)
    (quiet : phase.isSweeping = false ∧ phase.unreported = none)
    : Quiet runner := by
  rw [Quiet, same]
  exact quiet

/-- What an action of a runner does. -/
inductive Moved (s : WorkerProcess) (i : Nat) (runner : LuminaRailWorkerRunner)
    : WorkerProcess → Prop
  | started {other : LuminaRailWorkerRunner} (before : Quiet runner) (after : Quiet other)
      : Moved s i runner
          ({ s with
            shutdown := s.shutdown.registerShutdownHandlers
            health := s.health.markStarted s.now }.put i other)
  | passed {other : LuminaRailWorkerRunner} (before : Quiet runner) (after : Quiet other)
      : Moved s i runner (s.put i other)
  | began (runOnce : Bool) (before : Quiet runner) (runs : s.shutdown.shuttingDown = false)
      : Moved s i runner (s.beginSweep i runner runOnce)
  | continued {runOnce : Bool} {outcomes : List (SweepType × SweepOutcome)} {errors : List String}
      {sweepType : SweepType} {remaining : List SweepType} (outcome : SweepOutcome)
      (before : runner.phase = .sweeping runOnce outcomes errors (sweepType :: remaining))
      (more : remaining ≠ [])
      : Moved s i runner ((s.record sweepType outcome).put i { runner with
          phase := .sweeping runOnce (outcomes ++ [(sweepType, outcome)])
            (errorsAfter errors sweepType outcome) remaining })
  | ended {runOnce : Bool} {outcomes : List (SweepType × SweepOutcome)} {errors : List String}
      {sweepType : SweepType} {other : LuminaRailWorkerRunner} (outcome : SweepOutcome)
      (before : runner.phase = .sweeping runOnce outcomes errors [sweepType])
      (after : other.phase.isSweeping = false)
      (thrown : other.phase.unreported = thrownFor (errorsAfter errors sweepType outcome))
      : Moved s i runner ({ s.record sweepType outcome with
          health := (s.record sweepType outcome).health.decrementActiveJobs
          shutdown := (s.record sweepType outcome).shutdown.decrementActiveJobs
          sweeps := (s.record sweepType outcome).sweeps
            ++ [(i, outcomes ++ [(sweepType, outcome)])] }.put i other)
  | reported {error : String} {other : LuminaRailWorkerRunner} (taken : Bool)
      (before : runner.phase = .reporting error) (after : Quiet other)
      : Moved s i runner ((s.logLoopError i error taken).put i other)
  | stopped : Moved s i runner (s.stopRunner i runner)

section

variable {sweepType : SweepType} {outcome : SweepOutcome}

@[simp] theorem record_shutdown : (s.record sweepType outcome).shutdown = s.shutdown := by
  cases outcome <;> rfl

@[simp] theorem record_sweeps : (s.record sweepType outcome).sweeps = s.sweeps := by
  cases outcome <;> rfl

end

/-- A runner that leaves its sweep is quiet, whether it waits or stops. -/
theorem leaveSweep_cases (s : WorkerProcess) (i : Nat) (runner : LuminaRailWorkerRunner)
    : ∃ other, Quiet other ∧ s.leaveSweep i runner = s.put i other := by
  unfold leaveSweep
  split
  · exact ⟨_, ⟨rfl, rfl⟩, rfl⟩
  · exact ⟨_, ⟨rfl, rfl⟩, rfl⟩

/-- A runner that enters its loop begins a sweep or stops. -/
theorem enterLoop_moved (before : Quiet runner) : Moved s i runner (s.enterLoop i runner) := by
  unfold enterLoop
  split
  · exact .began false before (by simp_all)
  · exact .passed before ⟨rfl, rfl⟩

/-- A runner that is announced enters its loop or sweeps once. -/
theorem runAnnounced_moved (before : Quiet runner)
    : Moved s i runner (s.runAnnounced i runner runOnce) := by
  unfold runAnnounced
  split
  · split
    · exact .passed before ⟨rfl, rfl⟩
    · exact .began true before (by simpa using ‹¬s.shutdown.shuttingDown = true›)
  · exact enterLoop_moved before

/-- A runner that ends its sweep has its errors to report or to throw. -/
theorem endSweep_cases (s : WorkerProcess) (i : Nat) (runner : LuminaRailWorkerRunner)
    (runOnce : Bool) (outcomes : List (SweepType × SweepOutcome)) (errors : List String)
    : ∃ other, other.phase.isSweeping = false ∧ other.phase.unreported = thrownFor errors
      ∧ s.endSweep i runner runOnce outcomes errors = { s with
          health := s.health.decrementActiveJobs
          shutdown := s.shutdown.decrementActiveJobs
          sweeps := s.sweeps ++ [(i, outcomes)] }.put i other := by
  unfold endSweep thrownFor
  by_cases clean : errors = []
  · simp only [clean, ne_eq, not_true_eq_false, if_false, if_true]
    cases runOnce with
    | true => exact ⟨_, rfl, rfl, rfl⟩
    | false =>
        obtain ⟨other, ⟨still, silent⟩, left⟩ := leaveSweep_cases _ i runner
        exact ⟨other, still, silent, left⟩
  · simp only [clean, ne_eq, not_false_eq_true, if_true, if_false]
    cases runOnce with
    | true => exact ⟨_, rfl, rfl, rfl⟩
    | false => exact ⟨_, rfl, rfl, rfl⟩

/-- A runner that is started is announced or has refused. -/
theorem startRunner_moved (before : Quiet runner) (options : WorkerRunnerOptions)
    : Moved s i runner (s.startRunner livenessByDefault i runner options) := by
  unfold startRunner
  dsimp only
  split
  · exact .started before ⟨rfl, rfl⟩
  · exact .started before ⟨rfl, rfl⟩

/-- Every action of a runner is a move, by cases on action and phase. -/
theorem runnerStep_moved (taken : s.runnerStep livenessByDefault i runner action = some next)
    : Moved s i runner next := by
  cases action with
  | start _ options =>
      simp only [runnerStep, Option.ite_none_right_eq_some, Option.some.injEq] at taken
      obtain ⟨idle, rfl⟩ := taken
      exact startRunner_moved (.of idle ⟨rfl, rfl⟩) options
  | listened _ bound =>
      cases phase : runner.phase with
      | listening runOnce =>
          simp only [runnerStep, phase, Option.some.injEq] at taken
          obtain rfl := taken
          exact .passed (.of phase ⟨rfl, rfl⟩) ⟨rfl, rfl⟩
      | _ => simp [runnerStep, phase] at taken
  | announced _ =>
      cases phase : runner.phase with
      | announcing runOnce =>
          simp only [runnerStep, phase, Option.some.injEq] at taken
          obtain rfl := taken
          exact runAnnounced_moved (.of phase ⟨rfl, rfl⟩)
      | _ => simp [runnerStep, phase] at taken
  | swept _ outcome =>
      cases phase : runner.phase with
      | sweeping runOnce outcomes errors remaining =>
          cases remaining with
          | nil => simp [runnerStep, phase] at taken
          | cons sweepType remaining =>
              simp only [runnerStep, phase] at taken
              split at taken
              · rename_i last
                obtain rfl := Option.some.inj taken
                obtain ⟨other, after, thrown, ends⟩ := endSweep_cases
                  (s.record sweepType outcome) i runner runOnce
                  (outcomes ++ [(sweepType, outcome)]) (errorsAfter errors sweepType outcome)
                rw [ends]
                exact .ended outcome (last ▸ phase) after thrown
              · obtain rfl := Option.some.inj taken
                exact .continued outcome phase ‹_›
      | _ => simp [runnerStep, phase] at taken
  | reported _ written =>
      cases phase : runner.phase with
      | reporting error =>
          simp only [runnerStep, phase, Option.some.injEq] at taken
          obtain rfl := taken
          obtain ⟨other, after, left⟩ :=
            leaveSweep_cases (s.logLoopError i error written) i runner
          rw [left]
          exact .reported written phase after
      | _ => simp [runnerStep, phase] at taken
  | woken _ =>
      cases phase : runner.phase with
      | sleeping wakeAt =>
          simp only [runnerStep, phase, Option.ite_none_right_eq_some, Option.some.injEq] at taken
          obtain ⟨-, rfl⟩ := taken
          exact enterLoop_moved (.of phase ⟨rfl, rfl⟩)
      | _ => simp [runnerStep, phase] at taken
  | stop _ =>
      simp only [runnerStep, Option.some.injEq] at taken
      obtain rfl := taken
      exact .stopped
  | _ => simp [runnerStep] at taken

/-- What an action of the process does. -/
inductive Stepped (s : WorkerProcess) : WorkerProcess → Prop
  | elapsed (milliseconds : Nat) : Stepped s { s with now := s.now + milliseconds }
  | lockFailed : Stepped s { s with health := s.health.recordLockAcquisitionFailure }
  | unhandled : Stepped s { s with exit := some .unhandled }
  | signalled
      : Stepped s { s with
          shutdown := { s.shutdown with shuttingDown := true }
          signals := s.signals ++ [s.now]
          handlers := s.handlers
            ++ [SignalHandler.await { signalledAt := s.now } s.shutdown.activeJobsCount s.now] }
  | waited {k : Nat} {handler : SignalHandler} {wakeAt : Nat} (found : handler ∈ s.handlers)
      (waits : handler.phase = .waiting wakeAt) (due : wakeAt ≤ s.now)
      : Stepped s { s with
          handlers := s.handlers.set k (SignalHandler.await
            { handler with waitAttempts := handler.waitAttempts + 1 }
            s.shutdown.activeJobsCount s.now) }
  | closed {handler : SignalHandler} (found : handler ∈ s.handlers)
      (closing : handler.phase = .closing) : Stepped s { s with exit := some .graceful }
  | closingFailed : Stepped s { s with exit := some .closingFailed }
  | timedOut {handler : SignalHandler} (found : handler ∈ s.handlers)
      (due : handler.signalledAt + 10000 ≤ s.now)
      : Stepped s { s with exit := some .shutdownTimeout }
  | moved {i : Nat} {runner : LuminaRailWorkerRunner} {next : WorkerProcess}
      (found : s.runners[i]? = some runner) (moved : Moved s i runner next) : Stepped s next

/-- Every action of a handler is a step, by cases on the action. -/
theorem handlerStep_stepped {handler : SignalHandler} (found : s.handlers[k]? = some handler)
    (taken : s.handlerStep k handler action = some next)
    : Stepped s next := by
  have member : handler ∈ s.handlers := List.mem_of_getElem? found
  cases action with
  | waited _ =>
      cases phase : handler.phase with
      | waiting wakeAt =>
          simp only [handlerStep, phase, Option.ite_none_right_eq_some, Option.some.injEq] at taken
          obtain ⟨due, rfl⟩ := taken
          exact .waited member phase due
      | closing => simp [handlerStep, phase] at taken
  | closed _ cleanly =>
      simp only [handlerStep, Option.ite_none_right_eq_some, Option.some.injEq] at taken
      obtain ⟨closing, rfl⟩ := taken
      cases cleanly with
      | true => exact .closed member closing
      | false => exact .closingFailed
  | timedOut _ =>
      simp only [handlerStep, Option.ite_none_right_eq_some, Option.some.injEq] at taken
      obtain ⟨due, rfl⟩ := taken
      exact .timedOut member due
  | _ => simp [handlerStep] at taken

/-- Every action is a step, by cases on the action. -/
theorem step_stepped (taken : s.step livenessByDefault action = some next) : Stepped s next := by
  unfold step at taken
  split at taken
  · cases taken
  cases action with
  | elapse milliseconds =>
      obtain rfl := Option.some.inj taken
      exact .elapsed milliseconds
  | lockFailed =>
      obtain rfl := Option.some.inj taken
      exact .lockFailed
  | signal =>
      obtain rfl := Option.some.inj taken
      unfold handleSignal
      split
      · exact .signalled
      · exact .unhandled
  | waited k | closed k _ | timedOut k =>
      obtain ⟨handler, found, taken⟩ := Option.bind_eq_some_iff.mp taken
      exact handlerStep_stepped found taken
  | start i _ | listened i _ | announced i | swept i _ | reported i _ | woken i | stop i =>
      obtain ⟨runner, found, taken⟩ := Option.bind_eq_some_iff.mp taken
      exact .moved found (runnerStep_moved taken)

end WorkerProcess

end LuminaRail
