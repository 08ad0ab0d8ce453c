import LuminaRail.Workers.Process
import Mathlib.Order.Nat

/-! The graceful shutdown of the worker: it waits for the sweeps that are in progress, but not for
longer than 5 seconds.
-/

namespace LuminaRail

namespace WorkerProcess

variable {livenessByDefault : Bool} {s next later : WorkerProcess} {action : WorkerAction} {i : Nat}
  {runner other : LuminaRailWorkerRunner}

-----------------------------------------------------------------------------------------
-- Jobs
-----------------------------------------------------------------------------------------

/-- Both services count the sweeps in progress. -/
structure Counted (s : WorkerProcess) : Prop where
  awaited : s.shutdown.activeJobsCount = s.sweepsInProgress
  shown : s.health.activeJobsCount = s.sweepsInProgress
  begun : s.begun = s.sweeps.length + s.sweepsInProgress

/-- One runner counts only by its own phase, by the sum over the list. -/
theorem sweepsInProgress_put (found : s.runners[i]? = some runner) (other : LuminaRailWorkerRunner)
    : (s.put i other).sweepsInProgress + (if runner.phase.isSweeping then 1 else 0)
      = s.sweepsInProgress + if other.phase.isSweeping then 1 else 0 := by
  obtain ⟨inside, here⟩ := List.getElem?_eq_some_iff.mp found
  have counted : runner.phase.isSweeping
      → 0 < s.runners.countP fun runner => runner.phase.isSweeping := by
    intro sweeping
    exact List.countP_pos_iff.mpr ⟨runner, here ▸ List.getElem_mem inside, sweeping⟩
  simp only [sweepsInProgress, put, List.countP_set inside, here]
  split
  · have := counted ‹_›
    omega
  · omega

section

variable (found : s.runners[i]? = some runner)
include found

/-- A runner that keeps its phase leaves the count. -/
theorem sweepsInProgress_still (same : other.phase.isSweeping = runner.phase.isSweeping)
    : (s.put i other).sweepsInProgress = s.sweepsInProgress := by
  simpa [same] using sweepsInProgress_put found other

/-- A runner that begins a sweep counts one more. -/
theorem sweepsInProgress_began (before : runner.phase.isSweeping = false)
    (after : other.phase.isSweeping = true)
    : (s.put i other).sweepsInProgress = s.sweepsInProgress + 1 := by
  simpa [before, after] using sweepsInProgress_put found other

/-- A runner that ends a sweep counts one less. -/
theorem sweepsInProgress_ended (before : runner.phase.isSweeping = true)
    (after : other.phase.isSweeping = false)
    : (s.put i other).sweepsInProgress + 1 = s.sweepsInProgress := by
  simpa [before, after] using sweepsInProgress_put found other

end

/-- A record of a sweep changes no runner. -/
theorem record_found {sweepType : SweepType} {outcome : SweepOutcome}
    (found : s.runners[i]? = some runner)
    : (s.record sweepType outcome).runners[i]? = some runner := by
  cases outcome <;> exact found

/-- A record of a sweep changes no count. -/
theorem record_counted {sweepType : SweepType} (outcome : SweepOutcome) (counted : s.Counted)
    : (s.record sweepType outcome).Counted := by
  cases outcome with
  | processed count => exact ⟨counted.awaited, counted.shown, counted.begun⟩
  | thrown message => exact counted

/-- A runner that keeps its phase keeps the counters right. -/
theorem Counted.put (counted : s.Counted) (found : s.runners[i]? = some runner)
    (same : other.phase.isSweeping = runner.phase.isSweeping)
    : (s.put i other).Counted := by
  have still := sweepsInProgress_still found same
  constructor
  · rw [still]; exact counted.awaited
  · rw [still]; exact counted.shown
  · rw [still]; exact counted.begun

/-- The beginning of a sweep counts in both counters. -/
theorem Counted.begins (counted : s.Counted) (found : s.runners[i]? = some runner)
    (before : runner.phase.isSweeping = false) (runOnce : Bool)
    : (s.beginSweep i runner runOnce).Counted := by
  have more : (s.beginSweep i runner runOnce).sweepsInProgress = s.sweepsInProgress + 1 :=
    sweepsInProgress_began found before rfl
  constructor
  · rw [more, ← counted.awaited]; rfl
  · rw [more, ← counted.shown]; rfl
  · rw [more]
    show s.begun + 1 = s.sweeps.length + (s.sweepsInProgress + 1)
    have := counted.begun
    omega

/-- The end of a sweep is counted off both counters. -/
theorem Counted.ends (counted : s.Counted) (found : s.runners[i]? = some runner)
    (before : runner.phase.isSweeping = true) (after : other.phase.isSweeping = false)
    (sweep : Nat × List (SweepType × SweepOutcome))
    : ({ s with
        health := s.health.decrementActiveJobs
        shutdown := s.shutdown.decrementActiveJobs
        sweeps := s.sweeps ++ [sweep] }.put i other).Counted := by
  have fewer := sweepsInProgress_ended found before after
  obtain ⟨awaited, shown, begun⟩ := counted
  constructor
  · show s.shutdown.decrementActiveJobs.activeJobsCount = (s.put i other).sweepsInProgress
    simp [ShutdownManager.decrementActiveJobs, awaited, ← fewer]
  · show s.health.decrementActiveJobs.activeJobsCount = (s.put i other).sweepsInProgress
    simp [WorkerHealthTelemetry.decrementActiveJobs, shown, ← fewer]
  · show s.begun = (s.sweeps ++ [sweep]).length + (s.put i other).sweepsInProgress
    simp only [List.length_append, List.length_cons, List.length_nil]
    omega

/-- Every move of a runner keeps the counters right, by cases on the move. -/
theorem Moved.counted (moved : Moved s i runner next) (found : s.runners[i]? = some runner)
    (counted : s.Counted)
    : next.Counted := by
  cases moved with
  | started before after =>
      refine Counted.put ⟨counted.awaited, counted.shown, counted.begun⟩ found ?_
      exact after.1.trans before.1.symm
  | passed before after => exact counted.put found (after.1.trans before.1.symm)
  | began runOnce before runs => exact counted.begins found before.1 runOnce
  | continued outcome before more =>
      exact (record_counted outcome counted).put (record_found found) (by rw [before]; rfl)
  | ended outcome before after thrown =>
      exact (record_counted outcome counted).ends (record_found found) (by rw [before]; rfl) after _
  | reported taken before after =>
      refine Counted.put ⟨counted.awaited, counted.shown, counted.begun⟩ found ?_
      rw [before, after.1]
      rfl
  | stopped =>
      exact Counted.put ⟨counted.awaited, counted.shown, counted.begun⟩ found rfl

/-- Every step keeps the counters right, by cases on the step. -/
theorem Stepped.counted (stepped : Stepped s next) (counted : s.Counted) : next.Counted := by
  cases stepped with
  | moved found moved => exact moved.counted found counted
  | _ => exact ⟨counted.awaited, counted.shown, counted.begun⟩

-----------------------------------------------------------------------------------------
-- Shutdown
-----------------------------------------------------------------------------------------

/-- What only goes one way: time passes, signals are not forgotten, and once the process is shutting
down no sweep begins.
-/
structure Advances (s next : WorkerProcess) : Prop where
  now : s.now ≤ next.now
  signals : ∀ time ∈ s.signals, time ∈ next.signals
  stays : s.shutdown.shuttingDown = true → next.shutdown.shuttingDown = true
  begun : s.shutdown.shuttingDown = true → next.begun = s.begun
  ends : s.shutdown.shuttingDown = true → next.sweepsInProgress ≤ s.sweepsInProgress

/-- A process has advanced from itself. -/
theorem Advances.refl (s : WorkerProcess) : s.Advances s :=
  ⟨le_rfl, fun _ => id, id, fun _ => rfl, fun _ => le_rfl⟩

/-- Advances compose. -/
theorem Advances.trans (first : s.Advances next) (second : next.Advances later)
    : s.Advances later where
  now := first.now.trans second.now
  signals time member := second.signals time (first.signals time member)
  stays down := second.stays (first.stays down)
  begun down := (second.begun (first.stays down)).trans (first.begun down)
  ends down := (second.ends (first.stays down)).trans (first.ends down)

/-- What changes neither the sweeps nor the signals. -/
theorem Advances.calm (now : next.now = s.now) (signals : next.signals = s.signals)
    (down : next.shutdown.shuttingDown = s.shutdown.shuttingDown) (begun : next.begun = s.begun)
    (runners : next.runners = s.runners)
    : s.Advances next := by
  refine ⟨now.ge, fun time member => signals ▸ member, fun holds => down.trans holds,
    fun _ => begun, fun _ => ?_⟩
  simp [sweepsInProgress, runners]

/-- A runner that begins no sweep does not turn a process back. -/
theorem Advances.put (advances : s.Advances next) (found : next.runners[i]? = some runner)
    (fewer : other.phase.isSweeping = true → runner.phase.isSweeping = true)
    : s.Advances (next.put i other) := by
  refine ⟨advances.now, advances.signals, advances.stays, advances.begun, fun down => ?_⟩
  have count := sweepsInProgress_put found other
  have before := advances.ends down
  cases after : other.phase.isSweeping with
  | true =>
      simp only [after, fewer after, if_true] at count
      omega
  | false =>
      simp only [after, Bool.false_eq_true, if_false] at count
      omega

/-- A record of a sweep is an advance. -/
theorem record_advances {sweepType : SweepType} (outcome : SweepOutcome)
    : s.Advances (s.record sweepType outcome) := by
  cases outcome with
  | processed count => exact .calm rfl rfl rfl rfl rfl
  | thrown message => exact .refl s

/-- A job that ends does not end the shutdown. -/
theorem decrementActiveJobs_shuttingDown {manager : ShutdownManager}
    : manager.decrementActiveJobs.shuttingDown = manager.shuttingDown := by
  unfold ShutdownManager.decrementActiveJobs
  split <;> rfl

/-- Every move of a runner is an advance, by cases on the move. -/
theorem Moved.advances (moved : Moved s i runner next) (found : s.runners[i]? = some runner)
    : s.Advances next := by
  cases moved with
  | started before after =>
      refine Advances.put (.calm rfl rfl rfl rfl rfl) found ?_
      simp [after.1]
  | passed before after => exact (Advances.refl s).put found (by simp [after.1])
  | began runOnce before runs =>
      have never {P : Prop} (down : s.shutdown.shuttingDown = true) : P := by simp [runs] at down
      exact ⟨le_rfl, fun _ => id, id, never, never⟩
  | continued outcome before more =>
      exact (record_advances outcome).put (record_found found) fun _ => by rw [before]; rfl
  | ended outcome before after thrown =>
      refine Advances.put ((record_advances outcome).trans
        (.calm rfl rfl decrementActiveJobs_shuttingDown rfl rfl)) (record_found found) ?_
      simp [after]
  | reported taken before after =>
      refine Advances.put (.calm rfl rfl rfl rfl rfl) found ?_
      simp [after.1]
  | stopped => exact Advances.put (.calm rfl rfl rfl rfl rfl) found id

/-- Every step is an advance, by cases on the step. -/
theorem Stepped.advances (stepped : Stepped s next) : s.Advances next := by
  cases stepped with
  | elapsed milliseconds =>
      exact ⟨Nat.le_add_right _ _, fun _ => id, id, fun _ => rfl, fun _ => le_rfl⟩
  | signalled =>
      exact ⟨le_rfl, fun _ member => List.mem_append_left _ member, fun _ => rfl, fun _ => rfl,
        fun _ => le_rfl⟩
  | moved found moved => exact moved.advances found
  | _ => exact .calm rfl rfl rfl rfl rfl

/-- Every run is an advance, by induction on the run. -/
theorem Runs.advances (runs : s.Runs livenessByDefault next) : s.Advances next := by
  induction runs with
  | refl => exact .refl s
  | step _ taken ih => exact ih.trans (step_stepped taken).advances

/-- No sweep is in progress, or the signal has come at least 5 seconds ago. -/
def Drained (s : WorkerProcess) (signalledAt : Nat) : Prop :=
  s.sweepsInProgress = 0 ∨ signalledAt + 5000 ≤ s.now

/-- A handler has waited for 250 ms as often as it counts. -/
structure Handled (s : WorkerProcess) (handler : SignalHandler) : Prop where
  signalled : handler.signalledAt ∈ s.signals
  attempts : handler.waitAttempts ≤ 20
  waits : ∀ wakeAt, handler.phase = .waiting wakeAt → handler.waitAttempts < 20
    ∧ handler.signalledAt + 250 * (handler.waitAttempts + 1) ≤ wakeAt
  closes : handler.phase = .closing → s.Drained handler.signalledAt

/-- What has drained stays drained, since no sweep begins during a shutdown. -/
theorem Drained.advance {signalledAt : Nat} (drained : s.Drained signalledAt)
    (down : s.shutdown.shuttingDown = true) (advances : s.Advances next)
    : next.Drained signalledAt := by
  rcases drained with idle | late
  · exact Or.inl (Nat.le_zero.mp (idle ▸ advances.ends down))
  · exact Or.inr (late.trans advances.now)

/-- A handler that has ended stays right. -/
theorem Handled.advance {handler : SignalHandler} (handled : s.Handled handler)
    (down : s.shutdown.shuttingDown = true) (advances : s.Advances next)
    : next.Handled handler :=
  ⟨advances.signals _ handled.signalled, handled.attempts, handled.waits,
    fun closing => (handled.closes closing).advance down advances⟩

/-- A handler ends when no job is active or its attempts are used up. -/
theorem handled_await (counted : s.Counted) {handler : SignalHandler}
    (signalled : handler.signalledAt ∈ s.signals) (attempts : handler.waitAttempts ≤ 20)
    (waited : handler.signalledAt + 250 * handler.waitAttempts ≤ s.now)
    : s.Handled (handler.await s.shutdown.activeJobsCount s.now) := by
  unfold SignalHandler.await
  split
  · rename_i waits
    refine ⟨signalled, attempts, fun wakeAt same => ⟨waits.2, ?_⟩, nofun⟩
    obtain rfl := HandlerPhase.waiting.inj same
    show handler.signalledAt + 250 * (handler.waitAttempts + 1) ≤ s.now + 250
    omega
  · rename_i done
    refine ⟨signalled, attempts, nofun, fun _ => ?_⟩
    rw [counted.awaited] at done
    by_cases idle : s.sweepsInProgress = 0
    · exact Or.inl idle
    · right
      show handler.signalledAt + 5000 ≤ s.now
      omega

/-- What a shutdown has waited for. -/
structure Draining (s : WorkerProcess) : Prop where
  signalled : s.signals ≠ [] → s.shutdown.shuttingDown = true
  handled : ∀ handler ∈ s.handlers, s.Handled handler
  graceful : s.exit = some .graceful → ∃ time ∈ s.signals, s.Drained time
  timedOut : s.exit = some .shutdownTimeout → ∃ time ∈ s.signals, time + 10000 ≤ s.now

/-- A signal has begun the shutdown. -/
theorem Draining.down (draining : s.Draining) {time : Nat} (signalled : time ∈ s.signals)
    : s.shutdown.shuttingDown = true :=
  draining.signalled (List.ne_nil_of_mem signalled)

/-- The handlers and the signals stay as they are. -/
theorem Draining.advance (draining : s.Draining) (advances : s.Advances next)
    (running : next.exit = none) (handlers : next.handlers = s.handlers)
    (signals : next.signals = s.signals)
    : next.Draining where
  signalled come := advances.stays (draining.signalled (signals ▸ come))
  handled handler member := by
    have handled := draining.handled handler (handlers ▸ member)
    exact handled.advance (draining.down handled.signalled) advances
  graceful ended := by simp [running] at ended
  timedOut ended := by simp [running] at ended

/-- A runner touches neither handlers nor signals, by cases on the move. -/
theorem Moved.rest (moved : Moved s i runner next)
    : next.exit = s.exit ∧ next.handlers = s.handlers ∧ next.signals = s.signals := by
  cases moved with
  | continued outcome before more => cases outcome <;> exact ⟨rfl, rfl, rfl⟩
  | ended outcome before after thrown => cases outcome <;> exact ⟨rfl, rfl, rfl⟩
  | _ => exact ⟨rfl, rfl, rfl⟩

/-- A process that ends by what is no shutdown. -/
theorem Draining.ends (draining : s.Draining) {exit : ProcessExit}
    (graceful : exit = .graceful → ∃ time ∈ s.signals, s.Drained time)
    (timedOut : exit = .shutdownTimeout → ∃ time ∈ s.signals, time + 10000 ≤ s.now)
    : { s with exit := some exit }.Draining where
  signalled := draining.signalled
  handled handler member := by
    obtain ⟨signalled, attempts, waits, closes⟩ := draining.handled handler member
    exact ⟨signalled, attempts, waits, closes⟩
  graceful ended := graceful (Option.some.inj ended)
  timedOut ended := timedOut (Option.some.inj ended)

/-- Every step keeps what is known of the shutdown, by cases on the step. -/
theorem Stepped.draining (stepped : Stepped s next) (running : s.exit = none)
    (counted : s.Counted) (draining : s.Draining)
    : next.Draining := by
  have advances := stepped.advances
  cases stepped with
  | elapsed milliseconds => exact draining.advance advances running rfl rfl
  | lockFailed => exact draining.advance advances running rfl rfl
  | unhandled => exact draining.ends (by simp) (by simp)
  | closingFailed => exact draining.ends (by simp) (by simp)
  | @closed handler found closing =>
      have handled := draining.handled handler found
      exact draining.ends (fun _ => ⟨_, handled.signalled, handled.closes closing⟩) (by simp)
  | @timedOut handler found due =>
      have handled := draining.handled handler found
      exact draining.ends (by simp) fun _ => ⟨_, handled.signalled, due⟩
  | signalled =>
      refine ⟨fun _ => rfl, fun handler member => ?_, by simp [running], by simp [running]⟩
      rcases List.mem_append.mp member with before | new
      · have handled := draining.handled handler before
        exact handled.advance (draining.down handled.signalled) advances
      · obtain rfl := List.mem_singleton.mp new
        exact handled_await (Stepped.signalled.counted counted) (by simp) (by simp) (by simp)
  | @waited k handler wakeAt found waits due =>
      have handled := draining.handled handler found
      refine ⟨draining.signalled, fun other member => ?_, by simp [running], by simp [running]⟩
      rcases List.mem_or_eq_of_mem_set member with before | rfl
      · have handled := draining.handled other before
        exact handled.advance (draining.down handled.signalled) advances
      · obtain ⟨few, waited⟩ := handled.waits wakeAt waits
        exact handled_await ((Stepped.waited (k := k) found waits due).counted counted)
          handled.signalled few (waited.trans due)
  | moved found moved =>
      obtain ⟨exit, handlers, signals⟩ := moved.rest
      exact draining.advance advances (exit.trans running) handlers signals

/-- Every run keeps both invariants, by induction on the run. -/
theorem Runs.consistent {count : Nat} (runs : (start count).Runs livenessByDefault s)
    : s.Counted ∧ s.Draining := by
  induction runs with
  | refl =>
      have idle : (start count).sweepsInProgress = 0 := by
        simp [start, sweepsInProgress, List.countP_replicate, RunnerPhase.isSweeping]
      refine ⟨⟨idle.symm, idle.symm, by rw [idle]; rfl⟩, ?_⟩
      exact ⟨by simp [start], by simp [start], by simp [start], by simp [start]⟩
  | step before taken ih =>
      have stepped := step_stepped taken
      exact ⟨stepped.counted ih.1, stepped.draining (not_exited taken) ih.1 ih.2⟩

/-- However sweeps, failures and signals interleave: both services count the sweeps that have
begun and not ended, no sweep begins after a signal, and a process that shuts down gracefully
has no sweep in progress, unless it has waited for it for 5 seconds. It is only forced to end
after 10. By the two invariants of a run, and because a shutdown is never undone.
-/
theorem graceful_shutdown {count : Nat} (runs : (start count).Runs livenessByDefault s)
    : s.shutdown.activeJobsCount = s.sweepsInProgress
      ∧ s.health.activeJobsCount = s.sweepsInProgress
      ∧ s.begun = s.sweeps.length + s.sweepsInProgress
      ∧ (s.signals ≠ [] → ∀ later, s.Runs livenessByDefault later → later.begun = s.begun)
      ∧ (s.exit = some .graceful
        → s.sweepsInProgress = 0 ∨ ∃ time ∈ s.signals, time + 5000 ≤ s.now)
      ∧ (s.exit = some .shutdownTimeout → ∃ time ∈ s.signals, time + 10000 ≤ s.now) := by
  obtain ⟨⟨awaited, shown, begun⟩, draining⟩ := runs.consistent
  refine ⟨awaited, shown, begun, fun signalled later onward => ?_, fun ended => ?_,
    draining.timedOut⟩
  · exact onward.advances.begun (draining.signalled signalled)
  · obtain ⟨time, signalled, idle | late⟩ := draining.graceful ended
    · exact Or.inl idle
    · exact Or.inr ⟨time, signalled, late⟩

/-- The process waits for the sweep. -/
theorem graceful_shutdown_interrupted
    : ∃ s, (start 1).Runs true s ∧ s.exit = some .graceful ∧ s.sweepsInProgress = 0 := by
  have played : ((start 1).play true interruptedSweep).map
      (fun s => (s.exit, decide (∀ time ∈ s.signals, s.now < time + 5000)))
      = some (some .graceful, true) := by
    decide +kernel
  obtain ⟨s, reached, seen⟩ := Option.map_eq_some_iff.mp played
  obtain ⟨ended, early⟩ := Prod.mk.inj seen
  have runs := Runs.of_play reached
  obtain ⟨-, -, -, -, drained, -⟩ := graceful_shutdown runs
  refine ⟨s, runs, ended, (drained ended).resolve_right ?_⟩
  rintro ⟨time, signalled, late⟩
  exact absurd late (not_le.mpr (of_decide_eq_true early time signalled))

end WorkerProcess

end LuminaRail
