import LuminaRail.Workers.Process
import Mathlib.Order.Nat

/-! What is known of the worker from outside: the failures of its daemons in the audit log, and the
answers of its liveness endpoint.
-/

namespace LuminaRail

namespace WorkerProcess

variable {livenessByDefault : Bool} {s next : WorkerProcess} {action : WorkerAction} {i j : Nat}
  {runner other : LuminaRailWorkerRunner}

-----------------------------------------------------------------------------------------
-- Failures
-----------------------------------------------------------------------------------------

/-- The messages of the daemons that failed in a sweep. -/
def errorsOf (outcomes : List (SweepType × SweepOutcome)) : List String :=
  outcomes.foldl (fun errors (sweepType, outcome) => errorsAfter errors sweepType outcome) []

/-- What the sweeps of a runner have thrown. -/
def thrownBy (i : Nat) (sweeps : List (Nat × List (SweepType × SweepOutcome))) : List String :=
  (sweeps.filter (·.1 = i)).filterMap fun sweep => thrownFor (errorsOf sweep.2)

/-- The failures that a runner has handed to the audit log. -/
def loggedOf (i : Nat) (logged : List (Nat × String × Bool)) : List String :=
  (logged.filter (·.1 = i)).map fun entry => entry.2.1

/-- The entries that the audit log has taken. -/
def takenOf (logged : List (Nat × String × Bool)) : List (Nat × String) :=
  (logged.filter (·.2.2)).map fun entry => (entry.1, entry.2.1)

/-- A sweep in progress has run the first daemons. -/
def Begun : RunnerPhase → Prop
  | .sweeping _ outcomes errors remaining =>
      outcomes.map Prod.fst ++ remaining = SweepType.all ∧ errors = errorsOf outcomes
  | _ => True

/-- What a runner's sweeps have thrown has been handed to the audit log or is about to be. -/
structure Reported (sweeps : List (Nat × List (SweepType × SweepOutcome)))
    (logged : List (Nat × String × Bool)) (i : Nat) (phase : RunnerPhase) : Prop where
  begun : Begun phase
  audited : thrownBy i sweeps = loggedOf i logged ++ phase.unreported.toList

/-- Every sweep that has ended has run each daemon, and its failures are reported. -/
structure Accounted (s : WorkerProcess) : Prop where
  complete : ∀ sweep ∈ s.sweeps, sweep.2.map Prod.fst = SweepType.all
  reported : ∀ i runner, s.runners[i]? = some runner
    → Reported s.sweeps s.logged i runner.phase
  written : s.audits = takenOf s.logged

section

variable {sweeps more : List (Nat × List (SweepType × SweepOutcome))}
  {logged : List (Nat × String × Bool)} {phase : RunnerPhase}

theorem errorsOf_append (outcomes : List (SweepType × SweepOutcome)) (sweepType : SweepType)
    (outcome : SweepOutcome)
    : errorsOf (outcomes ++ [(sweepType, outcome)])
      = errorsAfter (errorsOf outcomes) sweepType outcome := by
  simp [errorsOf, List.foldl_append]

theorem begun_of_still (still : phase.isSweeping = false) : Begun phase := by
  cases phase with
  | sweeping runOnce outcomes errors remaining => cases still
  | _ => trivial

theorem thrownBy_append (sweep : Nat × List (SweepType × SweepOutcome))
    : thrownBy i (sweeps ++ [sweep])
      = thrownBy i sweeps ++ if sweep.1 = i then (thrownFor (errorsOf sweep.2)).toList else [] := by
  by_cases own : sweep.1 = i
  · cases thrown : thrownFor (errorsOf sweep.2) <;> simp [thrownBy, own, thrown]
  · simp [thrownBy, own]

theorem loggedOf_append (entry : Nat × String × Bool)
    : loggedOf i (logged ++ [entry])
      = loggedOf i logged ++ if entry.1 = i then [entry.2.1] else [] := by
  by_cases own : entry.1 = i
  · simp [loggedOf, own]
  · simp [loggedOf, own]

theorem takenOf_append (error : String) (taken : Bool)
    : takenOf (logged ++ [(i, error, taken)])
      = if taken then takenOf logged ++ [(i, error)] else takenOf logged := by
  cases taken with
  | true => simp [takenOf]
  | false => simp [takenOf]

end

theorem Accounted.put (complete : ∀ sweep ∈ s.sweeps, sweep.2.map Prod.fst = SweepType.all)
    (others : ∀ j ≠ i, ∀ runner, s.runners[j]? = some runner
      → Reported s.sweeps s.logged j runner.phase)
    (own : Reported s.sweeps s.logged i other.phase) (written : s.audits = takenOf s.logged)
    : (s.put i other).Accounted := by
  refine ⟨complete, fun j runner found => ?_, written⟩
  have found : (s.runners.set i other)[j]? = some runner := found
  by_cases same : j = i
  · subst same
    rw [List.getElem?_set_self'] at found
    obtain ⟨_, -, rfl⟩ := Option.map_eq_some_iff.mp found
    exact own
  · rw [List.getElem?_set_ne (Ne.symm same)] at found
    exact others j same runner found

theorem Moved.accounted (moved : Moved s i runner next) (found : s.runners[i]? = some runner)
    (accounted : s.Accounted)
    : next.Accounted := by
  have reported := accounted.reported i runner found
  have quiet {other : LuminaRailWorkerRunner} (before : Quiet runner) (after : Quiet other)
      : Reported s.sweeps s.logged i other.phase :=
    ⟨begun_of_still after.1, by rw [after.2, ← before.2]; exact reported.audited⟩
  have others (j : Nat) (_ : j ≠ i) (runner : LuminaRailWorkerRunner)
      (found : s.runners[j]? = some runner) : Reported s.sweeps s.logged j runner.phase :=
    accounted.reported j runner found
  have written := accounted.written
  cases moved with
  | started before after => exact .put accounted.complete others (quiet before after) written
  | passed before after => exact .put accounted.complete others (quiet before after) written
  | began runOnce before runs =>
      refine .put accounted.complete others ⟨⟨rfl, rfl⟩, ?_⟩ written
      have held := reported.audited
      rw [before.2] at held
      exact held
  | @continued runOnce outcomes errors sweepType remaining outcome before more =>
      have held := reported
      rw [before] at held
      obtain ⟨⟨ran, errors_eq⟩, audited⟩ := held
      have now : Reported s.sweeps s.logged i (.sweeping runOnce (outcomes ++ [(sweepType, outcome)])
          (errorsAfter errors sweepType outcome) remaining) :=
        ⟨⟨by simpa using ran, by rw [errorsOf_append, errors_eq]⟩, audited⟩
      cases outcome with
      | processed count => exact .put accounted.complete others now written
      | thrown message => exact .put accounted.complete others now written
  | @ended runOnce outcomes errors sweepType other outcome before after thrown =>
      have held := reported
      rw [before] at held
      obtain ⟨⟨ran, errors_eq⟩, audited⟩ := held
      have complete : ∀ sweep ∈ s.sweeps ++ [(i, outcomes ++ [(sweepType, outcome)])],
          sweep.2.map Prod.fst = SweepType.all := by
        intro sweep member
        rcases List.mem_append.mp member with earlier | last
        · exact accounted.complete sweep earlier
        · obtain rfl := List.mem_singleton.mp last
          simpa using ran
      have others (j : Nat) (different : j ≠ i) (runner : LuminaRailWorkerRunner)
          (found : s.runners[j]? = some runner)
          : Reported (s.sweeps ++ [(i, outcomes ++ [(sweepType, outcome)])]) s.logged j
              runner.phase := by
        have same := others j different runner found
        refine ⟨same.begun, ?_⟩
        rw [thrownBy_append, if_neg (Ne.symm different), List.append_nil]
        exact same.audited
      have own : Reported (s.sweeps ++ [(i, outcomes ++ [(sweepType, outcome)])]) s.logged i
          other.phase := by
        refine ⟨begun_of_still after, ?_⟩
        rw [thrownBy_append, if_pos rfl, errorsOf_append, ← errors_eq, ← thrown, audited]
        simp [RunnerPhase.unreported]
      cases outcome with
      | processed count => exact .put complete others own written
      | thrown message => exact .put complete others own written
  | @reported error other taken before after =>
      have held := reported.audited
      rw [before] at held
      refine .put accounted.complete (fun j different runner found => ?_)
        ⟨begun_of_still after.1, ?_⟩ ?_
      · have same := others j different runner found
        refine ⟨same.begun, ?_⟩
        rw [logLoopError, loggedOf_append, if_neg (Ne.symm different), List.append_nil]
        exact same.audited
      · rw [logLoopError, loggedOf_append, if_pos rfl, after.2]
        simpa [RunnerPhase.unreported] using held
      · rw [logLoopError, takenOf_append, written]
  | stopped => exact .put accounted.complete others reported written

theorem Stepped.accounted (stepped : Stepped s next) (accounted : s.Accounted)
    : next.Accounted := by
  cases stepped with
  | moved found moved => exact moved.accounted found accounted
  | _ => exact ⟨accounted.complete, accounted.reported, accounted.written⟩

theorem Runs.accounted {count : Nat} (runs : (start count).Runs livenessByDefault s)
    : s.Accounted := by
  induction runs with
  | refl =>
      refine ⟨by simp [start], fun i runner found => ?_, rfl⟩
      obtain rfl := List.eq_of_mem_replicate (List.mem_of_getElem? found)
      exact ⟨trivial, rfl⟩
  | step _ taken ih => exact (step_stepped taken).accounted ih

/-- Whatever the daemons throw: every sweep that has ended has run all of them, each once and in
their order. A runner hands the failures of its sweeps to the audit log, each once and in their
order, except for the last one where it is about to, or throws it to who started the runner. The
audit log has the entries of which the write has succeeded. By an invariant on the reports of
each runner, by induction over the run.
-/
theorem failures_reported {count : Nat} (runs : (start count).Runs livenessByDefault s)
    : (∀ sweep ∈ s.sweeps, sweep.2.map Prod.fst = SweepType.all)
      ∧ (∀ i runner, s.runners[i]? = some runner
        → thrownBy i s.sweeps = loggedOf i s.logged ++ runner.phase.unreported.toList)
      ∧ s.audits = takenOf s.logged := by
  have accounted := runs.accounted
  refine ⟨accounted.complete, fun i runner found => ?_, accounted.written⟩
  exact (accounted.reported i runner found).audited

/-- The two failures are in the audit log. -/
theorem failures_reported_interrupted
    : ∃ s, (start 1).Runs true s
      ∧ thrownBy 0 s.sweeps = ["Reservation cleanup sweep error; timeout"]
      ∧ s.audits = [(0, "Reservation cleanup sweep error; timeout")] := by
  have played : ((start 1).play true interruptedSweep).map
      (fun s => (s.logged, s.runners.map (·.phase)))
      = some ([(0, "Reservation cleanup sweep error; timeout", true)], [.ended none]) := by
    decide +kernel
  obtain ⟨s, reached, seen⟩ := Option.map_eq_some_iff.mp played
  obtain ⟨logged, phases⟩ := Prod.mk.inj seen
  obtain ⟨runner, runners, ended⟩ : ∃ runner, s.runners = [runner] ∧ runner.phase = .ended none := by
    obtain ⟨runner, rest, runners, ended, none_left⟩ := List.map_eq_cons_iff.mp phases
    exact ⟨runner, by rw [runners, List.map_eq_nil_iff.mp none_left], ended⟩
  have runs := Runs.of_play reached
  obtain ⟨_, reported, written⟩ := failures_reported runs
  have thrown := reported 0 runner (by simp [runners])
  rw [ended, logged] at thrown
  rw [logged] at written
  exact ⟨s, runs, thrown, written⟩

-----------------------------------------------------------------------------------------
-- Liveness
-----------------------------------------------------------------------------------------

/-- The service remembers the last heartbeat of each daemon. -/
structure Beating (s : WorkerProcess) : Prop where
  recorded : ∀ sweepType heartbeat, s.health.sweepHeartbeats sweepType = some heartbeat
    → (sweepType, heartbeat) ∈ s.heartbeats
  latest : ∀ beat ∈ s.heartbeats, ∃ heartbeat,
    s.health.sweepHeartbeats beat.1 = some heartbeat
      ∧ beat.2.lastSweepAt ≤ heartbeat.lastSweepAt
  past : ∀ beat ∈ s.heartbeats, beat.2.lastSweepAt ≤ s.now

theorem Beating.calm (beating : s.Beating)
    (known : next.health.sweepHeartbeats = s.health.sweepHeartbeats)
    (heartbeats : next.heartbeats = s.heartbeats) (now : s.now ≤ next.now)
    : next.Beating := by
  refine ⟨fun sweepType heartbeat stored => ?_, fun beat member => ?_, fun beat member => ?_⟩
  · rw [heartbeats]
    exact beating.recorded sweepType heartbeat (known ▸ stored)
  · rw [known]
    exact beating.latest beat (heartbeats ▸ member)
  · exact (beating.past beat (heartbeats ▸ member)).trans now

theorem Beating.record (beating : s.Beating) (sweepType : SweepType) (outcome : SweepOutcome)
    : (s.record sweepType outcome).Beating := by
  cases outcome with
  | thrown message => exact beating
  | processed count =>
      have own : (s.record sweepType (.processed count)).health.sweepHeartbeats sweepType
          = some ⟨s.now, count⟩ :=
        Function.update_self ..
      have kept {other : SweepType} (different : other ≠ sweepType)
          : (s.record sweepType (.processed count)).health.sweepHeartbeats other
            = s.health.sweepHeartbeats other :=
        Function.update_of_ne different ..
      refine ⟨fun other heartbeat stored => ?_, fun beat member => ?_, fun beat member => ?_⟩
      · refine List.mem_append.mpr ?_
        by_cases same : other = sweepType
        · subst same
          obtain rfl := Option.some.inj (own.symm.trans stored)
          exact Or.inr List.mem_cons_self
        · exact Or.inl (beating.recorded other heartbeat ((kept same).symm.trans stored))
      · by_cases same : beat.1 = sweepType
        · refine ⟨⟨s.now, count⟩, same ▸ own, ?_⟩
          rcases List.mem_append.mp member with before | new
          · exact beating.past beat before
          · obtain rfl := List.mem_singleton.mp new
            exact le_rfl
        · rw [kept same]
          rcases List.mem_append.mp member with before | new
          · exact beating.latest beat before
          · obtain rfl := List.mem_singleton.mp new
            exact absurd rfl same
      · rcases List.mem_append.mp member with before | new
        · exact beating.past beat before
        · obtain rfl := List.mem_singleton.mp new
          exact le_rfl

theorem decrementActiveJobs_sweepHeartbeats {health : WorkerHealthTelemetry}
    : health.decrementActiveJobs.sweepHeartbeats = health.sweepHeartbeats := by
  unfold WorkerHealthTelemetry.decrementActiveJobs
  split <;> rfl

theorem Stepped.beating (stepped : Stepped s next) (beating : s.Beating) : next.Beating := by
  cases stepped with
  | elapsed milliseconds => exact beating.calm rfl rfl (Nat.le_add_right ..)
  | moved found moved =>
      cases moved with
      | continued outcome before more => exact (beating.record _ outcome).calm rfl rfl le_rfl
      | ended outcome before after thrown =>
          exact (beating.record _ outcome).calm decrementActiveJobs_sweepHeartbeats rfl le_rfl
      | _ => exact beating.calm rfl rfl le_rfl
  | _ => exact beating.calm rfl rfl le_rfl

theorem Runs.beating {count : Nat} (runs : (start count).Runs livenessByDefault s)
    : s.Beating := by
  induction runs with
  | refl => exact ⟨by simp [start], by simp [start], by simp [start]⟩
  | step _ taken ih => exact (step_stepped taken).beating ih

theorem Beating.hasFreshSweep_iff (beating : s.Beating) {maxSweepAgeMs : Int}
    : s.health.hasFreshSweep s.now maxSweepAgeMs = true
      ↔ ∃ beat ∈ s.heartbeats, (s.now : Int) - beat.2.lastSweepAt ≤ maxSweepAgeMs := by
  unfold WorkerHealthTelemetry.hasFreshSweep
  constructor
  · intro fresh
    obtain ⟨sweepType, -, found⟩ := List.any_eq_true.mp fresh
    obtain ⟨heartbeat, stored, young⟩ := (Option.any_eq_true _ _).mp found
    exact ⟨_, beating.recorded sweepType heartbeat stored, of_decide_eq_true young⟩
  · rintro ⟨beat, member, young⟩
    obtain ⟨heartbeat, stored, later⟩ := beating.latest beat member
    refine List.any_eq_true.mpr ⟨beat.1, by cases beat.1 <;> decide, ?_⟩
    simp only [stored, Option.any_some, decide_eq_true_eq]
    omega

theorem statusCode_eq_200_iff (health : WorkerHealthTelemetry) (now pid : Nat)
    (maxSweepAgeMs : Int) (method : String) (url : Option String)
    : (livenessReply health now pid maxSweepAgeMs method url).statusCode = 200
      ↔ (method = "GET" ∧ (url.getD "").toList.takeWhile (· ≠ '?') = "/health".toList)
        ∧ health.lifecycleState = .RUNNING ∧ health.hasFreshSweep now maxSweepAgeMs = true := by
  unfold livenessReply
  dsimp only
  split
  · rename_i elsewhere
    simp only [LivenessReply.statusCode, show (404 : Nat) ≠ 200 by decide, false_iff]
    rintro ⟨⟨rfl, here⟩, -⟩
    exact elsewhere.elim (· rfl) (· here)
  · rename_i here
    rw [not_or, not_not, not_not] at here
    have well : (health.getHealthSnapshot now pid maxSweepAgeMs).state = .HEALTHY
        ↔ health.lifecycleState = .RUNNING
          ∧ health.hasFreshSweep now maxSweepAgeMs = true := by
      unfold WorkerHealthTelemetry.getHealthSnapshot
      cases health.lifecycleState <;> cases health.hasFreshSweep now maxSweepAgeMs <;> simp
    rw [← well]
    simp only [LivenessReply.statusCode, here, and_self, true_and]
    split <;> simp_all

/-- The endpoint answers 200 exactly where a GET request for `/health` finds a worker that has
been started and not stopped and of which some daemon has done its work not too long ago,
however many others hang or fail. By the invariant that the telemetry keeps the last heartbeat
of each daemon.
-/
theorem liveness_healthy_iff {count : Nat} (runs : (start count).Runs livenessByDefault s)
    (pid : Nat) (maxSweepAgeMs : Int) (method : String) (url : Option String)
    : (livenessReply s.health s.now pid maxSweepAgeMs method url).statusCode = 200
      ↔ (method = "GET" ∧ (url.getD "").toList.takeWhile (· ≠ '?') = "/health".toList)
        ∧ s.health.lifecycleState = .RUNNING
        ∧ ∃ beat ∈ s.heartbeats, (s.now : Int) - beat.2.lastSweepAt ≤ maxSweepAgeMs := by
  rw [statusCode_eq_200_iff, runs.beating.hasFreshSweep_iff]

/-- After the first heartbeat the endpoint answers 200. -/
theorem liveness_healthy_iff_firstHeartbeat
    : ∃ s, (start 1).Runs true s
      ∧ (livenessReply s.health s.now 1 120000 "GET" (some "/health?probe=1")).statusCode = 200 := by
  have played : ((start 1).play true firstHeartbeat).map
      (fun s => (s.now, s.health.lifecycleState, s.heartbeats))
      = some (0, .RUNNING, [(.settlement, ⟨0, 2⟩)]) := by
    decide +kernel
  obtain ⟨s, reached, seen⟩ := Option.map_eq_some_iff.mp played
  obtain ⟨now, running, beats⟩ : s.now = 0 ∧ s.health.lifecycleState = .RUNNING
      ∧ s.heartbeats = [(.settlement, ⟨0, 2⟩)] := by
    simpa using seen
  have runs := Runs.of_play reached
  refine ⟨s, runs, (liveness_healthy_iff runs 1 120000 "GET" _).mpr ?_⟩
  refine ⟨⟨rfl, by decide⟩, running, _, by rw [beats]; exact List.mem_cons_self, ?_⟩
  simp [now]

end WorkerProcess

end LuminaRail
