import LuminaRail.Concurrency.Program

/-! A pool of programs whose actions interleave over one shared state.
The environment may act between any two actions, and a program may crash at any of them.
-/

namespace Concurrency

variable {σ ι η : Type}

/-- Any number of programs over one shared state. -/
structure Pool (σ ι : Type) : Type 1 where
  state : σ
  thread : Tid → Program σ ι Unit

/-- What happens to the shared state besides the programs' own actions: spontaneous changes
of kinds `η`, which may depend on which programs still run, and the trace of a crash.
-/
structure Machine (σ η : Type) where
  env : (Tid → Bool) → σ → η → Option σ
  crash : Tid → σ → σ

/-- The scheduler's choices. -/
inductive Move (ι η : Type)
  | run (t : Tid) (input : ι)
  | crash (t : Tid)
  | env (change : η)

/-- The programs of the pool that have an action left. -/
def Pool.live (pool : Pool σ ι) (t : Tid) : Bool := (pool.thread t).live

/-- One step of the pool; `none` when the chosen program has ended or must wait. -/
def Pool.move (machine : Machine σ η) (pool : Pool σ ι) : Move ι η → Option (Pool σ ι)
  | .run t input =>
      match pool.thread t with
      | .done _ => none
      | .atomic act next =>
          match act t pool.state input with
          | none => none
          | some (value, s) => some ⟨s, Function.update pool.thread t (next value)⟩
  | .crash t =>
      if pool.live t then
        some ⟨machine.crash t pool.state, Function.update pool.thread t (.done ())⟩
      else
        none
  | .env change => (machine.env pool.live pool.state change).map fun s => ⟨s, pool.thread⟩

/-- `Run machine allowed pool pool'`: some interleaving leads from `pool` to `pool'`, and
every action of a program `t` from a state `s` to a state `s'` satisfies `allowed t s s'`.
-/
inductive Run (machine : Machine σ η) (allowed : Tid → σ → σ → Prop)
    : Pool σ ι → Pool σ ι → Prop
  | refl (pool : Pool σ ι) : Run machine allowed pool pool
  | step {pool middle last : Pool σ ι} (before : Run machine allowed pool middle)
    (move : Move ι η) (moved : middle.move machine move = some last)
    (permitted : ∀ t input, move = .run t input → allowed t middle.state last.state)
    : Run machine allowed pool last

/-- Every interleaving at all. -/
abbrev AnyRun (machine : Machine σ η) : Pool σ ι → Pool σ ι → Prop :=
  Run machine fun _ _ _ => True

/-- Some interleaving, every move of which satisfies a condition on the pools around it. -/
inductive Steps (machine : Machine σ η) (condition : Pool σ ι → Pool σ ι → Prop)
    : Pool σ ι → Pool σ ι → Prop
  | refl (pool : Pool σ ι) : Steps machine condition pool pool
  | step {pool middle last : Pool σ ι} (before : Steps machine condition pool middle)
    (move : Move ι η) (moved : middle.move machine move = some last)
    (permitted : condition middle last)
    : Steps machine condition pool last

/-- The steps of a schedule, in order. -/
def Pool.schedule (machine : Machine σ η) : Pool σ ι → List (Move ι η) → Option (Pool σ ι)
  | pool, [] => some pool
  | pool, move :: rest => (pool.move machine move).bind fun next => next.schedule machine rest

/-- An action of a program passes the check; all other moves do. -/
def Move.passes (check : Tid → σ → σ → Bool) (before after : σ) : Move ι η → Bool
  | .run t _ => check t before after
  | _ => true

/-- The steps of a schedule in which every action of a program passes a check. -/
def Pool.checkedSchedule (machine : Machine σ η) (check : Tid → σ → σ → Bool)
    : Pool σ ι → List (Move ι η) → Option (Pool σ ι)
  | pool, [] => some pool
  | pool, move :: rest =>
      (pool.move machine move).bind fun next =>
        if move.passes check pool.state next.state then next.checkedSchedule machine check rest
        else none

theorem Steps.run {machine : Machine σ η} {condition : Pool σ ι → Pool σ ι → Prop}
    {pool last : Pool σ ι} (steps : Steps machine condition pool last)
    : AnyRun machine pool last := by
  induction steps with
  | refl => exact .refl _
  | step _ move moved _ ih => exact ih.step move moved fun _ _ _ => trivial

theorem Steps.mono {machine : Machine σ η} {condition weaker : Pool σ ι → Pool σ ι → Prop}
    {pool last : Pool σ ι} (steps : Steps machine condition pool last)
    (implies : ∀ before after, condition before after → weaker before after)
    : Steps machine weaker pool last := by
  induction steps with
  | refl => exact .refl _
  | step _ move moved permitted ih => exact ih.step move moved (implies _ _ permitted)

/-- A condition on the pools may imply one on each action. -/
theorem Steps.allowed {machine : Machine σ η} {condition : Pool σ ι → Pool σ ι → Prop}
    {allowed : Tid → σ → σ → Prop} {pool last : Pool σ ι} (steps : Steps machine condition pool last)
    (implies : ∀ before after t input, condition before after
      → before.move machine (.run t input) = some after → allowed t before.state after.state)
    : Run machine allowed pool last := by
  induction steps with
  | refl => exact .refl _
  | step _ move moved permitted ih =>
      refine ih.step move moved fun t input same => ?_
      subst same
      exact implies _ _ t input permitted moved

/-- The moves of a schedule, each of which passes a check. -/
def Pool.scheduleWhere (machine : Machine σ η)
    (check : Pool σ ι → Move ι η → Pool σ ι → Bool)
    : Pool σ ι → List (Move ι η) → Option (Pool σ ι)
  | pool, [] => some pool
  | pool, move :: rest =>
      (pool.move machine move).bind fun next =>
        if check pool move next then next.scheduleWhere machine check rest else none

/-- Runs compose, by induction on the second. -/
theorem Run.trans {machine : Machine σ η} {allowed : Tid → σ → σ → Prop}
    {first middle last : Pool σ ι} (before : Run machine allowed first middle)
    (after : Run machine allowed middle last)
    : Run machine allowed first last := by
  induction after with
  | refl => exact before
  | step _ move moved permitted ih => exact ih.step move moved permitted

/-- What holds in the end has become true at some point of the run, or goes back to the start: if
`P` only comes about with `Q`, or holds already, there is a point at which `Q` held. By induction
on the run.
-/
theorem Run.origin {machine : Machine σ η} {allowed : Tid → σ → σ → Prop}
    {P Q : Pool σ ι → Prop} {first last : Pool σ ι} (run : Run machine allowed first last)
    (start : P first → Q first)
    (step : ∀ {pool next : Pool σ ι} (move : Move ι η), Run machine allowed first pool
      → pool.move machine move = some next
      → (∀ t input, move = .run t input → allowed t pool.state next.state)
      → P next → P pool ∨ Q next)
    (holds : P last)
    : ∃ past, Run machine allowed first past ∧ Run machine allowed past last ∧ Q past := by
  induction run with
  | refl => exact ⟨_, .refl _, .refl _, start holds⟩
  | step before move moved permitted ih =>
      rcases step move before moved permitted holds with earlier | now
      · obtain ⟨past, early, late, held⟩ := ih earlier
        exact ⟨past, early, late.step move moved permitted, held⟩
      · exact ⟨_, before.step move moved permitted, .refl _, now⟩

theorem Steps.trans {machine : Machine σ η} {condition : Pool σ ι → Pool σ ι → Prop}
    {first middle last : Pool σ ι} (before : Steps machine condition first middle)
    (after : Steps machine condition middle last)
    : Steps machine condition first last := by
  induction after with
  | refl => exact before
  | step _ move moved permitted ih => exact ih.step move moved permitted

/-- What a schedule leads to by moves that pass a check for a condition, by induction on the
schedule.
-/
theorem Steps.of_schedule {machine : Machine σ η} {condition : Pool σ ι → Pool σ ι → Prop}
    {check : Pool σ ι → Move ι η → Pool σ ι → Bool}
    (sound : ∀ {before after : Pool σ ι} {move}, before.move machine move = some after
      → check before move after = true → condition before after)
    {pool last : Pool σ ι} {moves : List (Move ι η)}
    (went : pool.scheduleWhere machine check moves = some last)
    : Steps machine condition pool last := by
  induction moves generalizing pool with
  | nil =>
      simp only [Pool.scheduleWhere, Option.some.injEq] at went
      exact went ▸ .refl pool
  | cons move rest ih =>
      obtain ⟨next, moved, later⟩ := Option.bind_eq_some_iff.mp went
      split at later
      · rename_i passes
        exact Steps.trans (.step (.refl pool) move moved (sound moved passes)) (ih later)
      · simp at later

/-- A schedule that goes through is a run, by induction on the schedule. -/
theorem AnyRun.of_schedule {machine : Machine σ η} {pool last : Pool σ ι}
    {moves : List (Move ι η)} (went : pool.schedule machine moves = some last)
    : AnyRun machine pool last := by
  induction moves generalizing pool with
  | nil =>
      simp only [Pool.schedule, Option.some.injEq] at went
      exact went ▸ .refl pool
  | cons move rest ih =>
      obtain ⟨next, moved, later⟩ := Option.bind_eq_some_iff.mp went
      exact Run.trans (.step (.refl pool) move moved fun _ _ _ => trivial) (ih later)

/-- What a schedule leads to is reached by a run. -/
theorem AnyRun.of_schedule_map {γ : Type} {machine : Machine σ η} {pool : Pool σ ι}
    {moves : List (Move ι η)} {view : Pool σ ι → γ} {value : γ}
    (went : (pool.schedule machine moves).map view = some value)
    : ∃ last, AnyRun machine pool last ∧ view last = value := by
  obtain ⟨last, reached, same⟩ := Option.map_eq_some_iff.mp went
  exact ⟨last, .of_schedule reached, same⟩

/-- What a checked schedule leads to is reached by a run of allowed actions, by induction on
the schedule.
-/
theorem Run.of_checkedSchedule {machine : Machine σ η} {check : Tid → σ → σ → Bool}
    {allowed : Tid → σ → σ → Prop} (sound : ∀ t s s', check t s s' = true → allowed t s s')
    {pool last : Pool σ ι} {moves : List (Move ι η)}
    (went : pool.checkedSchedule machine check moves = some last)
    : Run machine allowed pool last := by
  induction moves generalizing pool with
  | nil =>
      simp only [Pool.checkedSchedule, Option.some.injEq] at went
      exact went ▸ .refl pool
  | cons move rest ih =>
      obtain ⟨next, moved, later⟩ := Option.bind_eq_some_iff.mp went
      split at later
      · rename_i passes
        refine Run.trans (.step (.refl pool) move moved fun t input same => ?_) (ih later)
        subst same
        exact sound t _ _ passes
      · simp at later

/-- A program that moved had an enabled action and now runs what follows it. -/
theorem Pool.move_run {machine : Machine σ η} {pool last : Pool σ ι} {t : Tid} {input : ι}
    (moved : pool.move machine (.run t input) = some last)
    : ∃ (β : Type) (act : Tid → σ → ι → Option (β × σ)) (next : β → Program σ ι Unit)
        (value : β),
        pool.thread t = .atomic act next
        ∧ act t pool.state input = some (value, last.state)
        ∧ last.thread = Function.update pool.thread t (next value) := by
  simp only [Pool.move] at moved
  split at moved
  · simp at moved
  · rename_i β act next current
    split at moved
    · simp at moved
    · rename_i value s acted
      obtain rfl := Option.some.inj moved
      exact ⟨β, act, next, value, current, acted, rfl⟩

/-- A crash ends one live program. -/
theorem Pool.move_crash {machine : Machine σ η} {pool last : Pool σ ι} {t : Tid}
    (moved : pool.move machine (.crash t) = some last)
    : pool.live t ∧ last.state = machine.crash t pool.state
      ∧ last.thread = Function.update pool.thread t (.done ()) := by
  simp only [Pool.move] at moved
  split at moved
  · obtain rfl := Option.some.inj moved
    exact ⟨‹_›, rfl, rfl⟩
  · simp at moved

/-- An environment step leaves all programs where they are. -/
theorem Pool.move_env {machine : Machine σ η} {pool last : Pool σ ι} {change : η}
    (moved : pool.move machine (.env change) = some last)
    : machine.env pool.live pool.state change = some last.state
      ∧ last.thread = pool.thread := by
  simp only [Pool.move, Option.map_eq_some_iff] at moved
  obtain ⟨s, acted, rfl⟩ := moved
  exact ⟨acted, rfl⟩

end Concurrency
