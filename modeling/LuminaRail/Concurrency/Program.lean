import Mathlib.Control.Basic
import Mathlib.Logic.Function.Basic
import Mathlib.Order.Basic

/-! Programs that act on a shared state one atomic action at a time.
An action reads the state and one input of its environment, and may block. Between two
actions of a program the state may be changed by anybody else.
-/

namespace Concurrency

/-- The name of a running program. -/
abbrev Tid := Nat

/-- A program over shared states `σ` and environment inputs `ι` that returns an `α`.
An action that answers `none` is not enabled: the program waits.
-/
inductive Program (σ ι α : Type) : Type 1
  | done (value : α)
  | atomic {β : Type} (act : Tid → σ → ι → Option (β × σ)) (next : β → Program σ ι α)

namespace Program

variable {σ ι α β γ : Type}

/-- Sequential composition keeps the actions of the first program in front. -/
def bind : Program σ ι α → (α → Program σ ι β) → Program σ ι β
  | .done value, rest => rest value
  | .atomic act next, rest => .atomic act fun value => (next value).bind rest

instance : Monad (Program σ ι) where
  pure := .done
  bind := .bind

/-- The program of one action. -/
def action (act : Tid → σ → ι → Option (β × σ)) : Program σ ι β := .atomic act .done

/-- A program that has an action left. -/
def live : Program σ ι α → Bool
  | .done _ => false
  | .atomic _ _ => true

@[simp]
theorem done_bind (value : α) (rest : α → Program σ ι β)
    : (Program.done value).bind rest = rest value :=
  rfl

@[simp]
theorem action_bind (act : Tid → σ → ι → Option (β × σ)) (rest : β → Program σ ι α)
    : (action act).bind rest = .atomic act rest :=
  rfl

/-- Composition is associative, by induction on the first program. -/
theorem bind_assoc (program : Program σ ι α) (first : α → Program σ ι β)
    (second : β → Program σ ι γ)
    : (program.bind first).bind second = program.bind fun value => (first value).bind second := by
  induction program with
  | done _ => rfl
  | atomic act next ih => exact congrArg (Program.atomic act) (funext ih)

theorem bind_done (program : Program σ ι α) : program.bind .done = program := by
  induction program with
  | done _ => rfl
  | atomic act next ih => exact congrArg (Program.atomic act) (funext ih)

instance : LawfulMonad (Program σ ι) :=
  LawfulMonad.mk' _ bind_done (fun _ _ => rfl) bind_assoc

/-- `Alone t program s value s'`: run by thread `t` from `s` with nobody else acting, the
program can return `value` in state `s'`.
-/
inductive Alone (t : Tid) : Program σ ι α → σ → α → σ → Prop
  | done (value : α) (s : σ) : Alone t (.done value) s value s
  | atomic {β : Type} {act : Tid → σ → ι → Option (β × σ)} {next : β → Program σ ι α}
    {s s₁ s' : σ} {i : ι} {middle : β} {value : α} (acted : act t s i = some (middle, s₁))
    (rest : Alone t (next middle) s₁ value s')
    : Alone t (.atomic act next) s value s'

/-- A finished program returns its value and leaves the state alone. -/
theorem alone_done_iff {t : Tid} {value result : α} {s s' : σ}
    : Alone t (.done value : Program σ ι α) s result s' ↔ result = value ∧ s' = s := by
  constructor
  · intro run
    cases run
    exact ⟨rfl, rfl⟩
  · intro given
    obtain ⟨rfl, rfl⟩ := given
    exact .done _ _

/-- The first action of a lone run is an enabled action on the initial state. -/
theorem alone_atomic_iff {t : Tid} {act : Tid → σ → ι → Option (β × σ)}
    {next : β → Program σ ι α} {s s' : σ} {result : α}
    : Alone t (.atomic act next) s result s'
      ↔ ∃ i middle s₁, act t s i = some (middle, s₁) ∧ Alone t (next middle) s₁ result s' := by
  constructor
  · intro run
    cases run with
    | atomic acted rest => exact ⟨_, _, _, acted, rest⟩
  · intro given
    obtain ⟨i, middle, s₁, acted, rest⟩ := given
    exact .atomic acted rest

/-- A lone run of a composition is a lone run of each part, by induction on the first. -/
theorem alone_bind_iff {t : Tid} {program : Program σ ι α} {rest : α → Program σ ι β}
    {s s' : σ} {result : β}
    : Alone t (program.bind rest) s result s'
      ↔ ∃ middle s₁, Alone t program s middle s₁ ∧ Alone t (rest middle) s₁ result s' := by
  induction program generalizing s with
  | done value =>
      simp only [bind, alone_done_iff, and_assoc, exists_eq_left, exists_and_left]
  | atomic act next ih =>
      simp only [bind, alone_atomic_iff, ih]
      constructor
      · intro given
        obtain ⟨i, value, s₁, acted, middle, s₂, first, second⟩ := given
        exact ⟨middle, s₂, ⟨i, value, s₁, acted, first⟩, second⟩
      · intro given
        obtain ⟨middle, s₂, ⟨i, value, s₁, acted, first⟩, second⟩ := given
        exact ⟨i, value, s₁, acted, middle, s₂, first, second⟩

/-- Run a program alone on a list of inputs, one for each action. -/
def evalAlone (t : Tid) : Program σ ι α → σ → List ι → Option (α × σ)
  | .done value, s, _ => some (value, s)
  | .atomic _ _, _, [] => none
  | .atomic act next, s, i :: rest =>
      match act t s i with
      | none => none
      | some (value, s₁) => evalAlone t (next value) s₁ rest

/-- Two compositions run alike if they go on alike after all runs of the first part, by induction on
it.
-/
theorem evalAlone_bind_congr {t : Tid} {program : Program σ ι α} {rest rest' : α → Program σ ι β}
    {s : σ} {inputs : List ι}
    (same
      : ∀ value s₁ later,
          Alone t program s value s₁
          → (rest value).evalAlone t s₁ later = (rest' value).evalAlone t s₁ later)
    : (program.bind rest).evalAlone t s inputs = (program.bind rest').evalAlone t s inputs := by
  induction program generalizing s inputs with
  | done value => exact same value s inputs (.done _ _)
  | atomic act next ih =>
      cases inputs with
      | nil => rfl
      | cons i later =>
          simp only [bind, evalAlone]
          cases acted : act t s i with
          | none => rfl
          | some taken =>
              exact ih taken.1 fun value s₁ later rest =>
                same value s₁ later (.atomic acted rest)

/-- An evaluated run is a lone run, by induction on the program. -/
theorem alone_of_evalAlone {t : Tid} {program : Program σ ι α} {s s' : σ} {inputs : List ι}
    {result : α} (evaluated : program.evalAlone t s inputs = some (result, s'))
    : Alone t program s result s' := by
  induction program generalizing s inputs with
  | done value =>
      simp only [evalAlone, Option.some.injEq, Prod.mk.injEq] at evaluated
      obtain ⟨rfl, rfl⟩ := evaluated
      exact .done _ _
  | atomic act next ih =>
      cases inputs with
      | nil => simp [evalAlone] at evaluated
      | cons i rest =>
          cases acted : act t s i with
          | none => simp [evalAlone, acted] at evaluated
          | some middle =>
              simp only [evalAlone, acted] at evaluated
              exact .atomic acted (ih _ evaluated)

/-- A value that an evaluated run returns is returned by a lone run. -/
theorem exists_alone_of_evalAlone {t : Tid} {program : Program σ ι α} {s : σ} (inputs : List ι)
    {result : α} (evaluated : (program.evalAlone t s inputs).map Prod.fst = some result)
    : ∃ s', Alone t program s result s' := by
  obtain ⟨⟨value, s'⟩, reached, rfl⟩ := Option.map_eq_some_iff.mp evaluated
  exact ⟨s', alone_of_evalAlone reached⟩

/-- What remains of a program after some of its actions. -/
inductive Rest : Program σ ι α → Program σ ι α → Prop
  | next {β : Type} (act : Tid → σ → ι → Option (β × σ)) (next : β → Program σ ι α) (value : β)
    : Rest (next value) (.atomic act next)
  | later {β : Type} (act : Tid → σ → ι → Option (β × σ)) (next : β → Program σ ι α) (value : β)
    {rest : Program σ ι α} (earlier : Rest rest (next value))
    : Rest rest (.atomic act next)

theorem Rest.live {program rest : Program σ ι α} (remains : Rest rest program)
    : program.live = true := by
  cases remains <;> rfl

theorem Rest.cases {act : Tid → σ → ι → Option (β × σ)} {next : β → Program σ ι α}
    {rest : Program σ ι α} (remains : Rest rest (.atomic act next))
    : ∃ value, rest = next value ∨ Rest rest (next value) := by
  cases remains with
  | next _ _ value => exact ⟨value, Or.inl rfl⟩
  | later _ _ value earlier => exact ⟨value, Or.inr earlier⟩

theorem Rest.trans {first second third : Program σ ι α} (late : Rest first second)
    (early : Rest second third)
    : Rest first third := by
  induction early with
  | next act next value => exact .later act next value late
  | later act next value _ ih => exact .later act next value (ih late)

/-- A program never gets back to where it was, by induction on it. -/
theorem Rest.irrefl (program : Program σ ι α) : ¬Rest program program := by
  induction program with
  | done value => exact fun remains => Bool.false_ne_true remains.live
  | atomic act next ih =>
      intro remains
      obtain ⟨value, same | earlier⟩ := remains.cases
      · exact ih value (same ▸ .next act next value)
      · exact ih value (Rest.trans (.next act next value) earlier)

end Program

end Concurrency
