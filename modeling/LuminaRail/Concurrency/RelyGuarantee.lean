import LuminaRail.Concurrency.Pool
import Mathlib.Control.Monad.Basic

/-! Rely-guarantee reasoning about a pool of programs.
A program is verified once, against what the others may do to the state between its actions;
the soundness theorem puts the verified programs together.
-/

namespace Concurrency

variable {σ ι η α β ε : Type}

/-- What the programs of a pool agree on: an invariant of the shared state, what a program
may rely on the others to do, what it guarantees about its own actions, and which of its
actions are taken into account at all.
-/
structure Protocol (σ : Type) where
  inv : σ → Prop
  rely : Tid → σ → σ → Prop
  guar : Tid → σ → σ → Prop
  allowed : Tid → σ → σ → Prop
  rely_refl : ∀ t s, rely t s s
  rely_trans : ∀ {t s s₁ s₂}, rely t s s₁ → rely t s₁ s₂ → rely t s s₂
  guar_rely : ∀ {t u s s'}, u ≠ t → inv s → inv s' → guar u s s' → rely t s s'

namespace Protocol

variable (Γ : Protocol σ)

/-- `Safe t Q program s`: run by `t` from `s`, every action keeps the invariant and the
guarantee, whatever the others do before it, and the final value satisfies `Q` when the last
action has just been made.
-/
def Safe (t : Tid) (Q : α → σ → Prop) : Program σ ι α → σ → Prop
  | .done value, s => Q value s
  | .atomic act next, s =>
      ∀ s', Γ.rely t s s' → Γ.inv s' →
        ∀ input value s'', act t s' input = some (value, s'') → Γ.allowed t s' s'' →
          Γ.inv s'' ∧ Γ.guar t s' s'' ∧ Safe t Q (next value) s''

/-- An assertion that the other programs cannot falsify. -/
def Stable (t : Tid) (P : σ → Prop) : Prop :=
  ∀ s s', Γ.inv s → Γ.inv s' → Γ.rely t s s' → P s → P s'

/-- The Hoare triple of a program. -/
def Triple (t : Tid) (P : σ → Prop) (program : Program σ ι α) (Q : α → σ → Prop) : Prop :=
  ∀ s, Γ.inv s → P s → Γ.Safe t Q program s

variable {Γ} {t : Tid} {P P' : σ → Prop} {Q Q' : α → σ → Prop}

-----------------------------------------------------------------------------------------
-- Safety of a single program
-----------------------------------------------------------------------------------------

/-- A program that has returned is safe where its postcondition holds. -/
theorem Safe.done {value : α} {s : σ} (holds : Q value s)
    : Γ.Safe t Q (.done value : Program σ ι α) s :=
  holds

/-- A program is safe if every result of its next action is, whatever the others did before. -/
theorem Safe.atomic {act : Tid → σ → ι → Option (β × σ)} {next : β → Program σ ι α} {s : σ}
    (acts : ∀ s', Γ.rely t s s' → Γ.inv s' → ∀ input value s'',
      act t s' input = some (value, s'') → Γ.allowed t s' s''
      → Γ.inv s'' ∧ Γ.guar t s' s'' ∧ Γ.Safe t Q (next value) s'')
    : Γ.Safe t Q (.atomic act next) s :=
  acts

/-- The safety of a program that still runs survives the steps of the others. -/
theorem Safe.rely {program : Program σ ι α} {s s' : σ} (safe : Γ.Safe t Q program s)
    (running : program.live) (moved : Γ.rely t s s')
    : Γ.Safe t Q program s' := by
  cases program with
  | done value => simp [Program.live] at running
  | atomic act next => exact fun s₂ later => safe s₂ (Γ.rely_trans moved later)

/-- A weaker postcondition is safe as well, by induction on the program. -/
theorem Safe.mono {program : Program σ ι α} {s : σ} (safe : Γ.Safe t Q program s)
    (holds : Γ.inv s) (weaker : ∀ value s, Γ.inv s → Q value s → Q' value s)
    : Γ.Safe t Q' program s := by
  induction program generalizing s with
  | done value => exact weaker value s holds safe
  | atomic act next ih =>
      intro s' moved holds' input value s'' acted allowed
      obtain ⟨kept, guaranteed, rest⟩ := safe s' moved holds' input value s'' acted allowed
      exact ⟨kept, guaranteed, ih value rest kept⟩

/-- What neither the others nor the program can falsify stays, by induction on the program. -/
theorem Safe.frame {program : Program σ ι α} {s : σ} {R : σ → Prop} (safe : Γ.Safe t Q program s)
    (rely : ∀ {s s'}, Γ.rely t s s' → R s → R s') (guar : ∀ {s s'}, Γ.guar t s s' → R s → R s')
    (holds : R s)
    : Γ.Safe t (fun value s => Q value s ∧ R s) program s := by
  induction program generalizing s with
  | done value => exact ⟨safe, holds⟩
  | atomic act next ih =>
      intro s' moved inv input value s'' acted allowed
      obtain ⟨kept, guaranteed, rest⟩ := safe s' moved inv input value s'' acted allowed
      exact ⟨kept, guaranteed, ih value rest (guar guaranteed (rely moved holds))⟩

/-- A program that is safe with two postconditions is safe with both, by induction on it. -/
theorem Safe.and {program : Program σ ι α} {s : σ} (first : Γ.Safe t Q program s)
    (second : Γ.Safe t Q' program s)
    : Γ.Safe t (fun value s => Q value s ∧ Q' value s) program s := by
  induction program generalizing s with
  | done value => exact ⟨first, second⟩
  | atomic act next ih =>
      intro s' moved inv input value s'' acted allowed
      obtain ⟨kept, guaranteed, rest⟩ := first s' moved inv input value s'' acted allowed
      obtain ⟨_, _, rest'⟩ := second s' moved inv input value s'' acted allowed
      exact ⟨kept, guaranteed, ih value rest rest'⟩

/-- Safety of a composition, by induction on the first program. -/
theorem Safe.bind {program : Program σ ι α} {rest : α → Program σ ι β} {s : σ}
    {R : β → σ → Prop} (first : Γ.Safe t Q program s)
    (second : ∀ value, Γ.Triple t (Q value) (rest value) R) (holds : Γ.inv s)
    : Γ.Safe t R (program.bind rest) s := by
  induction program generalizing s with
  | done value => exact second value s holds first
  | atomic act next ih =>
      intro s' moved holds' input value s'' acted allowed
      obtain ⟨kept, guaranteed, later⟩ := first s' moved holds' input value s'' acted allowed
      exact ⟨kept, guaranteed, ih value later kept⟩

/-- A lone run of a safe program whose actions are all allowed ends in the postcondition, by
induction on the run.
-/
theorem Safe.alone {program : Program σ ι α} {s s' : σ} {value : α}
    (safe : Γ.Safe t Q program s) (holds : Γ.inv s) (allowed : ∀ s s', Γ.allowed t s s')
    (run : Program.Alone t program s value s')
    : Γ.inv s' ∧ Q value s' := by
  induction run with
  | done value s => exact ⟨holds, safe⟩
  | atomic acted rest ih =>
      obtain ⟨kept, _, later⟩ :=
        safe _ (Γ.rely_refl t _) holds _ _ _ acted (allowed _ _)
      exact ih later kept

/-- A fact that is not about the state is stable. -/
theorem Stable.const (p : Prop) : Γ.Stable t fun _ => p :=
  fun _ _ _ _ _ holds => holds

/-- Two stable facts are stable together. -/
theorem Stable.and (first : Γ.Stable t P) (second : Γ.Stable t P')
    : Γ.Stable t fun s => P s ∧ P' s :=
  fun s s' before after moved holds =>
    ⟨first s s' before after moved holds.1, second s s' before after moved holds.2⟩

/-- Either of two stable facts is stable. -/
theorem Stable.or (first : Γ.Stable t P) (second : Γ.Stable t P')
    : Γ.Stable t fun s => P s ∨ P' s :=
  fun s s' before after moved holds =>
    holds.imp (first s s' before after moved) (second s s' before after moved)

/-- A stable fact about some index is stable. -/
theorem Stable.exists {γ : Sort*} {family : γ → σ → Prop}
    (each : ∀ index, Γ.Stable t (family index))
    : Γ.Stable t fun s => ∃ index, family index s :=
  fun s s' before after moved ⟨index, holds⟩ =>
    ⟨index, each index s s' before after moved holds⟩

/-- A fact that is stable under a condition is stable as an implication. -/
theorem Stable.imp (p : Prop) (stable : p → Γ.Stable t P) : Γ.Stable t fun s => p → P s :=
  fun s s' before after moved holds given => stable given s s' before after moved (holds given)

/-- The rule for a program that has returned. -/
theorem Triple.done (value : α) : Γ.Triple t (Q value) (.done value : Program σ ι α) Q :=
  fun _ _ given => given

/-- One action: its precondition must survive waiting for the action's turn. -/
theorem Triple.atomic {act : Tid → σ → ι → Option (β × σ)} {next : β → Program σ ι α}
    {M : β → σ → Prop} (stable : Γ.Stable t P)
    (acts : ∀ s input value s', Γ.inv s → P s → act t s input = some (value, s')
      → Γ.allowed t s s' → Γ.inv s' ∧ Γ.guar t s s' ∧ M value s')
    (rest : ∀ value, Γ.Triple t (M value) (next value) Q)
    : Γ.Triple t P (.atomic act next) Q := by
  intro s holds given s' moved holds' input value s'' acted allowed
  have waited := stable s s' holds holds' moved given
  obtain ⟨kept, guaranteed, reached⟩ := acts s' input value s'' holds' waited acted allowed
  exact ⟨kept, guaranteed, rest value s'' kept reached⟩

/-- The rule for two programs in sequence. -/
theorem Triple.bind {program : Program σ ι α} {rest : α → Program σ ι β} {R : β → σ → Prop}
    (first : Γ.Triple t P program Q) (second : ∀ value, Γ.Triple t (Q value) (rest value) R)
    : Γ.Triple t P (program.bind rest) R :=
  fun s holds given => (first s holds given).bind second holds

/-- The rule of consequence. -/
theorem Triple.conseq {program : Program σ ι α} (triple : Γ.Triple t P program Q)
    (stronger : ∀ s, Γ.inv s → P' s → P s)
    (weaker : ∀ value s, Γ.inv s → Q value s → Q' value s)
    : Γ.Triple t P' program Q' :=
  fun s holds given => (triple s holds (stronger s holds given)).mono holds weaker

-----------------------------------------------------------------------------------------
-- Programs that may throw
-----------------------------------------------------------------------------------------

/-- The postcondition of a fallible program, from one for each way it can end. -/
def outcome (Q : α → σ → Prop) (E : ε → σ → Prop) : Except ε α → σ → Prop
  | .ok value => Q value
  | .error error => E error

variable (Γ) in
/-- The Hoare triple of a fallible program: `Q` when it returns and `E` when it throws. -/
def Spec (t : Tid) (P : σ → Prop) (program : ExceptT ε (Program σ ι) α) (Q : α → σ → Prop)
    (E : ε → σ → Prop) : Prop :=
  Γ.Triple t P program.run (outcome Q E)

variable {E E' : ε → σ → Prop}

/-- A program that is safe wherever its precondition holds meets its specification. -/
theorem Spec.of_safe {program : ExceptT ε (Program σ ι) α}
    (safe : ∀ s, Γ.inv s → P s → Γ.Safe t (outcome Q E) program.run s)
    : Γ.Spec t P program Q E :=
  safe

/-- A program that meets its specification is safe wherever its precondition holds. -/
theorem Spec.safe {program : ExceptT ε (Program σ ι) α} {s : σ} (spec : Γ.Spec t P program Q E)
    (holds : Γ.inv s) (given : P s)
    : Γ.Safe t (outcome Q E) program.run s :=
  spec s holds given

/-- The rule for a program that only returns. -/
theorem Spec.pure (value : α) (holds : ∀ s, Γ.inv s → P s → Q value s)
    : Γ.Spec t P (pure value : ExceptT ε (Program σ ι) α) Q E :=
  fun s inv given => holds s inv given

/-- The rule for a program that only throws. -/
theorem Spec.throw (error : ε) (holds : ∀ s, Γ.inv s → P s → E error s)
    : Γ.Spec t P (throw error : ExceptT ε (Program σ ι) α) Q E :=
  fun s inv given => holds s inv given

/-- One action: its precondition must survive waiting for the action's turn. -/
theorem Spec.action {act : Tid → σ → ι → Option (Except ε α × σ)} (stable : Γ.Stable t P)
    (acts : ∀ s input result s', Γ.inv s → P s → act t s input = some (result, s')
      → Γ.allowed t s s' → Γ.inv s' ∧ Γ.guar t s s' ∧ outcome Q E result s')
    : Γ.Spec t P (ExceptT.mk (Program.action act)) Q E :=
  Triple.atomic stable acts fun result => Triple.done result

/-- A thrown error skips the rest. -/
theorem Spec.bind {program : ExceptT ε (Program σ ι) α} {rest : α → ExceptT ε (Program σ ι) β}
    {R : β → σ → Prop} (first : Γ.Spec t P program Q E)
    (second : ∀ value, Γ.Spec t (Q value) (rest value) R E)
    : Γ.Spec t P (program >>= rest) R E := by
  refine Triple.bind first fun result => ?_
  cases result with
  | ok value => exact second value
  | error error => exact Triple.done (Q := outcome R E) (Except.error error)

/-- A handler continues from the error's postcondition. -/
theorem Spec.tryCatch {program : ExceptT ε (Program σ ι) α}
    {handler : ε → ExceptT ε (Program σ ι) α} (body : Γ.Spec t P program Q E)
    (handled : ∀ error, Γ.Spec t (E error) (handler error) Q E')
    : Γ.Spec t P (tryCatch program handler) Q E' := by
  refine Triple.bind body fun result => ?_
  cases result with
  | ok value => exact Triple.done (Q := outcome Q E') (Except.ok value)
  | error error => exact handled error

/-- A function of the result moves into the postcondition. -/
theorem Spec.map {program : ExceptT ε (Program σ ι) α} {f : α → β} {R : β → σ → Prop}
    (spec : Γ.Spec t P program (fun value => R (f value)) E)
    : Γ.Spec t P (f <$> program) R E := by
  refine Triple.bind spec fun result => ?_
  cases result with
  | ok value => exact Triple.done (Q := outcome R E) (Except.ok (f value))
  | error error => exact Triple.done (Q := outcome R E) (Except.error error)

/-- The rule of consequence, with the invariant at hand. -/
theorem Spec.conseq {program : ExceptT ε (Program σ ι) α} (spec : Γ.Spec t P program Q E)
    (stronger : ∀ s, Γ.inv s → P' s → P s)
    (weaker : ∀ value s, Γ.inv s → Q value s → Q' value s)
    (throws : ∀ error s, Γ.inv s → E error s → E' error s)
    : Γ.Spec t P' program Q' E' := by
  refine Triple.conseq spec stronger fun result => ?_
  cases result with
  | ok value => exact weaker value
  | error error => exact throws error

/-- A precondition can be strengthened. -/
theorem Spec.pre {program : ExceptT ε (Program σ ι) α} (spec : Γ.Spec t P program Q E)
    (stronger : ∀ s, Γ.inv s → P' s → P s)
    : Γ.Spec t P' program Q E :=
  spec.conseq stronger (fun _ _ _ holds => holds) fun _ _ _ holds => holds

/-- A specification whose postconditions do not matter. -/
theorem Spec.forget {program : ExceptT ε (Program σ ι) α} (spec : Γ.Spec t P program Q E)
    : Γ.Spec t P program (fun _ _ => True) fun _ _ => True :=
  spec.conseq (fun _ _ given => given) (fun _ _ _ _ => trivial) fun _ _ _ _ => trivial

/-- Two specifications hold together. -/
theorem Spec.and {program : ExceptT ε (Program σ ι) α} (first : Γ.Spec t P program Q E)
    (second : Γ.Spec t P program Q' E')
    : Γ.Spec t P program (fun value s => Q value s ∧ Q' value s) fun error s =>
        E error s ∧ E' error s := by
  intro s holds given
  refine ((first s holds given).and (second s holds given)).mono holds fun result s _ ended => ?_
  cases result with
  | ok value => exact ended
  | error error => exact ended

/-- What no step falsifies still holds in the end. -/
theorem Spec.frame {program : ExceptT ε (Program σ ι) α} {R : σ → Prop}
    (spec : Γ.Spec t P program Q E) (rely : ∀ {s s'}, Γ.rely t s s' → R s → R s')
    (guar : ∀ {s s'}, Γ.guar t s s' → R s → R s')
    : Γ.Spec t (fun s => P s ∧ R s) program (fun value s => Q value s ∧ R s) fun error s =>
        E error s ∧ R s := by
  intro s holds given
  refine ((spec s holds given.1).frame rely guar given.2).mono holds fun result s _ ended => ?_
  cases result with
  | ok value => exact ended
  | error error => exact ended

/-- A case distinction on what holds when the program starts. -/
theorem Spec.or {program : ExceptT ε (Program σ ι) α} (first : Γ.Spec t P program Q E)
    (second : Γ.Spec t P' program Q E)
    : Γ.Spec t (fun s => P s ∨ P' s) program Q E :=
  fun s holds given => given.elim (first s holds) (second s holds)

/-- What is done whichever case it is. -/
theorem Spec.exists {γ : Sort*} {P : γ → σ → Prop} {program : ExceptT ε (Program σ ι) α}
    (each : ∀ case, Γ.Spec t (P case) program Q E)
    : Γ.Spec t (fun s => ∃ case, P case s) program Q E := by
  refine Spec.of_safe fun s holds given => ?_
  obtain ⟨case, given⟩ := given
  exact (each case).safe holds given

/-- Facts that do not depend on the state are hypotheses. -/
theorem Spec.assume {p : Prop} {program : ExceptT ε (Program σ ι) α}
    (spec : p → Γ.Spec t P program Q E)
    : Γ.Spec t (fun s => p ∧ P s) program Q E :=
  fun s holds given => spec given.1 s holds given.2

/-- A loop keeps what each of its rounds keeps, by induction on the list. -/
theorem Spec.forM {items : List β} {body : β → ExceptT ε (Program σ ι) Unit}
    (each : ∀ item ∈ items, Γ.Spec t P (body item) (fun _ => P) E)
    : Γ.Spec t P (items.forM body) (fun _ => P) E := by
  induction items with
  | nil => exact Spec.pure _ fun _ _ given => given
  | cons item items ih =>
      exact Spec.bind (each item List.mem_cons_self) fun _ =>
        ih fun other member => each other (List.mem_cons_of_mem item member)

/-- The protocol of a program that nobody interferes with. -/
def alone (t : Tid) : Protocol σ where
  inv _ := True
  rely u before after := u = t → before = after
  guar u before after := u ≠ t → before = after
  allowed _ _ _ := True
  rely_refl _ _ _ := rfl
  rely_trans first second own := (first own).trans (second own)
  guar_rely other _ _ guaranteed own := guaranteed fun same => other (same.trans own.symm)

/-- A lone run ends in the postcondition of a specification that relies on nobody acting. -/
theorem Spec.of_alone {program : ExceptT ε (Program σ ι) α} {s s' : σ} {result : Except ε α}
    (spec : (alone t).Spec t P program Q E) (given : P s)
    (run : Program.Alone t program.run s result s')
    : outcome Q E result s' :=
  ((spec.safe trivial given).alone trivial (fun _ _ => trivial) run).2

/-- The protocol of programs whose actions moreover are as vowed, which nobody relies on. -/
def vowing (Γ : Protocol σ) (vow : Tid → σ → σ → Prop) : Protocol σ where
  inv := Γ.inv
  rely := Γ.rely
  guar t s s' := Γ.guar t s s' ∧ vow t s s'
  allowed := Γ.allowed
  rely_refl := Γ.rely_refl
  rely_trans := Γ.rely_trans
  guar_rely other holds holds' guaranteed := Γ.guar_rely other holds holds' guaranteed.1

-- A specification is not to be unfolded into what happens at each action.
attribute [irreducible] Spec

end Protocol

-----------------------------------------------------------------------------------------
-- Soundness
-----------------------------------------------------------------------------------------

/-- The invariant holds and every program that still runs is safe. -/
structure Pool.Verified (Γ : Protocol σ) (pool : Pool σ ι) : Prop where
  inv : Γ.inv pool.state
  safe : ∀ t, pool.live t → Γ.Safe t (fun _ _ => True) (pool.thread t) pool.state

/-- The machine's own steps fit the protocol. -/
structure Machine.Fits (machine : Machine σ η) (Γ : Protocol σ) : Prop where
  env : ∀ live s change s', Γ.inv s → machine.env live s change = some s'
    → Γ.inv s' ∧ ∀ t, live t → Γ.rely t s s'
  crash : ∀ t s, Γ.inv s → Γ.inv (machine.crash t s)
    ∧ ∀ u, u ≠ t → Γ.rely u s (machine.crash t s)

/-- A vow asks nothing of the machine. -/
theorem Machine.Fits.vowing {machine : Machine σ η} {Γ : Protocol σ} (fits : machine.Fits Γ)
    (vow : Tid → σ → σ → Prop)
    : machine.Fits (Γ.vowing vow) :=
  ⟨fits.env, fits.crash⟩

variable {Γ : Protocol σ} {machine : Machine σ η} {pool last : Pool σ ι}

/-- Who keeps its vow is safe without it, by induction on the program. -/
theorem Protocol.Safe.unvowed {vow : Tid → σ → σ → Prop} {t : Tid} {Q : α → σ → Prop}
    {program : Program σ ι α} {s : σ} (safe : (Γ.vowing vow).Safe t Q program s)
    : Γ.Safe t Q program s := by
  induction program generalizing s with
  | done value => exact safe
  | atomic act next ih =>
      intro s' moved holds input value s'' acted allowed
      obtain ⟨kept, guaranteed, rest⟩ := safe s' moved holds input value s'' acted allowed
      exact ⟨kept, guaranteed.1, ih value rest⟩

/-- A pool that is verified under a vow is verified without it. -/
theorem Pool.Verified.unvowed {vow : Tid → σ → σ → Prop}
    (verified : pool.Verified (Γ.vowing vow))
    : pool.Verified Γ :=
  ⟨verified.inv, fun t running => (verified.safe t running).unvowed⟩

/-- One action of a verified pool keeps the guarantee and leaves the pool verified. -/
theorem Pool.Verified.run {t : Tid} {input : ι} (verified : pool.Verified Γ)
    (moved : pool.move machine (.run t input) = some last)
    (allowed : Γ.allowed t pool.state last.state)
    : Γ.guar t pool.state last.state ∧ last.Verified Γ := by
  obtain ⟨β, act, next, value, current, acted, threads⟩ := Pool.move_run moved
  have running : pool.live t = true := by simp [Pool.live, current, Program.live]
  have safe := verified.safe t running
  rw [current] at safe
  obtain ⟨kept, guaranteed, rest⟩ :=
    safe _ (Γ.rely_refl t _) verified.inv input value _ acted allowed
  refine ⟨guaranteed, kept, fun u alive => ?_⟩
  by_cases own : u = t
  · subst own
    simpa [threads] using rest
  · have other : last.thread u = pool.thread u := by simp [threads, own]
    have alive' : (pool.thread u).live = true := by simpa [Pool.live, other] using alive
    rw [other]
    have before : pool.live u = true := alive'
    exact (verified.safe u before).rely alive'
      (Γ.guar_rely (Ne.symm own) verified.inv kept guaranteed)

/-- Any move of a verified pool leaves it verified. -/
theorem Pool.Verified.move (fits : machine.Fits Γ) (verified : pool.Verified Γ)
    {move : Move ι η} (moved : pool.move machine move = some last)
    (allowed : ∀ t input, move = .run t input → Γ.allowed t pool.state last.state)
    : last.Verified Γ := by
  cases move with
  | run t input => exact (verified.run moved (allowed t input rfl)).2
  | crash t =>
      obtain ⟨alive, state, threads⟩ := Pool.move_crash moved
      obtain ⟨kept, relied⟩ := fits.crash t pool.state verified.inv
      refine ⟨state ▸ kept, fun u still => ?_⟩
      have other : u ≠ t := by
        intro same
        subst same
        simp [Pool.live, threads, Program.live] at still
      have same : last.thread u = pool.thread u := by simp [threads, other]
      have running : (pool.thread u).live = true := by simpa [Pool.live, same] using still
      rw [same, state]
      exact (verified.safe u running).rely running (relied u other)
  | env change =>
      obtain ⟨acted, threads⟩ := Pool.move_env moved
      obtain ⟨kept, relied⟩ := fits.env _ _ _ _ verified.inv acted
      refine ⟨kept, fun u still => ?_⟩
      have running : (pool.thread u).live = true := by simpa [Pool.live, threads] using still
      rw [threads]
      exact (verified.safe u running).rely running (relied u running)

/-- Every pool that a run of allowed actions reaches is verified, by induction on the run. -/
theorem Run.verified (fits : machine.Fits Γ) (run : Run machine Γ.allowed pool last)
    (verified : pool.Verified Γ)
    : last.Verified Γ := by
  induction run with
  | refl => exact verified
  | step _ move moved permitted ih => exact ih.move fits moved permitted

-----------------------------------------------------------------------------------------
-- Programs that have ended
-----------------------------------------------------------------------------------------

/-- What a move of a verified pool means to a program that does not make it. -/
theorem Pool.Verified.relied (fits : machine.Fits Γ) (verified : pool.Verified Γ)
    {move : Move ι η} (moved : pool.move machine move = some last)
    (allowed : ∀ t input, move = .run t input → Γ.allowed t pool.state last.state) {t : Tid}
    (ended : pool.live t = false)
    : Γ.rely t pool.state last.state ∨ ∃ change, machine.env pool.live pool.state change
      = some last.state := by
  cases move with
  | run u input =>
      obtain ⟨β, act, next, value, current, _, _⟩ := Pool.move_run moved
      have other : u ≠ t := by
        intro same
        simp [Pool.live, ← same, current, Program.live] at ended
      obtain ⟨guaranteed, verified'⟩ := verified.run moved (allowed u input rfl)
      exact Or.inl (Γ.guar_rely other verified.inv verified'.inv guaranteed)
  | crash u =>
      obtain ⟨alive, state, _⟩ := Pool.move_crash moved
      have other : t ≠ u := by
        intro same
        simp [← same, ended] at alive
      exact Or.inl (state ▸ (fits.crash u pool.state verified.inv).2 t other)
  | env change => exact Or.inr ⟨change, (Pool.move_env moved).1⟩

/-- If every program that ends has reached `R`, and `R` stays, then all programs that have ended
are there, by induction on the run.
-/
theorem Steps.ended {R : Tid → σ → Prop} {condition : Pool σ ι → Pool σ ι → Prop}
    (fits : machine.Fits Γ) (every : ∀ t s s', Γ.allowed t s s')
    (rely : ∀ {t s s'}, Γ.rely t s s' → R t s → R t s')
    (env : ∀ {t live s change s'}, machine.env live s change = some s' → R t s → R t s')
    (reaches : ∀ {before after : Pool σ ι} {t}, condition before after → before.live t
      → after.live t = false → R t after.state)
    (steps : Steps machine condition pool last) (verified : pool.Verified Γ)
    (start : ∀ t, pool.live t = false → R t pool.state)
    : last.Verified Γ ∧ ∀ t, last.live t = false → R t last.state := by
  induction steps with
  | refl => exact ⟨verified, start⟩
  | @step middle last _ move moved permitted ih =>
      obtain ⟨verified, there⟩ := ih
      refine ⟨verified.move fits moved fun _ _ _ => every _ _ _, fun t ended => ?_⟩
      by_cases before : middle.live t = true
      · exact reaches permitted before ended
      · have before := Bool.eq_false_iff.mpr before
        rcases verified.relied fits moved (fun _ _ _ => every _ _ _) before with relied | happened
        · exact rely relied (there t before)
        · obtain ⟨change, happened⟩ := happened
          exact env happened (there t before)

-- Safety is not to be unfolded into what happens at each action either.
attribute [irreducible] Protocol.Safe

end Concurrency
