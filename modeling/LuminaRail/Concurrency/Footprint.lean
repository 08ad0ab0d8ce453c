import LuminaRail.Concurrency.RelyGuarantee

/-! What the actions of a program can do, whatever state they start in.
A footprint says nothing about when an action happens, so it composes without any assertion
on the state, and a program whose footprint respects a protocol is safe in it.
-/

namespace Concurrency

variable {σ ι α β ε : Type}

namespace Program

/-- Every action of the program is a step in `φ`, and its values satisfy `Q`. -/
def Each (φ : σ → σ → Prop) (t : Tid) (Q : α → Prop) : Program σ ι α → Prop
  | .done value => Q value
  | .atomic act next =>
      ∀ s input value s', act t s input = some (value, s') → φ s s' ∧ Each φ t Q (next value)

variable {φ φ' : σ → σ → Prop} {t : Tid} {Q Q' : α → Prop} {R : β → Prop}

/-- Footprints can be enlarged, by induction on the program. -/
theorem Each.mono {program : Program σ ι α} (each : program.Each φ t Q)
    (steps : ∀ s s', φ s s' → φ' s s') (values : ∀ value, Q value → Q' value)
    : program.Each φ' t Q' := by
  induction program with
  | done value => exact values value each
  | atomic act next ih =>
      intro s input value s' acted
      obtain ⟨step, rest⟩ := each s input value s' acted
      exact ⟨steps s s' step, ih value rest⟩

/-- The footprint of a composition, by induction on the first program. -/
theorem Each.bind {program : Program σ ι α} {rest : α → Program σ ι β}
    (first : program.Each φ t Q) (second : ∀ value, Q value → (rest value).Each φ t R)
    : (program.bind rest).Each φ t R := by
  induction program with
  | done value => exact second value first
  | atomic act next ih =>
      intro s input value s' acted
      obtain ⟨step, later⟩ := first s input value s' acted
      exact ⟨step, ih value later⟩

/-- A lone run returns one of the values, by induction on the run. -/
theorem Each.alone {program : Program σ ι α} {s s' : σ} {value : α} (each : program.Each φ t Q)
    (run : Alone t program s value s')
    : Q value := by
  induction run with
  | done value s => exact each
  | atomic acted _ ih => exact ih (each _ _ _ _ acted).2

end Program

/-- A condition on the value, if there is one. -/
def returned (Q : α → Prop) : Except ε α → Prop
  | .ok value => Q value
  | .error _ => True

/-- The footprint of a fallible program. -/
def Within (φ : σ → σ → Prop) (t : Tid) (program : ExceptT ε (Program σ ι) α)
    (Q : α → Prop := fun _ => True) : Prop :=
  program.run.Each φ t (returned Q)

namespace Within

variable {φ : σ → σ → Prop} {t : Tid} {Q Q' : α → Prop} {R : β → Prop}

theorem pure {value : α} (holds : Q value)
    : Within φ t (pure value : ExceptT ε (Program σ ι) α) Q :=
  holds

theorem throw (error : ε) : Within φ t (throw error : ExceptT ε (Program σ ι) α) Q :=
  trivial

theorem action {act : Tid → σ → ι → Option (Except ε α × σ)}
    (acts : ∀ s input result s', act t s input = some (result, s')
      → φ s s' ∧ returned Q result)
    : Within φ t (ExceptT.mk (Program.action act)) Q :=
  fun s input result s' acted => acts s input result s' acted

theorem weaken {program : ExceptT ε (Program σ ι) α} (within : Within φ t program Q)
    (values : ∀ value, Q value → Q' value)
    : Within φ t program Q' := by
  refine Program.Each.mono within (fun _ _ step => step) fun result holds => ?_
  cases result with
  | ok value => exact values value holds
  | error error => trivial

theorem forget {program : ExceptT ε (Program σ ι) α} (within : Within φ t program Q)
    : Within φ t program :=
  within.weaken fun _ _ => trivial

/-- What a lone run returns, if it returns. -/
theorem alone {program : ExceptT ε (Program σ ι) α} {s s' : σ} {value : α}
    (within : Within φ t program Q) (run : Program.Alone t program.run s (.ok value) s')
    : Q value := by
  have holds : returned Q (.ok value : Except ε α) := Program.Each.alone within run
  exact holds

theorem bind {program : ExceptT ε (Program σ ι) α}
    {rest : α → ExceptT ε (Program σ ι) β} (first : Within φ t program Q)
    (second : ∀ value, Q value → Within φ t (rest value) R)
    : Within φ t (program >>= rest) R := by
  refine Program.Each.bind first fun result holds => ?_
  cases result with
  | ok value => exact second value holds
  | error error => trivial

theorem tryCatch {program : ExceptT ε (Program σ ι) α}
    {handler : ε → ExceptT ε (Program σ ι) α} (body : Within φ t program Q)
    (handled : ∀ error, Within φ t (handler error) Q)
    : Within φ t (tryCatch program handler) Q := by
  refine Program.Each.bind body fun result holds => ?_
  cases result with
  | ok value => exact holds
  | error error => exact handled error

theorem map {program : ExceptT ε (Program σ ι) α} {f : α → β}
    (within : Within φ t program fun value => R (f value))
    : Within φ t (f <$> program) R := by
  refine Program.Each.bind within fun result holds => ?_
  cases result with
  | ok value => exact holds
  | error error => trivial

/-- Every program has some footprint, by induction on the program. -/
theorem any {program : ExceptT ε (Program σ ι) α} : Within (fun _ _ => True) t program := by
  have each (program : Program σ ι (Except ε α))
      : program.Each (fun _ _ => True) t (returned fun _ => True) := by
    induction program with
    | done result => cases result <;> trivial
    | atomic act next ih => exact fun _ _ value _ _ => ⟨trivial, ih value⟩
  exact each program.run

/-- A loop over a list stays within the footprint of its body, by induction on the list. -/
theorem forM {items : List β} {body : β → ExceptT ε (Program σ ι) Unit}
    (each : ∀ item ∈ items, Within φ t (body item))
    : Within φ t (items.forM body) := by
  induction items with
  | nil => exact Within.pure trivial
  | cons item items ih =>
      exact Within.bind (each item List.mem_cons_self) fun _ _ =>
        ih fun other member => each other (List.mem_cons_of_mem item member)

end Within

namespace Protocol

variable {Γ : Protocol σ} {φ : σ → σ → Prop} {t : Tid} {P : σ → Prop} {Q : α → Prop}

/-- The steps of a footprint keep a protocol and an assertion. -/
def Respects (Γ : Protocol σ) (t : Tid) (φ : σ → σ → Prop) (P : σ → Prop) : Prop :=
  ∀ s s', Γ.inv s → P s → φ s s' → Γ.allowed t s s' → Γ.inv s' ∧ Γ.guar t s s' ∧ P s'

/-- Steps that are as vowed also respect the protocol with the vow. -/
theorem Respects.vowing {vow : Tid → σ → σ → Prop} (respects : Γ.Respects t φ P)
    (vowed : ∀ s s', Γ.inv s → P s → φ s s' → Γ.allowed t s s' → vow t s s')
    : (Γ.vowing vow).Respects t φ P := by
  intro s s' holds given step allowed
  obtain ⟨kept, guaranteed, still⟩ := respects s s' holds given step allowed
  exact ⟨kept, ⟨guaranteed, vowed s s' holds given step allowed⟩, still⟩

/-- A program whose footprint respects the protocol is safe in it, by induction on the
program.
-/
theorem Safe.of_each {program : Program σ ι α} {s : σ} (each : program.Each φ t Q)
    (respects : Γ.Respects t φ P) (stable : Γ.Stable t P) (holds : Γ.inv s) (given : P s)
    : Γ.Safe t (fun value s => Q value ∧ P s) program s := by
  induction program generalizing s with
  | done value => exact Safe.done ⟨each, given⟩
  | atomic act next ih =>
      refine Safe.atomic ?_
      intro s₁ moved holds₁ input value s₂ acted allowed
      obtain ⟨step, rest⟩ := each s₁ input value s₂ acted
      have waited := stable s s₁ holds holds₁ moved given
      obtain ⟨kept, guaranteed, still⟩ := respects s₁ s₂ holds₁ waited step allowed
      exact ⟨kept, guaranteed, ih value rest kept still⟩

/-- The specification of a call of which only the footprint matters. -/
theorem Spec.of_within {program : ExceptT ε (Program σ ι) α} (within : Within φ t program Q)
    (respects : Γ.Respects t φ P) (stable : Γ.Stable t P)
    : Γ.Spec t P program (fun value s => Q value ∧ P s) (fun _ s => P s) := by
  refine Spec.of_safe fun s holds given => ?_
  refine (Safe.of_each within respects stable holds given).mono holds fun result s' _ ends => ?_
  cases result with
  | ok value => exact ends
  | error error => exact ends.2

end Protocol

-- A footprint is not to be unfolded into the actions of its program.
attribute [irreducible] Within

end Concurrency
