import LuminaRail.Concurrency.Program

/-! Leases in a key-value server: taken only when free, renewed and released only by the
token that was stored, and free again once they have expired.
-/

namespace Concurrency

/-- The token that one acquisition stores, unique to it. -/
structure Token where
  owner : Tid
  serial : Nat
deriving DecidableEq

variable {κ : Type}

/-- The stored tokens and the serial number of the next one. -/
structure Leases (κ : Type) where
  holder : κ → Option Token
  serial : Nat

namespace Leases

/-- No lease is taken. -/
def start : Leases κ := ⟨fun _ => none, 0⟩

/-- The leases that `t` holds are still held. -/
def Kept (t : Tid) (before after : Leases κ) : Prop :=
  ∀ key token, token.owner = t → before.holder key = some token
    → after.holder key = some token

theorem Kept.refl (t : Tid) (leases : Leases κ) : Kept t leases leases :=
  fun _ _ _ held => held

variable [DecidableEq κ] (leases : Leases κ)

/-- SET key token NX PX ttl. -/
def acquire (owner : Tid) (key : κ) : Option Token × Leases κ :=
  match leases.holder key with
  | some _ => (none, leases)
  | none =>
      (some ⟨owner, leases.serial⟩,
        ⟨Function.update leases.holder key (some ⟨owner, leases.serial⟩), leases.serial + 1⟩)

/-- The key is deleted if it stores this token. -/
def release (key : κ) (token : Token) : Leases κ :=
  if leases.holder key = some token then
    { leases with holder := Function.update leases.holder key none }
  else
    leases

/-- The key's time to live is over. -/
def expire (key : κ) : Leases κ :=
  { leases with holder := Function.update leases.holder key none }

variable {leases} {t : Tid} {key : κ} {token : Token}

/-- An acquisition takes a free key, or changes nothing and reports the key as taken. -/
theorem acquire_cases (leases : Leases κ) (owner : Tid) (key : κ)
    : (∃ token, token.owner = owner ∧ leases.holder key = none
        ∧ (leases.acquire owner key).1 = some token
        ∧ (leases.acquire owner key).2.holder
          = Function.update leases.holder key (some token))
      ∨ ((leases.acquire owner key).1 = none ∧ (leases.acquire owner key).2 = leases) := by
  cases held : leases.holder key with
  | none => exact Or.inl ⟨⟨owner, leases.serial⟩, rfl, rfl, by simp [acquire, held]⟩
  | some token => exact Or.inr (by simp [acquire, held])

/-- Nobody can take a key that is held. -/
theorem acquire_kept (leases : Leases κ) (owner : Tid) (key : κ)
    : Kept t leases (leases.acquire owner key).2 := by
  intro k token _ held
  rcases acquire_cases leases owner key with ⟨taken, _, free, _, after⟩ | ⟨_, same⟩
  · rw [after]
    have different : k ≠ key := by
      intro same
      subst same
      simp [free] at held
    rw [Function.update_of_ne different]
    exact held
  · rw [same]
    exact held

/-- A release with another program's token leaves the lease alone. -/
theorem release_kept (leases : Leases κ) (key : κ) (other : token.owner ≠ t)
    : Kept t leases (leases.release key token) := by
  intro k mine own held
  simp only [release]
  split
  · rename_i stored
    have different : k ≠ key := by
      intro same
      subst same
      exact other (Option.some.inj (stored.symm.trans held) ▸ own)
    simpa [different] using held
  · exact held

end Leases

end Concurrency
