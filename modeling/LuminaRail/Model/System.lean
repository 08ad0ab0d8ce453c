import LuminaRail.Model.Rules

/-! The system as a pool of service calls over one world.
Transactions time out and leases expire without anybody's doing; a process may crash between
two actions and leaves its open transactions and its leases behind.
-/

namespace LuminaRail

open Concurrency Database

/-- What happens by itself. -/
inductive Chance
  | tick (milliseconds : Nat)
  | abort (x : TxId)
  | expire (key : String)
  | loseLock (token : Token)

def Chance.apply (world : World) : Chance → World
  | .tick milliseconds => { world with clock := world.clock + milliseconds }
  | .abort x => { world with db := world.db.rollback x }
  | .expire key => { world with redis := world.redis.expire key }
  | .loseLock token => { world with lost := Function.update world.lost token true }

/-- Anything may happen by itself, but a lease only expires when the policy lets it. -/
def machine (mayExpire : (Tid → Bool) → World → String → Bool) : Machine World Chance where
  env live world chance :=
    match chance with
    | .expire key => if mayExpire live world key then some (chance.apply world) else none
    | _ => some (chance.apply world)
  crash t world := { world with trace := .crashed t :: world.trace }

/-- A lease may expire at any time. -/
abbrev anyExpiry : (Tid → Bool) → World → String → Bool := fun _ _ _ => true

/-- A service call as a thread: nobody looks at how it ends. -/
def Service.thread {α : Type} (service : Service α) : Program World Input Unit :=
  service.run.bind fun _ => .done ()

variable {mayExpire : (Tid → Bool) → World → String → Bool} {live : Tid → Bool}
  {world after : World} {chance : Chance} {t : Tid}

/-- What happens by itself is the effect of the chance. -/
theorem machine_env (happened : (machine mayExpire).env live world chance = some after)
    : after = chance.apply world
      ∧ ∀ key, chance = .expire key → mayExpire live world key = true := by
  simp only [machine] at happened
  split at happened
  · rename_i key
    split at happened
    · obtain rfl := Option.some.inj happened
      rename_i allowed
      refine ⟨rfl, fun other same => ?_⟩
      obtain rfl := Chance.expire.inj same
      exact allowed
    · simp at happened
  · rename_i other
    obtain rfl := Option.some.inj happened
    exact ⟨rfl, fun key same => absurd same (other key)⟩

/-- Nothing is committed by chance. -/
@[simp]
theorem Chance.apply_committed (world : World) (chance : Chance)
    : (chance.apply world).db.committed = world.db.committed := by
  cases chance <;> rfl

@[simp]
theorem Chance.apply_trace (world : World) (chance : Chance)
    : (chance.apply world).trace = world.trace := by
  cases chance <;> rfl

/-- Chance does not interfere with open transactions, except by ending them. -/
theorem Chance.apply_isolated (world : World) (chance : Chance) (t : Tid)
    : Server.Isolated t world.db (chance.apply world).db := by
  cases chance with
  | abort x => exact Server.rollback_isolated world.db x
  | _ => exact Server.Isolated.refl t world.db

/-- A verified service call is a safe thread. -/
theorem Service.thread_safe {α : Type} {service : Service α} {Γ : Protocol World}
    {P : World → Prop} {Q : α → World → Prop} {E : AppError → World → Prop}
    (spec : Γ.Spec t P service Q E) (holds : Γ.inv world) (given : P world)
    : Γ.Safe t (fun _ _ => True) service.thread world :=
  Protocol.Safe.bind (spec.safe holds given) (fun _ _ _ _ => Protocol.Safe.done trivial) holds

end LuminaRail
