import LuminaRail.Concurrency.Pool

/-! Judging a run by its end. Every state of a run leads to the last one, so what can only grow
along a run has at each of its actions grown to a part of what it is in the end.
-/

namespace Concurrency

variable {σ ι η : Type} {machine : Machine σ η} {allowed allowed' : Tid → σ → σ → Prop}
  {first middle last : Pool σ ι}

/-- A run of actions that are allowed is one of actions that are allowed by a weaker rule, by
induction on the run.
-/
theorem Run.mono (run : Run machine allowed first last)
    (weaker : ∀ t s s', allowed t s s' → allowed' t s s')
    : Run machine allowed' first last := by
  induction run with
  | refl => exact .refl _
  | step _ move moved permitted ih =>
      exact ih.step move moved fun t input same => weaker t _ _ (permitted t input same)

/-- A state that a run from `first` to `last` passes through. -/
def Passes (machine : Machine σ η) (allowed : Tid → σ → σ → Prop) (first last : Pool σ ι)
    (s : σ) : Prop :=
  ∃ pool, Run machine allowed first pool ∧ Run machine allowed pool last ∧ pool.state = s

/-- What has been passed on the way to a pool has been passed wherever the pool leads. -/
theorem Passes.trans {s : σ} (passes : Passes machine allowed first middle s)
    (after : Run machine allowed middle last)
    : Passes machine allowed first last s := by
  obtain ⟨pool, early, late, same⟩ := passes
  exact ⟨pool, early, late.trans after, same⟩

/-- Every action of a run ends in a state that the run passes through, by induction on the run. -/
theorem Run.hindsight (run : Run machine allowed first last)
    : Run machine (fun t s s' => allowed t s s' ∧ Passes machine allowed first last s') first
        last := by
  induction run with
  | refl => exact .refl _
  | @step middle last before move moved permitted ih =>
      have whole : Run machine allowed first last := before.step move moved permitted
      have onward : Run machine allowed middle last := .step (.refl middle) move moved permitted
      refine Run.step (ih.mono fun t s s' given => ⟨given.1, given.2.trans onward⟩) move moved
        fun t input same => ⟨permitted t input same, ?_⟩
      exact ⟨last, whole, .refl last, rfl⟩

end Concurrency
